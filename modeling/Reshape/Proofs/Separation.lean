import Reshape.Proofs.Continuation
import Reshape.Proofs.Precedence

/-!
# Tokens in front of a separator

After a statement come a gap, a sign or both, and then the verb of the next one. `Severs` says what
of this matters to the tokens of the statement: nothing of it goes on with a token, and nothing of
it is read as a further operator. So tokens are read as if nothing came after them.

Texts between quotes are the exception. They are read alike, but a quote that is not closed may find
its other one far behind the separator.
-/

namespace Reshape.Grammar

open Reshape.Parser Reshape.Text

/-- The characters that separate two statements. -/
def separators : List Char := [' ', '\t', '\r', '\n', ';', '|']

/-- The characters that verbs begin with. -/
def verbHeads : List Char := ['f', 'm', 'r', 'a', 'F', 'M', 'R', 'A']

theorem mem_separators_of_isSpace {c : Char} (h : isSpace c) : c ∈ separators := by
  rcases isSpace_iff.1 h with rfl | rfl | rfl | rfl <;> decide

/-- Letters that begin a verb are few, in either case. -/
theorem mem_verbHeads {c : Char} (h : c.isAlpha) (hlower : c.toLower ∈ ['f', 'm', 'r', 'a']) :
    c ∈ verbHeads := by
  have hpoint : c.toNat < 0x7B := by
    unfold Char.isAlpha Char.isUpper Char.isLower at h
    simp only [Bool.or_eq_true, Bool.and_eq_true, decide_eq_true_eq] at h
    rcases h with ⟨-, hhigh⟩ | ⟨-, hhigh⟩
    · exact Nat.lt_of_le_of_lt (UInt32.le_iff_toNat_le.1 hhigh) (by decide)
    · exact Nat.lt_of_le_of_lt (UInt32.le_iff_toNat_le.1 hhigh) (by decide)
  -- there are no more letters than these code points, so all of them are tried
  have hall : ∀ n < 0x7B, (Char.ofNat n).toLower ∈ ['f', 'm', 'r', 'a'] →
      Char.ofNat n ∈ verbHeads := by decide +kernel
  have hc := hall c.toNat hpoint
  rw [Char.ofNat_toNat] at hc
  exact hc hlower

/-- What comes next is no part of a statement that ends here. -/
structure Severs (more : List Char) : Prop where
  head : ∀ c ∈ more.head?, c ∈ separators
  next : ∀ c ∈ (skipSpaces more).head?, c ∈ separators ++ verbHeads
  no_keyword : ∀ w ∈ reservedWords, (keyword w).Fails (skipSpaces more)
  /-- A single sign `|` separates, two of them are an operator. -/
  no_concat : (sign "||").Fails (skipSpaces more)

section

variable {more text longer : List Char} (hmore : Severs more)
include hmore

/-- A class of characters that has none of a separator ends in front of it. -/
theorem Severs.bars {test : Char → Bool} (h : ∀ c ∈ separators ++ verbHeads, ¬test c) :
    Bars more test := by
  rintro c (hc | hc)
  · exact h c (List.mem_append_left _ (hmore.head c hc))
  · exact h c (hmore.next c hc)

/-- No name goes on behind a statement. -/
theorem Severs.not_isNameChar : ∀ c ∈ more.head?, ¬isNameChar c := by
  have hall : ∀ c ∈ separators, ¬isNameChar c := by decide
  exact fun c hc => hall c (hmore.head c hc)

theorem Severs.not_isNameChar_append {rest : List Char} (h : ∀ c ∈ rest.head?, ¬isNameChar c) :
    ∀ c ∈ (rest ++ more).head?, ¬isNameChar c := by
  intro c hc
  rcases (Extends.append rest).head hc with hc | ⟨rfl, -⟩
  · exact h c hc
  · exact hmore.not_isNameChar c hc

/-! ## Words and names -/

omit hmore in
/-- A word is read off the front of the text. -/
theorem word_eq_ok {w : String} {rest : List Char} {a : Unit} (h : word w text = .ok (a, rest)) :
    ∃ t, text = t ++ rest ∧ sameWord w.toList t := by
  rw [word] at h
  split at h
  · next hsame =>
    obtain ⟨-, rfl⟩ := Prod.mk.inj (Except.ok.inj h)
    exact ⟨_, (List.take_append_drop w.toList.length text).symm, hsame⟩
  · exact absurd h (by simp)

omit hmore in
/-- A word is read alike whatever comes after it. -/
theorem carries_word {w : String} (hw : IsWord w) : Carries more (word w) fun _ => True := by
  intro text longer a rest hlonger hrun _
  obtain ⟨t, rfl, hsame⟩ := word_eq_ok hrun
  -- a word is not empty, so the longer text has it too and differs behind it
  obtain rfl := hlonger.eq_append (List.append_ne_nil_of_left_ne_nil (hw.ne_nil hsame) rest)
  rw [List.append_assoc]
  exact ⟨rest ++ more, word_ok hsame _, .append rest⟩

omit hmore in
/-- A keyword is a word at whose end no name goes on. -/
theorem keyword_eq_ok {w : String} {rest : List Char} {a : Unit}
    (h : keyword w text = .ok (a, rest)) :
    ∃ t, text = t ++ rest ∧ sameWord w.toList t ∧ ∀ c ∈ rest.head?, ¬isNameChar c := by
  obtain ⟨b, left, hword, hend⟩ := bind_eq_ok h
  obtain ⟨t, htext, hsame⟩ := word_eq_ok hword
  rw [absent] at hend
  split at hend
  · exact absurd hend (by simp)
  · next e hfails =>
    obtain ⟨-, rfl⟩ := Prod.mk.inj (Except.ok.inj hend)
    refine ⟨t, htext, hsame, fun c hc hname => ?_⟩
    -- if a name did go on here, the absence of one would not have been seen
    obtain ⟨tail, rfl⟩ := List.head?_eq_some_iff.1 hc
    exact absurd (hfails.symm.trans (satisfy_ok hname tail)) (by simp)

omit hmore in
/-- A keyword is read wherever the longest name is that very word. -/
theorem not_sameWord_of_fails {w : String} (hw : IsWord w) (h : (keyword w).Fails text) :
    ¬sameWord w.toList (text.takeWhile isNameChar) := by
  intro hsame
  have hrest := head_dropWhile isNameChar text
  have hrun := keyword_ok hw hsame (keptApart_of_head hrest _)
  rw [List.takeWhile_append_dropWhile] at hrun
  obtain ⟨e, he⟩ := h
  exact absurd (he.symm.trans hrun) (by simp)

theorem Severs.steady_keyword {w : String} (hw : w ∈ reservedWords) : Steady more (keyword w) where
  reads := by
    intro text longer a rest hlonger hrun _
    have hword := isWord_of_mem_reservedWords w hw
    obtain ⟨t, rfl, hsame, hrest⟩ := keyword_eq_ok hrun
    obtain rfl := hlonger.eq_append (List.append_ne_nil_of_left_ne_nil (hword.ne_nil hsame) rest)
    refine ⟨rest ++ more, ?_, .append rest⟩
    rw [List.append_assoc]
    exact keyword_ok hword hsame (keptApart_of_head (hmore.not_isNameChar_append hrest) t)
  fails := by
    intro text longer hlonger hfails
    have hword := isWord_of_mem_reservedWords w hw
    cases hlonger with
    | append =>
      refine keyword_fails hword ?_
      rw [takeWhile_append_of_head hmore.not_isNameChar]
      exact not_sameWord_of_fails hword hfails
    | skipped => exact hmore.no_keyword w hw

omit hmore in
/-- A name that is read is the longest one that stands there. -/
theorem name_eq_ok {n : String} {rest : List Char} (h : name text = .ok (n, rest)) :
    IsName n ∧ text = n.toList ++ rest ∧ ∀ c ∈ rest.head?, ¬isNameChar c := by
  obtain ⟨cs, hread, rfl⟩ := map_eq_ok h
  obtain ⟨hread, hfree⟩ := accepting_eq_ok hread
  obtain ⟨c, left, hfirst, hmore⟩ := bind_eq_ok hread
  obtain ⟨run, left', hrun, hend⟩ := bind_eq_ok hmore
  obtain ⟨rfl, rfl⟩ := Prod.mk.inj (Except.ok.inj hend)
  obtain ⟨rfl, rfl⟩ := Prod.mk.inj (Except.ok.inj hrun)
  obtain ⟨hstart, rfl⟩ := satisfy_eq_ok hfirst
  refine ⟨?_, by simp, head_dropWhile isNameChar left⟩
  simp only [IsName, String.toList_ofList]
  exact ⟨hstart, List.all_takeWhile, by simpa using hfree⟩

/-- A name is not prolonged by what severs. -/
theorem Severs.carries_name : Carries more name fun _ => True := by
  intro text longer n rest hlonger hrun _
  obtain ⟨hn, rfl, hrest⟩ := name_eq_ok hrun
  obtain rfl := hlonger.eq_append (List.append_ne_nil_of_left_ne_nil hn.startsWith.ne_nil rest)
  refine ⟨rest ++ more, ?_, .append rest⟩
  rw [List.append_assoc]
  exact name_ok hn (hmore.not_isNameChar_append hrest)

/-! ## Numbers -/

theorem Severs.steady_number : Steady more number := by
  have hdigits : Steady more digits := steady_digits (hmore.bars (by decide))
  have hexponent : Steady more Numeral.exponentParser :=
    (steady_oneOf (hmore.bars (by decide))).bind fun _ =>
      (steady_oneOf (hmore.bars (by decide))).optional.bind fun _ =>
        hdigits.bind fun _ => steady_pure _
  refine Steady.converting ?_ _
  exact (steady_char (hmore.bars (by decide))).optional.bind fun _ => hdigits.bind fun _ =>
    ((steady_char (hmore.bars (by decide))).seqRight hdigits).optional.bind fun _ =>
      hexponent.optional.bind fun _ => steady_pure _

theorem Severs.steady_index : Steady more index := by
  have hdigits : Steady more digits := steady_digits (hmore.bars (by decide))
  constructor
  · intro text longer n rest hlonger hrun _
    rw [index] at hrun
    split at hrun
    · next ds between hread =>
      dsimp only at hrun
      split at hrun
      · next hn =>
        obtain ⟨rfl, rfl⟩ := Prod.mk.inj (Except.ok.inj hrun)
        obtain ⟨left, hleft, hrest⟩ := hdigits.reads text longer ds between hlonger hread trivial
        exact ⟨left, by rw [index, hleft]; exact if_pos hn, hrest⟩
      · exact absurd hrun (by simp)
    · exact absurd hrun (by simp)
  · rintro text longer hlonger ⟨e, he⟩
    cases hread : digits text with
    | error e' =>
      obtain ⟨e'', hlong⟩ := hdigits.fails text longer hlonger ⟨e', hread⟩
      exact ⟨e'', by rw [index, hlong]⟩
    | ok r =>
      obtain ⟨left, hleft, -⟩ := hdigits.reads text longer r.1 r.2 hlonger hread trivial
      rw [index, hread] at he
      -- either the digits make an index, or their number is too great in both texts
      by_cases hn : Nat.ofDigitChars 10 r.1 0 < Selector.indexBound
      · exact absurd he (by simp [hn])
      · exact ⟨_, by rw [index, hleft]; exact if_neg hn⟩

/-! ## Texts between quotes -/

omit hmore in
/-- A text between quotes ends at the first closing one. -/
theorem quoted_eq_ok {quote : Char} {s : String} {rest : List Char}
    (h : quoted quote text = .ok (s, rest)) :
    quote ∉ s.toList ∧ text = quote :: (s.toList ++ quote :: rest) := by
  obtain ⟨_, left, hopen, hinside⟩ := bind_eq_ok h
  obtain rfl := char_eq_ok hopen
  obtain ⟨cs, left', hread, hmore⟩ := bind_eq_ok hinside
  obtain ⟨_, left'', hclose, hend⟩ := bind_eq_ok hmore
  obtain ⟨rfl, rfl⟩ := Prod.mk.inj (Except.ok.inj hread)
  obtain ⟨rfl, rfl⟩ := Prod.mk.inj (Except.ok.inj hend)
  have hsplit := char_eq_ok hclose
  constructor
  · rw [String.toList_ofList]
    intro hquote
    have hother := List.all_eq_true.1 List.all_takeWhile quote hquote
    simp at hother
  · rw [String.toList_ofList, ← hsplit, List.takeWhile_append_dropWhile]

omit hmore in
/-- A text between quotes is closed already, so it carries over whatever follows. -/
theorem carries_quoted (quote : Char) : Carries more (quoted quote) fun _ => True := by
  intro text longer s rest hlonger hrun _
  obtain ⟨hfree, rfl⟩ := quoted_eq_ok hrun
  obtain rfl := hlonger.cons
  refine ⟨rest ++ more, ?_, .append rest⟩
  rw [List.append_assoc, List.cons_append]
  exact quoted_ok hfree (rest ++ more)

/-- No literal is prolonged by what severs. -/
theorem Severs.carries_literal : Carries more literal fun _ => True := by
  have hword {w : String} (hw : w ∈ reservedWords) (value : Literal) :
      Steady more (do keyword w; return value : Parser Literal) :=
    (hmore.steady_keyword hw).bind fun _ => steady_pure value
  refine (hword (by decide) _).orElse_carries ((hword (by decide) _).orElse_carries
    ((hword (by decide) _).orElse_carries ((hmore.steady_number.map _).orElse_carries
      (Carries.map ?_ _))))
  -- where the one quote stands, the other one does not
  refine (carries_quoted '"').orElse (carries_quoted '\'') ?_
  intro text longer s rest hlonger _ hrun _
  obtain ⟨-, rfl⟩ := quoted_eq_ok hrun
  obtain rfl := hlonger.cons
  exact quoted_fails (by simp)

/-! ## Signs -/

/-- Signs of comparison are read alike before what severs. -/
theorem Severs.steady_comparator : Steady more comparator := by
  have hsign (op : Comparator) : Steady more (do sign op.symbol; return op : Parser Comparator) :=
    (steady_sign (by cases op <;> decide) (hmore.bars (by cases op <;> decide))).bind fun _ =>
      steady_pure op
  have hall (ops : List Comparator) : Steady more (comparatorOf ops) := by
    induction ops with
    | nil => exact ⟨fun _ _ _ _ _ hrun => absurd hrun (by simp [comparatorOf, fail]),
        fun _ longer _ _ => ⟨_, rfl⟩⟩
    | cons op ops ih =>
      cases ops with
      | nil => exact hsign op
      | cons next ops => exact (hsign op).orElse ih
  exact hall Comparator.all

/-- Each operator carries over, also the sign that a separator could be taken for the half of. -/
theorem Severs.carries_expressionOperator (k : Nat) :
    Carries more (expressionOperator k) fun _ => True := by
  have hsteady (op : ArithmeticOp) : Steady more (arithmeticOp op) :=
    (steady_char (hmore.bars (by cases op <;> decide))).bind fun _ => steady_pure _
  rcases k with _ | _ | k
  · exact (carries_sign "||" (by decide) _).bind_pure _
  · exact ((hsteady .add).orElse (hsteady .subtract)).reads
  · exact ((hsteady .multiply).orElse (hsteady .divide)).reads

/-- What severs does not begin with an operator. -/
theorem Severs.no_operator (k : Nat) : (expressionOperator k).Fails (skipSpaces more) := by
  -- separators and first letters of verbs, none of which begins an operator of these tiers
  have hheads : ∀ c ∈ separators ++ verbHeads, c ∉ operatorHeads 1 ++ operatorHeads 2 := by decide
  rcases k with _ | _ | k
  · exact hmore.no_concat.bind
  · exact expressionOperator_fails fun c hc hmem =>
      hheads c (hmore.next c hc) (List.mem_append_left _ hmem)
  · exact expressionOperator_fails fun c hc hmem =>
      hheads c (hmore.next c hc) (List.mem_append_right _ hmem)

theorem Severs.expressionOperator_fails (hlonger : Extends more text longer) {k : Nat}
    (h : ∀ c ∈ (skipSpaces text).head?, c ∉ operatorHeads k) :
    (expressionOperator k).Fails (skipSpaces longer) := by
  -- where nothing is left of the text, what severs comes next
  cases htext : skipSpaces text with
  | nil =>
    rw [hlonger.skipSpaces_eq htext]
    exact hmore.no_operator k
  | cons c tail =>
    have hskipped := hlonger.skipSpaces
    rw [htext] at hskipped h
    rw [hskipped.cons]
    exact Grammar.expressionOperator_fails fun d hd => h d hd

/-- Where no sign of comparison stood, what severs brings none. -/
theorem Severs.comparator_fails (hlonger : Extends more text longer)
    (h : ∀ c ∈ (skipSpaces text).head?, c ∉ comparatorHeads) :
    comparator.Fails (skipSpaces longer) :=
  hmore.steady_comparator.fails _ _ hlonger.skipSpaces (Grammar.comparator_fails h)

/-- A word between predicates is not completed by what severs. -/
theorem Severs.steady_predicateOperator (k : Nat) : Steady more (predicateOperator k) := by
  cases k with
  | zero => exact (hmore.steady_keyword (by decide)).bind fun _ => steady_pure _
  | succ k => exact (hmore.steady_keyword (by decide)).bind fun _ => steady_pure _

end

end Reshape.Grammar
