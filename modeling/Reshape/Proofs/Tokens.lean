import Reshape.Proofs.Outcomes
import Reshape.Syntax.WellFormed

/-!
# Tokens are read back

Names, words, numbers, text literals, indexes and signs: each is read back from its text, and no
parser of another token takes it. A word is told from a name that begins with it by the character
after it, so these results ask what comes after the text.
-/

namespace Reshape

open Reshape.Parser Reshape.Text

namespace Grammar

/-! ## Words -/

/-- The word is written in letters only. -/
def IsWord (w : String) : Prop := w.toList ≠ [] ∧ w.toList.all fun a => a.toLower.isAlpha

instance (w : String) : Decidable (IsWord w) := inferInstanceAs (Decidable (_ ∧ _))

theorem isWord_of_mem_reservedWords : ∀ w ∈ reservedWords, IsWord w := by decide

theorem isWord_verb (verb : Verb) : IsWord verb.word := by cases verb <;> decide

section

variable {w : String} {t rest text : List Char}

theorem IsWord.ne_nil (hw : IsWord w) (h : sameWord w.toList t) : t ≠ [] := by
  rintro rfl
  have hlength := length_eq_of_sameWord h
  exact hw.1 (List.eq_nil_of_length_eq_zero hlength)

/-- A word is letters, in whatever case it is written. -/
theorem IsWord.isAlpha (hw : IsWord w) (h : sameWord w.toList t) : ∀ c ∈ t, c.isAlpha :=
  isAlpha_of_sameWord (List.all_eq_true.1 hw.2) h

theorem IsWord.startsWith (hw : IsWord w) (h : sameWord w.toList t) :
    StartsWith (fun c => c.isAlpha) t :=
  startsWith_of_forall (hw.ne_nil h) (hw.isAlpha h)

theorem IsWord.isNameChar (hw : IsWord w) (h : sameWord w.toList t) : ∀ c ∈ t, isNameChar c :=
  fun c hc => isNameChar_of_isAlpha (hw.isAlpha h c hc)

/-- What is kept apart from a word does not go on with a name. -/
theorem IsWord.keptApart (hw : IsWord w) (h : sameWord w.toList t) (hrest : KeptApart t rest) :
    ∀ c ∈ rest.head?, ¬Reshape.isNameChar c :=
  hrest.head (endsWith_of_forall (hw.ne_nil h) (hw.isNameChar h))

/-- A word is read whatever comes after it. -/
theorem word_ok (h : sameWord w.toList t) (rest : List Char) :
    word w (t ++ rest) = .ok ((), rest) := by
  have hlength : w.toList.length = t.length := length_eq_of_sameWord h
  simp [word, hlength, h]

/-- A word that is read stands in front of the rest. -/
theorem word_fails_or (w : String) (text : List Char) :
    (word w).Fails text ∨ ∃ t rest, text = t ++ rest ∧ sameWord w.toList t := by
  by_cases h : sameWord w.toList (text.take w.toList.length)
  · exact .inr ⟨_, _, (List.take_append_drop w.toList.length text).symm, h⟩
  · exact .inl ⟨⟨text, .word⟩, if_neg h⟩

/-- A keyword is read where no name goes on after it. -/
theorem keyword_ok (hw : IsWord w) (h : sameWord w.toList t) (hrest : KeptApart t rest) :
    keyword w (t ++ rest) = .ok ((), rest) := by
  rw [keyword, bind_ok (word_ok h rest)]
  exact absent_ok (satisfy_fails (hw.keptApart h hrest))

/-- A keyword is read only where the longest name is that very word. -/
theorem keyword_fails (hw : IsWord w) (h : ¬sameWord w.toList (text.takeWhile isNameChar)) :
    (keyword w).Fails text := by
  -- either another text stands there, or a name goes on after the word
  rcases word_fails_or w text with hfails | ⟨t, rest, rfl, hsame⟩
  · exact hfails.bind
  · refine bind_fails (word_ok hsame rest) ?_
    by_cases hrest : ∃ c ∈ rest.head?, isNameChar c
    · obtain ⟨c, hc, hname⟩ := hrest
      obtain ⟨more, rfl⟩ := List.head?_eq_some_iff.1 hc
      exact absent_fails (satisfy_ok hname more)
    · -- The word ends here, so it is the longest name.
      refine absurd ?_ h
      rwa [takeWhile_run (hw.isNameChar hsame) fun c hc hname => hrest ⟨c, hc, hname⟩]

theorem keyword_fails_of_head (hw : IsWord w) (h : ∀ c ∈ text.head?, ¬c.isAlpha) :
    (keyword w).Fails text := by
  rcases word_fails_or w text with hfails | ⟨t, rest, rfl, hsame⟩
  · exact hfails.bind
  · obtain ⟨c, hc, halpha⟩ := (hw.startsWith hsame).append rest
    exact absurd halpha (h c hc)

/-- One keyword is not read where another one stands. -/
theorem keyword_fails_of_word {v : String} (hw : IsWord w) (hv : IsWord v)
    (hother : w.toList.map Char.toLower ≠ v.toList.map Char.toLower)
    (h : sameWord v.toList t) (hrest : KeptApart t rest) : (keyword w).Fails (t ++ rest) := by
  refine keyword_fails hw fun hsame => hother ?_
  -- the longest name is the other word
  rw [takeWhile_run (hv.isNameChar h) (hv.keptApart h hrest)] at hsame
  rw [sameWord_iff.1 hsame, sameWord_iff.1 h]

end

/-! ## Names -/

section

variable {n : String} {rest : List Char}

/-- A name is a first character, others, and no reserved word. -/
theorem isName_cons (h : IsName n) : ∃ c cs, n.toList = c :: cs ∧ isNameStart c ∧
    (∀ c' ∈ cs, isNameChar c') ∧ ¬isReserved (c :: cs) := by
  unfold IsName at h
  split at h
  · exact h.elim
  · next c cs hcs => exact ⟨c, cs, hcs, h.1, fun c' hc' => List.all_eq_true.1 h.2.1 c' hc', h.2.2⟩

theorem isNameChar_of_isName (h : IsName n) : ∀ c ∈ n.toList, isNameChar c := by
  obtain ⟨c, cs, hcs, hstart, hmore, -⟩ := isName_cons h
  rw [hcs]
  intro c' hc'
  rcases List.mem_cons.1 hc' with rfl | hc'
  · exact isNameChar_of_isNameStart hstart
  · exact hmore c' hc'

/-- A name is read where it ends. -/
theorem name_ok (h : IsName n) (hrest : ∀ c ∈ rest.head?, ¬isNameChar c) :
    name (n.toList ++ rest) = .ok (n, rest) := by
  obtain ⟨c, cs, hcs, hstart, hmore, hfree⟩ := isName_cons h
  have hread : (do
      let first ← satisfy .charClass isNameStart
      return first :: (← takeWhile isNameChar) : Parser (List Char)) (n.toList ++ rest) =
      .ok (n.toList, rest) := by
    rw [hcs, List.cons_append, bind_ok (satisfy_ok hstart _), bind_ok (takeWhile_ok hmore hrest)]
    rfl
  rw [name, map_ok _ (accepting_ok hread (by rw [hcs]; simpa using hfree)), String.ofList_toList]

/-- A name is not read as a keyword, also not when it begins with one. -/
theorem keyword_fails_of_name {w : String} (hreserved : w ∈ reservedWords) (h : IsName n)
    (hrest : ∀ c ∈ rest.head?, ¬isNameChar c) : (keyword w).Fails (n.toList ++ rest) := by
  obtain ⟨c, cs, hcs, -, -, hfree⟩ := isName_cons h
  refine keyword_fails (isWord_of_mem_reservedWords w hreserved) fun hsame => hfree ?_
  rw [takeWhile_run (isNameChar_of_isName h) hrest, hcs] at hsame
  exact List.any_eq_true.2 ⟨w, hreserved, hsame⟩

end

/-! ## Numbers -/

section

variable {t rest text : List Char}

/-- What comes after a number is not read as a part of it. -/
structure EndsNumber (rest : List Char) : Prop where
  no_digit : ∀ c ∈ rest.head?, ¬c.isDigit
  no_point : '.' ∉ rest.head?
  no_exponent : ∀ c ∈ rest.head?, c ∉ ['e', 'E']

theorem isDigit_toDigits {n : Nat} : ∀ c ∈ Nat.toDigits 10 n, c.isDigit :=
  fun _ hc => Nat.isDigit_of_mem_toDigits (by decide) (by decide) hc

theorem startsWith_toDigits (n : Nat) : StartsWith (fun c => c.isDigit) (Nat.toDigits 10 n) :=
  startsWith_of_forall Nat.toDigits_ne_nil isDigit_toDigits

theorem endsWith_toDigits (n : Nat) : EndsWith (fun c => isNameChar c) (Nat.toDigits 10 n) :=
  endsWith_of_forall Nat.toDigits_ne_nil fun c hc => isNameChar_of_isDigit (isDigit_toDigits c hc)

theorem index_ok {n : Nat} (hn : n < Selector.indexBound) (hrest : ∀ c ∈ rest.head?, ¬c.isDigit) :
    index (Nat.toDigits 10 n ++ rest) = .ok (n, rest) := by
  rw [index, digits_ok isDigit_toDigits Nat.toDigits_ne_nil hrest]
  simp [Nat.ofDigitChars_ten_toDigits, hn]

/-- A number of digits alone is read in full wherever its digits are. -/
theorem numeral_ok {whole : Parser (List Char)} {negative : Bool} {ds : List Char}
    (hds : ∀ c ∈ ds, c.isDigit) (hne : ds ≠ []) (hwhole : whole (ds ++ rest) = .ok (ds, rest))
    (hrest : EndsNumber rest) :
    Numeral.parser whole ((if negative then ['-'] else []) ++ (ds ++ rest)) =
      .ok (⟨negative, ds, none, none⟩, rest) := by
  have hminus : Parser.optional (char '-') ((if negative then ['-'] else []) ++ (ds ++ rest)) =
      .ok (if negative then some '-' else none, ds ++ rest) := by
    cases negative with
    | true => exact optional_ok (char_ok '-' _)
    | false =>
      -- a digit comes first, so there is no minus sign to read
      obtain ⟨d, ds, rfl⟩ := List.exists_cons_of_ne_nil hne
      refine optional_none (char_fails fun hd => ?_)
      have hd : d = '-' := Option.some.inj hd
      have hdigit := hds d List.mem_cons_self
      rw [hd] at hdigit
      exact absurd hdigit (by decide)
  have hfraction : Parser.optional (char '.' *> digits) rest = .ok (none, rest) :=
    optional_none (char_fails hrest.no_point).seqRight
  have hexponent : Parser.optional Numeral.exponentParser rest = .ok (none, rest) :=
    optional_none (oneOf_fails hrest.no_exponent).bind
  rw [Numeral.parser, bind_ok hminus, bind_ok hwhole, bind_ok hfraction, bind_ok hexponent]
  cases negative <;> rfl

/-- An integer is written as its digits, with a minus sign in front when it is negative. -/
theorem write_int (n : Int) : ∃ negative m,
    (Number.int n).write = (if negative then ['-'] else []) ++ Nat.toDigits 10 m ∧
      Decimal.signed negative (Nat.toDigits 10 m) = n ∧ (negative → n ≠ 0) := by
  cases n with
  | ofNat m => exact ⟨false, m, rfl, by simp [Decimal.signed], by simp⟩
  | negSucc m => exact ⟨true, m + 1, rfl, by simp [Decimal.signed]; omega, by simp⟩

theorem number_ok {n : Int} (hn : Number.exactRange n) (hrest : EndsNumber rest) :
    number ((Number.int n).write ++ rest) = .ok (.int n, rest) := by
  obtain ⟨negative, m, hwrite, hm, -⟩ := write_int n
  have hdigits : digits (Nat.toDigits 10 m ++ rest) = .ok (Nat.toDigits 10 m, rest) :=
    digits_ok isDigit_toDigits Nat.toDigits_ne_nil hrest.no_digit
  rw [number, converting, hwrite, List.append_assoc,
    numeral_ok isDigit_toDigits Nat.toDigits_ne_nil hdigits hrest]
  simp [numberOf?, Numeral.isInteger, Numeral.integer, hm, hn]

theorem startsWith_write (n : Int) :
    StartsWith (fun c => c.isDigit ∨ c = '-') (Number.int n).write := by
  obtain ⟨negative, m, hwrite, -⟩ := write_int n
  rw [hwrite]
  cases negative with
  | true => exact startsWith_cons (.inr rfl) _
  | false => exact (startsWith_toDigits m).mono fun _ => .inl

theorem endsWith_write (n : Int) : EndsWith (fun c => isNameChar c) (Number.int n).write := by
  obtain ⟨negative, m, hwrite, -⟩ := write_int n
  rw [hwrite]
  exact (endsWith_toDigits m).append_left _

/-- A number begins with a digit or a minus sign. -/
theorem number_fails (hdigit : ∀ c ∈ text.head?, ¬c.isDigit) (hminus : '-' ∉ text.head?) :
    number.Fails text := by
  have hfails : (Numeral.parser digits).Fails text := by
    rw [Numeral.parser]
    exact bind_fails (optional_none (char_fails hminus)) (digits_fails hdigit).bind
  obtain ⟨e, he⟩ := hfails
  exact ⟨e, by rw [number, converting, he]⟩

/-! ## Texts between quotes -/

/-- A text between quotes is read up to the closing one. -/
theorem quoted_ok {quote : Char} {s : String} (h : quote ∉ s.toList) (rest : List Char) :
    quoted quote (quote :: (s.toList ++ (quote :: rest))) = .ok (s, rest) := by
  have hinside : ∀ c ∈ s.toList, c != quote := by
    rintro c hc
    simp only [bne_iff_ne, ne_eq]
    rintro rfl
    exact h hc
  have hend : ∀ c ∈ (quote :: rest).head?, ¬(c != quote) := by simp
  rw [quoted, bind_ok (char_ok quote _), bind_ok (takeWhile_ok hinside hend),
    bind_ok (char_ok quote rest), String.ofList_toList]
  rfl

theorem quoted_fails {quote : Char} (h : quote ∉ text.head?) : (quoted quote).Fails text :=
  (char_fails h).bind

/-! ## Signs -/

/-- The characters that comparisons begin with. -/
def comparatorHeads : List Char := ['=', '!', '>', '<', '~']

/-- The first sign of the list that stands at the front is read. -/
theorem comparatorOf_ok {before behind : List Comparator} {op : Comparator} {text rest : List Char}
    (hbefore : ∀ other ∈ before, (sign other.symbol).Fails text)
    (hop : sign op.symbol text = .ok ((), rest)) :
    comparatorOf (before ++ op :: behind) text = .ok (op, rest) := by
  have hread : (do sign op.symbol; return op : Parser Comparator) text = .ok (op, rest) :=
    bind_ok hop
  induction before with
  | nil =>
    cases behind with
    | nil => exact hread
    | cons next behind => exact orElse_ok hread
  | cons other before ih =>
    have hother : (do sign other.symbol; return other : Parser Comparator).Fails text :=
      (hbefore other List.mem_cons_self).bind
    have hmore := ih fun other hmem => hbefore other (List.mem_cons_of_mem _ hmem)
    -- the last alternative of the list stands alone
    cases before with
    | nil => exact (orElse_next hother).trans hmore
    | cons next before => exact (orElse_next hother).trans hmore

theorem comparatorOf_fails {ops : List Comparator} (h : ∀ op ∈ ops, (sign op.symbol).Fails text) :
    (comparatorOf ops).Fails text := by
  induction ops with
  | nil => exact ⟨_, rfl⟩
  | cons op ops ih =>
    have hop : (do sign op.symbol; return op : Parser Comparator).Fails text :=
      (h op List.mem_cons_self).bind
    have hmore := ih fun op hmem => h op (List.mem_cons_of_mem _ hmem)
    cases ops with
    | nil => exact hop
    | cons next ops => exact hop.orElse hmore

/-- A sign that is tried before another one is no part of it, and longer by a `=` at least. -/
theorem earlier_comparators : Comparator.all.Pairwise fun other op =>
    ¬other.symbol.toList <+: op.symbol.toList ∧
      (op.symbol.toList <+: other.symbol.toList →
        op.symbol.toList ++ ['='] <+: other.symbol.toList) := by
  decide

/-- The signs that are tried before a sign fail where it stands. -/
theorem sign_fails_of_earlier {before behind : List Comparator} {op other : Comparator}
    (hall : Comparator.all = before ++ op :: behind) (hother : other ∈ before)
    (hrest : '=' ∉ rest.head?) : (sign other.symbol).Fails (op.symbol.toList ++ rest) := by
  have hpairs := earlier_comparators
  rw [hall, List.pairwise_append] at hpairs
  obtain ⟨hpart, hlonger⟩ := hpairs.2.2 other hother op List.mem_cons_self
  refine sign_fails fun hprefix => ?_
  -- both signs stand at the front, so the shorter one is the beginning of the other
  rcases List.prefix_or_prefix_of_prefix hprefix (List.prefix_append _ rest) with h | h
  · exact hpart h
  · obtain ⟨more, rfl⟩ := (List.prefix_append_right_inj _).1 ((hlonger h).trans hprefix)
    exact hrest rfl

/-- Each sign of a comparison is read back, unless `=` comes after it. -/
theorem comparator_ok (op : Comparator) (hrest : '=' ∉ rest.head?) :
    comparator (op.symbol.toList ++ rest) = .ok (op, rest) := by
  obtain ⟨before, behind, hall⟩ : ∃ before behind, Comparator.all = before ++ op :: behind :=
    List.append_of_mem (by cases op <;> decide)
  rw [comparator, hall]
  exact comparatorOf_ok (fun other hother => sign_fails_of_earlier hall hother hrest)
    (sign_ok op.symbol rest)

/-- No sign of a comparison is read where none can begin. -/
theorem comparator_fails (h : ∀ c ∈ text.head?, c ∉ comparatorHeads) : comparator.Fails text := by
  refine comparatorOf_fails fun op _ => ?_
  -- each sign begins with one of these characters
  obtain ⟨c, hc, hhead⟩ : ∃ c, op.symbol.toList.head? = some c ∧ c ∈ comparatorHeads := by
    cases op <;> exact ⟨_, rfl, by decide⟩
  exact sign_fails_of_head hc fun hmem => h c hmem hhead

theorem arithmeticOp_ok (op : ArithmeticOp) (rest : List Char) :
    arithmeticOp op (op.symbol :: rest) = .ok (.arithmetic op, rest) :=
  bind_ok (char_ok op.symbol rest)

theorem arithmeticOp_fails {op : ArithmeticOp} (h : op.symbol ∉ text.head?) :
    (arithmeticOp op).Fails text :=
  (char_fails h).bind

end

end Grammar

end Reshape
