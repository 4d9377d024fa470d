import Reshape.Syntax.Grammar

/-!
# Parsers make progress

What a parser leaves of a text is an end of the text, and for the parsers of the grammar a shorter
one. So a repetition of them never meets a piece that reads nothing, and its bound is never the
reason why it stops.

`Parser.LeavesSuffix` and `Parser.Advances` are closed under the combinators. So every level of the
grammar advances if the parsers that apply inside its brackets leave ends of their texts.
-/

namespace Reshape.Parser

variable {α β : Type}

/-- What the parser leaves of a text is an end of the text. -/
def LeavesSuffix (p : Parser α) : Prop :=
  ∀ text a rest, p text = .ok (a, rest) → rest <:+ text

/-- What the parser leaves of a text is an end of the text, and shorter. -/
def Advances (p : Parser α) : Prop :=
  ∀ text a rest, p text = .ok (a, rest) → rest <:+ text ∧ rest.length < text.length

theorem Advances.leavesSuffix {p : Parser α} (h : p.Advances) : p.LeavesSuffix :=
  fun text a rest hrun => (h text a rest hrun).1

theorem Advances.consumes {p : Parser α} (h : p.Advances) : p.Consumes :=
  fun text a rest hrun => (h text a rest hrun).2

/-! ## Characters and words -/

/-- A character that is read is not there any more. -/
theorem advances_satisfy (expected : Expectation) (test : Char → Bool) :
    (satisfy expected test).Advances := by
  intro text a rest h
  cases text with
  | nil => simp [satisfy] at h
  | cons c text =>
    simp only [satisfy] at h
    split at h
    · simp only [Except.ok.injEq, Prod.mk.injEq] at h
      obtain ⟨-, rfl⟩ := h
      exact ⟨List.suffix_cons .., Nat.lt_succ_self _⟩
    · simp at h

theorem advances_char (c : Char) : (char c).Advances := advances_satisfy _ _

theorem advances_oneOf (cs : List Char) : (oneOf cs).Advances :=
  advances_satisfy _ _

theorem leavesSuffix_fail (expected : Expectation) : (fail expected : Parser α).LeavesSuffix := by
  intro text a rest h
  simp [fail] at h

theorem leavesSuffix_pure (a : α) : (pure a : Parser α).LeavesSuffix := by
  intro text b rest h
  simp only [run_pure, Except.ok.injEq, Prod.mk.injEq] at h
  obtain ⟨-, rfl⟩ := h
  exact List.suffix_refl _

theorem leavesSuffix_spaces : spaces.LeavesSuffix := by
  intro text a rest h
  simp only [spaces, Except.ok.injEq, Prod.mk.injEq] at h
  rw [← h.2]
  exact List.dropWhile_suffix _

theorem leavesSuffix_takeWhile (test : Char → Bool) : (takeWhile test).LeavesSuffix := by
  intro text a rest h
  simp only [takeWhile, Except.ok.injEq, Prod.mk.injEq] at h
  rw [← h.2]
  exact List.dropWhile_suffix _

/-- To see that something is absent reads nothing. -/
theorem leavesSuffix_absent (p : Parser α) : (absent p).LeavesSuffix := by
  intro text a rest h
  simp only [absent] at h
  split at h
  · simp at h
  · simp only [Except.ok.injEq, Prod.mk.injEq] at h
    obtain ⟨-, rfl⟩ := h
    exact List.suffix_refl _

/-- Reading a fixed number of characters, at least one. -/
theorem advances_drop {text : List Char} {n : Nat} (hn : 0 < n) (htext : n ≤ text.length) :
    text.drop n <:+ text ∧ (text.drop n).length < text.length :=
  ⟨List.drop_suffix n text, by rw [List.length_drop]; omega⟩

/-- A sign that is not empty is taken off the text. -/
theorem advances_sign {s : String} (hs : 0 < s.toList.length) : (sign s).Advances := by
  intro text a rest h
  simp only [sign] at h
  split at h
  · next hpre =>
    simp only [Except.ok.injEq, Prod.mk.injEq] at h
    obtain ⟨-, rfl⟩ := h
    -- the sign is a prefix of the text, so the text has that many characters
    exact advances_drop hs (List.isPrefixOf_iff_prefix.1 hpre).length_le
  · simp at h

/-- Words that differ in the case of letters at most are as long. -/
theorem length_eq_of_sameWord {as bs : List Char} (h : Text.sameWord as bs) :
    as.length = bs.length := by
  induction as generalizing bs with
  | nil =>
    cases bs with
    | nil => rfl
    | cons b bs => simp [Text.sameWord] at h
  | cons a as ih =>
    cases bs with
    | nil => simp [Text.sameWord] at h
    | cons b bs =>
      simp only [Text.sameWord, Bool.and_eq_true] at h
      simp [ih h.2]

/-- A word is taken off the text whatever the case of its letters. -/
theorem advances_word {w : String} (hw : 0 < w.toList.length) : (word w).Advances := by
  intro text a rest h
  simp only [word] at h
  split at h
  · next hsame =>
    simp only [Except.ok.injEq, Prod.mk.injEq] at h
    obtain ⟨-, rfl⟩ := h
    -- the front of the text is as long as the word, so the text is no shorter
    have hlength := length_eq_of_sameWord hsame
    rw [List.length_take] at hlength
    exact advances_drop hw (by omega)
  · simp at h

/-- At least one digit is read, or none is and the parser fails. -/
theorem advances_digits : digits.Advances := by
  intro text a rest h
  simp only [digits] at h
  split at h
  · simp at h
  · next hds =>
    simp only [Except.ok.injEq, Prod.mk.injEq] at h
    obtain ⟨-, rfl⟩ := h
    refine ⟨List.dropWhile_suffix _, ?_⟩
    -- the digits and the rest make up the text, and there is a digit
    have hlength : (text.takeWhile Char.isDigit ++ text.dropWhile Char.isDigit).length =
        text.length := by rw [List.takeWhile_append_dropWhile]
    have hpos : 0 < (text.takeWhile Char.isDigit).length := by
      rw [List.isEmpty_iff] at hds
      exact List.length_pos_iff.2 hds
    rw [List.length_append] at hlength
    omega

/-! ## What a success says of the parts -/

section

variable {p q : Parser α} {text rest : List Char}

/-- A sequence reads in two stretches. -/
theorem bind_eq_ok {f : α → Parser β} {b : β} (h : (p >>= f) text = .ok (b, rest)) :
    ∃ a between, p text = .ok (a, between) ∧ f a between = .ok (b, rest) := by
  rw [run_bind] at h
  split at h
  · next a between hrun => exact ⟨a, between, hrun, h⟩
  · simp at h

/-- Of two alternatives the second one is tried only where the first one fails. -/
theorem orElse_eq_ok {r : α × List Char} (h : (p <|> q) text = .ok r) :
    p text = .ok r ∨ (∃ e, p text = .error e) ∧ q text = .ok r := by
  rw [run_orElse] at h
  split at h
  · next hrun => exact .inl (hrun.trans h)
  · next e hrun => exact .inr ⟨⟨e, hrun⟩, h⟩

theorem map_eq_ok {f : α → β} {b : β} (h : (f <$> p) text = .ok (b, rest)) :
    ∃ a, p text = .ok (a, rest) ∧ f a = b := by
  rw [run_map] at h
  split at h
  · next a between hrun =>
    obtain ⟨rfl, rfl⟩ := Prod.mk.inj (Except.ok.inj h)
    exact ⟨a, hrun, rfl⟩
  · simp at h

theorem optional_eq_ok {a : Option α} (h : Parser.optional p text = .ok (a, rest)) :
    (∃ b, p text = .ok (b, rest) ∧ a = some b) ∨ a = none ∧ rest = text := by
  rw [run_optional] at h
  split at h
  · next b between hrun =>
    obtain ⟨rfl, rfl⟩ := Prod.mk.inj (Except.ok.inj h)
    exact .inl ⟨b, hrun, rfl⟩
  · obtain ⟨rfl, rfl⟩ := Prod.mk.inj (Except.ok.inj h)
    exact .inr ⟨rfl, rfl⟩

theorem accepting_eq_ok {test : α → Bool} {a : α} (h : accepting p test text = .ok (a, rest)) :
    p text = .ok (a, rest) ∧ test a := by
  unfold accepting at h
  split at h
  · next b between hrun =>
    split at h
    · next htest =>
      obtain ⟨rfl, rfl⟩ := Prod.mk.inj (Except.ok.inj h)
      exact ⟨hrun, htest⟩
    · simp at h
  · simp at h

/-- What is read stands for a value. -/
theorem converting_eq_ok {f : α → Option β} {b : β} (h : converting p f text = .ok (b, rest)) :
    ∃ a, p text = .ok (a, rest) ∧ f a = some b := by
  unfold converting at h
  split at h
  · next a between hrun =>
    split at h
    · next hvalue =>
      obtain ⟨rfl, rfl⟩ := Prod.mk.inj (Except.ok.inj h)
      exact ⟨a, hrun, hvalue⟩
    · simp at h
  · simp at h

end

/-! ## Combinations -/

/-- An end of an end of a text is an end of the text. -/
theorem LeavesSuffix.bind {p : Parser α} {f : α → Parser β} (hp : p.LeavesSuffix)
    (hf : ∀ a, (f a).LeavesSuffix) : (p >>= f).LeavesSuffix := by
  intro text b rest h
  obtain ⟨a, between, hrun, hmore⟩ := bind_eq_ok h
  exact (hf a between b rest hmore).trans (hp text a between hrun)

/-- It is enough that the first of two parsers advances. -/
theorem Advances.bind {p : Parser α} {f : α → Parser β} (hp : p.Advances)
    (hf : ∀ a, (f a).LeavesSuffix) : (p >>= f).Advances := by
  intro text b rest h
  obtain ⟨a, between, hrun, hmore⟩ := bind_eq_ok h
  obtain ⟨hsuffix, hlt⟩ := hp text a between hrun
  have hrest := hf a between b rest hmore
  exact ⟨hrest.trans hsuffix, Nat.lt_of_le_of_lt hrest.length_le hlt⟩

/-- It is enough that the second of two parsers advances. -/
theorem LeavesSuffix.bind_advances {p : Parser α} {f : α → Parser β} (hp : p.LeavesSuffix)
    (hf : ∀ a, (f a).Advances) : (p >>= f).Advances := by
  intro text b rest h
  obtain ⟨a, between, hrun, hmore⟩ := bind_eq_ok h
  obtain ⟨hrest, hlt⟩ := hf a between b rest hmore
  have hsuffix := hp text a between hrun
  exact ⟨hrest.trans hsuffix, Nat.lt_of_lt_of_le hlt hsuffix.length_le⟩

theorem LeavesSuffix.orElse {p q : Parser α} (hp : p.LeavesSuffix) (hq : q.LeavesSuffix) :
    (p <|> q).LeavesSuffix := by
  intro text a rest h
  rcases orElse_eq_ok h with hrun | ⟨-, hrun⟩
  · exact hp text a rest hrun
  · exact hq text a rest hrun

/-- A choice advances if both alternatives do. -/
theorem Advances.orElse {p q : Parser α} (hp : p.Advances) (hq : q.Advances) :
    (p <|> q).Advances := by
  intro text a rest h
  rcases orElse_eq_ok h with hrun | ⟨-, hrun⟩
  · exact hp text a rest hrun
  · exact hq text a rest hrun

theorem Advances.map {p : Parser α} (hp : p.Advances) (f : α → β) : (f <$> p).Advances := by
  intro text b rest h
  obtain ⟨a, hrun, -⟩ := map_eq_ok h
  exact hp text a rest hrun

theorem Advances.seqRight {p : Parser α} {q : Parser β} (hp : p.Advances) (hq : q.LeavesSuffix) :
    (p *> q).Advances := by
  intro text b rest h
  have hbind := hp.bind (f := fun _ => q) fun _ => hq
  refine hbind text b rest ?_
  -- both ways to put parsers in a row run alike
  rw [run_seqRight] at h
  rw [run_bind]
  exact h

theorem LeavesSuffix.optional {p : Parser α} (hp : p.LeavesSuffix) :
    (Parser.optional p).LeavesSuffix := by
  intro text a rest h
  rcases optional_eq_ok h with ⟨b, hrun, -⟩ | ⟨-, rfl⟩
  · exact hp text b rest hrun
  · exact List.suffix_refl _

/-- Spaces around do no harm, since these are only dropped. -/
theorem Advances.spaced {p : Parser α} (hp : p.Advances) : (spaced p).Advances :=
  leavesSuffix_spaces.bind_advances fun _ =>
    hp.bind fun _ => leavesSuffix_spaces.bind fun _ => leavesSuffix_pure _

theorem Advances.accepting {p : Parser α} (hp : p.Advances) (test : α → Bool) :
    (accepting p test).Advances :=
  fun text a rest h => hp text a rest (accepting_eq_ok h).1

theorem Advances.converting {p : Parser α} (hp : p.Advances) (f : α → Option β) :
    (converting p f).Advances := by
  intro text b rest h
  obtain ⟨a, hrun, -⟩ := converting_eq_ok h
  exact hp text a rest hrun

/-! ## Repetitions -/

/-- A repetition leaves an end of its text, however far it goes. -/
theorem LeavesSuffix.manyWithin {p : Parser α} (hp : p.LeavesSuffix) (bound : List Char) :
    (manyWithin p bound).LeavesSuffix := by
  -- the bound is a text of which only the length counts, so the induction is on that
  induction bound with
  | nil =>
    intro text as rest h
    simp only [Parser.manyWithin, Except.ok.injEq, Prod.mk.injEq] at h
    obtain ⟨-, rfl⟩ := h
    exact List.suffix_refl _
  | cons c bound ih =>
    intro text as rest h
    simp only [Parser.manyWithin] at h
    split at h
    · simp only [Except.ok.injEq, Prod.mk.injEq] at h
      obtain ⟨-, rfl⟩ := h
      exact List.suffix_refl _
    · next a between hrun =>
      cases hmore : Parser.manyWithin p bound between with
      | error e => rw [hmore] at h; simp [Except.map] at h
      | ok r =>
        rw [hmore] at h
        simp only [Except.map, Except.ok.injEq, Prod.mk.injEq] at h
        rw [← h.2]
        exact (ih between r.1 r.2 hmore).trans (hp text a between hrun)

theorem LeavesSuffix.many {p : Parser α} (hp : p.LeavesSuffix) : (many p).LeavesSuffix :=
  fun text as rest h => hp.manyWithin text text as rest h

/-- A repetition that reads at least once advances. -/
theorem Advances.many1 {p : Parser α} (hp : p.Advances) : (many1 p).Advances :=
  hp.bind fun _ => hp.leavesSuffix.many.bind fun _ => leavesSuffix_pure _

theorem Advances.sepBy1 {p : Parser α} {separator : Parser β} (hp : p.Advances)
    (hseparator : separator.Advances) : (sepBy1 p separator).Advances :=
  hp.bind fun _ => (hseparator.seqRight hp.leavesSuffix).leavesSuffix.many.bind fun _ =>
    leavesSuffix_pure _

theorem Advances.operation {operand : Parser α} {operator : Parser (α → α → α)}
    (hoperand : operand.Advances) (hoperator : operator.Advances) :
    (operation operand operator).Advances :=
  hoperator.spaced.bind fun _ => hoperand.leavesSuffix.bind fun _ => leavesSuffix_pure _

/-- A chain of operations advances since its first operand does. -/
theorem Advances.leftAssoc {operand : Parser α} {operator : Parser (α → α → α)}
    (hoperand : operand.Advances) (hoperator : operator.Advances) :
    (leftAssoc operand operator).Advances :=
  hoperand.bind fun _ => (hoperand.operation hoperator).leavesSuffix.many.bind fun _ =>
    leavesSuffix_pure _

end Reshape.Parser

/-! ## The grammar -/

namespace Reshape.Grammar

open Reshape.Parser

theorem advances_keyword {w : String} (hw : 0 < w.toList.length) : (keyword w).Advances :=
  (advances_word hw).bind fun _ => leavesSuffix_absent _

/-- A name has a first character, and this is taken off the text. -/
theorem advances_name : name.Advances :=
  (Advances.accepting
    ((advances_satisfy _ _).bind fun _ =>
      (leavesSuffix_takeWhile _).bind fun _ => leavesSuffix_pure _) _).map _

theorem leavesSuffix_exponent : Numeral.exponentParser.LeavesSuffix :=
  ((advances_oneOf _).bind fun _ => (advances_oneOf _).leavesSuffix.optional.bind fun _ =>
    advances_digits.leavesSuffix.bind fun _ => leavesSuffix_pure _).leavesSuffix

theorem advances_numeral {whole : Parser (List Char)} (hwhole : whole.Advances) :
    (Numeral.parser whole).Advances :=
  (advances_char _).leavesSuffix.optional.bind_advances fun _ =>
    hwhole.bind fun _ =>
      (((advances_char _).seqRight advances_digits.leavesSuffix).leavesSuffix.optional).bind
        fun _ => leavesSuffix_exponent.optional.bind fun _ => leavesSuffix_pure _

theorem advances_number : number.Advances := (advances_numeral advances_digits).converting _

theorem advances_quoted (quote : Char) : (quoted quote).Advances :=
  (advances_char _).bind fun _ => (leavesSuffix_takeWhile _).bind fun _ =>
    (advances_char _).leavesSuffix.bind fun _ => leavesSuffix_pure _

/-- Each kind of literal is recognised by something that it reads. -/
theorem advances_literal : literal.Advances := by
  have hword (w : String) (hw : 0 < w.toList.length) (l : Literal) :
      (do keyword w; return l : Parser Literal).Advances :=
    (advances_keyword hw).bind fun _ => leavesSuffix_pure _
  exact (hword "null" (by decide) _).orElse <| (hword "true" (by decide) _).orElse <|
    (hword "false" (by decide) _).orElse <| (advances_number.map _).orElse <|
    ((advances_quoted _).orElse (advances_quoted _)).map _

theorem advances_index : index.Advances := by
  intro text n rest h
  simp only [index] at h
  split at h
  · next ds between hrun =>
    split at h
    · simp only [Except.ok.injEq, Prod.mk.injEq] at h
      rw [← h.2]
      exact advances_digits text ds between hrun
    · simp at h
  · simp at h

/-- The parsers that apply inside brackets leave ends of their texts. -/
structure Inner.LeavesSuffix (inner : Inner) : Prop where
  predicate : inner.predicate.LeavesSuffix
  expression : inner.expression.LeavesSuffix

theorem advances_parenthesized {α : Type} {p : Parser α} (hp : p.LeavesSuffix) :
    (parenthesized p).Advances :=
  (advances_char _).spaced.bind fun _ => hp.bind fun _ =>
    (advances_char _).spaced.leavesSuffix.bind fun _ => leavesSuffix_pure _

theorem advances_arithmeticOp (op : ArithmeticOp) : (arithmeticOp op).Advances :=
  (advances_char _).bind fun _ => leavesSuffix_pure _

/-- Every comparator has a sign of at least one character. -/
theorem advances_comparatorOf (ops : List Comparator) : (comparatorOf ops).Advances := by
  have hsign (op : Comparator) : (do sign op.symbol; return op : Parser Comparator).Advances :=
    (advances_sign (by cases op <;> decide)).bind fun _ => leavesSuffix_pure _
  induction ops with
  | nil => intro text a rest h; simp [comparatorOf, fail] at h
  | cons op ops ih =>
    -- the last comparator stands alone, without an alternative after it
    cases ops with
    | nil => exact hsign op
    | cons next ops => exact (hsign op).orElse ih

theorem advances_marker (verb : Verb) : (marker verb).Advances :=
  (advances_word (by cases verb <;> decide)).spaced.bind fun _ =>
    (advances_sign (by decide)).spaced.leavesSuffix

section

variable {inner : Inner} (hinner : inner.LeavesSuffix)
include hinner

/-- A selector is in brackets, so it reads at least the opening one. -/
theorem advances_selector : (selector inner).Advances := by
  have hclose (s : Selector) : (do let _ ← char ']'; return s : Parser Selector).LeavesSuffix :=
    ((advances_char _).bind fun _ => leavesSuffix_pure _).leavesSuffix
  exact (advances_char _).bind fun _ =>
    (leavesSuffix_spaces.bind fun _ => hclose .each).orElse <|
      (advances_index.spaced.leavesSuffix.bind fun _ => hclose _).orElse <|
      hinner.predicate.bind fun _ => hclose _

theorem advances_segment : (segment inner).Advances :=
  advances_name.bind fun _ => (advances_selector hinner).leavesSuffix.optional.bind fun _ =>
    leavesSuffix_pure _

/-- The prefix of a path may be missing, but never its first name. -/
theorem advances_path : (path inner).Advances :=
  LeavesSuffix.bind_advances
    ((advances_sign (by decide)).bind fun _ =>
      (advances_char _).leavesSuffix.optional).leavesSuffix.optional
    fun _ => (advances_segment hinner).sepBy1 (advances_char _)

theorem advances_primary : (primary inner).Advances :=
  ((advances_literal.map _).orElse <|
    ((advances_parenthesized hinner.expression).map _).orElse <|
      (advances_path hinner).map _).spaced

theorem advances_product : (product inner).Advances :=
  (advances_primary hinner).leftAssoc
    ((advances_arithmeticOp _).orElse (advances_arithmeticOp _))

theorem advances_sum : (sum inner).Advances :=
  (advances_product hinner).leftAssoc
    ((advances_arithmeticOp _).orElse (advances_arithmeticOp _))

theorem advances_expression : (expression inner).Advances :=
  (advances_sum hinner).leftAssoc
    ((advances_sign (by decide)).bind fun _ => leavesSuffix_pure _)

theorem advances_comparison : (comparison inner).Advances :=
  (advances_expression hinner).bind fun _ =>
    (advances_comparatorOf _).spaced.leavesSuffix.bind fun _ =>
      (advances_expression hinner).leavesSuffix.bind fun _ => leavesSuffix_pure _

theorem advances_clause : (clause inner).Advances :=
  ((advances_comparison hinner).orElse <|
    ((advances_parenthesized hinner.predicate).map _).orElse <|
      ((advances_path hinner).accepting _).map _).spaced

theorem advances_conjunction : (conjunction inner).Advances :=
  (advances_clause hinner).leftAssoc
    ((advances_keyword (by decide)).bind fun _ => leavesSuffix_pure _)

theorem advances_predicate : (predicate inner).Advances :=
  (advances_conjunction hinner).leftAssoc
    ((advances_keyword (by decide)).bind fun _ => leavesSuffix_pure _)

theorem advances_assignment : (assignment inner).Advances :=
  (advances_path hinner).spaced.bind fun _ => (advances_char _).spaced.leavesSuffix.bind fun _ =>
    (advances_expression hinner).leavesSuffix.bind fun _ => leavesSuffix_pure _

/-- A statement begins with its marker, whatever its kind. -/
theorem advances_statement : (statement inner).Advances := by
  have hassignment {f : Path × Expression → Parser Statement} (hf : ∀ r, (f r).LeavesSuffix) :
      (assignment inner >>= f).LeavesSuffix :=
    ((advances_assignment hinner).bind hf).leavesSuffix
  have hrename : (do
      let target ← spaced (path inner)
      let _ ← spaced (char '=')
      return Statement.rename target (← spaced (path inner))).LeavesSuffix :=
    ((advances_path hinner).spaced.bind fun _ => (advances_char _).spaced.leavesSuffix.bind fun _ =>
      (advances_path hinner).spaced.leavesSuffix.bind fun _ => leavesSuffix_pure _).leavesSuffix
  -- three verbs assign, and they are read as one choice
  have hverbs : (marker .map <|> marker .mute <|> marker .replace).Advances :=
    (advances_marker _).orElse ((advances_marker _).orElse (advances_marker _))
  exact ((advances_marker _).bind fun _ =>
      (advances_predicate hinner).leavesSuffix.bind fun _ => leavesSuffix_pure _).orElse <|
    (hverbs.bind fun _ => hassignment fun _ => leavesSuffix_pure _).orElse <|
    ((advances_marker _).bind fun _ => hassignment fun _ => leavesSuffix_pure _).orElse <|
    (advances_marker _).bind fun _ => hrename

end

/-- A statement of a program, with the sign after it if there is one. -/
def item (inner : Inner) : Parser Statement := do
  let s ← statement inner
  let _ ← Parser.optional (spaced (oneOf [';', '|']))
  return s

theorem program_eq_many1 (inner : Inner) : program inner = many1 (item inner) := rfl

theorem advances_item {inner : Inner} (hinner : inner.LeavesSuffix) : (item inner).Advances :=
  (advances_statement hinner).bind fun _ => (advances_oneOf _).spaced.leavesSuffix.optional.bind
    fun _ => leavesSuffix_pure _

theorem advances_program {inner : Inner} (hinner : inner.LeavesSuffix) : (program inner).Advances :=
  (advances_item hinner).many1

/-! ## However deep -/

/-- The parsers inside brackets leave ends of texts at every depth, and at depth zero by failing. -/
theorem inner_leavesSuffix (depth : Nat) : (inner depth).LeavesSuffix := by
  induction depth with
  | zero => exact ⟨leavesSuffix_fail _, leavesSuffix_fail _⟩
  | succ depth ih =>
    exact ⟨(advances_predicate ih).leavesSuffix, (advances_expression ih).leavesSuffix⟩

end Reshape.Grammar
