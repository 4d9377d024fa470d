import Reshape.Proofs.Outcomes

/-!
# Room for all brackets

What applies inside brackets is run on shorter texts, since the bracket itself has been read
(`Descends`). So the depth of a parser does not matter as long as it is no smaller than the length
of the text, and neither does what would apply below that depth (`Descends.innerOver_eq_nested`).
The recursion that counts no brackets is the same grammar (`Descends.nested_eq_unbounded`).

`EqualBelow` compares two parsers on short texts. It is closed under the combinators, as what is
left of a text is never longer.
-/

namespace Reshape.Parser

variable {α β : Type}

/-- The parsers do the same on all texts shorter than `bound`. -/
def EqualBelow (bound : Nat) (p q : Parser α) : Prop :=
  ∀ text, text.length < bound → p text = q text

section

variable {bound : Nat} {p p' q q' : Parser α}

theorem equalBelow_refl (bound : Nat) (p : Parser α) : EqualBelow bound p p := fun _ _ => rfl

/-- What the first parser leaves is no longer than the text, so the second ones agree on it. -/
theorem EqualBelow.bind {f g : α → Parser β} (h : EqualBelow bound p p') (hp : p.LeavesSuffix)
    (hf : ∀ a, EqualBelow bound (f a) (g a)) : EqualBelow bound (p >>= f) (p' >>= g) := by
  intro text htext
  rw [run_bind, run_bind, ← h text htext]
  split
  · next a rest hrun =>
    exact hf a rest (Nat.lt_of_le_of_lt (hp text a rest hrun).length_le htext)
  · rfl

/-- After a parser that advances, the texts are shorter by one at least. -/
theorem EqualBelow.bind_advances {f g : α → Parser β} (h : EqualBelow (bound + 1) p p')
    (hp : p.Advances) (hf : ∀ a, EqualBelow bound (f a) (g a)) :
    EqualBelow (bound + 1) (p >>= f) (p' >>= g) := by
  intro text htext
  rw [run_bind, run_bind, ← h text htext]
  split
  · next a rest hrun =>
    exact hf a rest (Nat.lt_of_lt_of_le (hp text a rest hrun).2 (Nat.le_of_lt_succ htext))
  · rfl

theorem EqualBelow.orElse (hp : EqualBelow bound p p') (hq : EqualBelow bound q q') :
    EqualBelow bound (p <|> q) (p' <|> q') := by
  intro text htext
  rw [run_orElse, run_orElse, hp text htext, hq text htext]

theorem EqualBelow.map (h : EqualBelow bound p q) (f : α → β) :
    EqualBelow bound (f <$> p) (f <$> q) := by
  intro text htext
  rw [run_map, run_map, h text htext]

theorem EqualBelow.optional (h : EqualBelow bound p q) :
    EqualBelow bound (Parser.optional p) (Parser.optional q) := by
  intro text htext
  rw [run_optional, run_optional, h text htext]

theorem EqualBelow.accepting (h : EqualBelow bound p q) (test : α → Bool) :
    EqualBelow bound (accepting p test) (accepting q test) := by
  intro text htext
  rw [Parser.accepting, Parser.accepting, h text htext]

/-- The result of the first parser does not matter, and what it leaves is no longer. -/
theorem EqualBelow.seqRight {q q' : Parser β} (hp : p.LeavesSuffix)
    (hq : EqualBelow bound q q') : EqualBelow bound (p *> q) (p *> q') := by
  intro text htext
  rw [run_seqRight, run_seqRight]
  split
  · next a rest hrun =>
    exact hq rest (Nat.lt_of_le_of_lt (hp text a rest hrun).length_le htext)
  · rfl

theorem EqualBelow.spaced (h : EqualBelow bound p q) (hp : p.LeavesSuffix) :
    EqualBelow bound (spaced p) (spaced q) :=
  (equalBelow_refl bound spaces).bind leavesSuffix_spaces fun _ => h.bind hp fun _ =>
    equalBelow_refl bound _

/-- A repetition goes on with what is left, and that stays below the bound. -/
theorem EqualBelow.many (h : EqualBelow bound p q) (hp : p.LeavesSuffix) :
    EqualBelow bound (many p) (many q) := by
  have hwithin (limit : List Char) :
      EqualBelow bound (manyWithin p limit) (manyWithin q limit) := by
    -- the limit is given up one character at a time, so the induction is on it and not on the text
    induction limit with
    | nil => exact fun _ _ => rfl
    | cons c limit ih =>
      intro text htext
      rw [manyWithin, manyWithin, ← h text htext]
      split
      · rfl
      · next a rest hrun =>
        rw [ih rest (Nat.lt_of_le_of_lt (hp text a rest hrun).length_le htext)]
  exact fun text htext => hwithin text text htext

theorem EqualBelow.many1 (h : EqualBelow bound p q) (hp : p.LeavesSuffix) :
    EqualBelow bound (many1 p) (many1 q) :=
  h.bind hp fun _ => (h.many hp).bind hp.many fun _ => equalBelow_refl bound _

/-- A chain of operations depends on its operands only. -/
theorem EqualBelow.leftAssoc {operator : Parser (α → α → α)} (h : EqualBelow bound p q)
    (hp : p.Advances) (hoperator : operator.Advances) :
    EqualBelow bound (leftAssoc p operator) (leftAssoc q operator) := by
  have hstep : EqualBelow bound (operation p operator) (operation q operator) :=
    (equalBelow_refl bound _).bind hoperator.spaced.leavesSuffix fun _ =>
      h.bind hp.leavesSuffix fun _ => equalBelow_refl bound _
  have hsteps := (hp.operation hoperator).leavesSuffix
  exact h.bind hp.leavesSuffix fun _ => (hstep.many hsteps).bind hsteps.many fun _ =>
    equalBelow_refl bound _

end

end Reshape.Parser

namespace Reshape.Grammar

open Reshape.Parser

/-- Inside brackets, both do the same on all texts shorter than `bound`. -/
structure Inner.EqualBelow (bound : Nat) (inner inner' : Inner) : Prop where
  predicate : Parser.EqualBelow bound inner.predicate inner'.predicate
  expression : Parser.EqualBelow bound inner.expression inner'.expression

/-- The parenthesis is read first, so what is inside meets shorter texts. -/
theorem equalBelow_parenthesized {α : Type} {bound : Nat} {p q : Parser α} (hp : p.LeavesSuffix)
    (hpq : Parser.EqualBelow bound p q) :
    Parser.EqualBelow (bound + 1) (parenthesized p) (parenthesized q) :=
  (equalBelow_refl _ _).bind_advances (advances_char _).spaced fun _ => hpq.bind hp fun _ =>
    equalBelow_refl bound _

section

variable {bound : Nat} {inner inner' : Inner} (hinner : inner.LeavesSuffix)
  (h : inner.EqualBelow bound inner')
include hinner h

/-- A path only meets what applies inside brackets behind the bracket of a selector. -/
theorem equalBelow_path : Parser.EqualBelow (bound + 1) (path inner) (path inner') := by
  have hselector : Parser.EqualBelow (bound + 1) (selector inner) (selector inner') :=
    (equalBelow_refl _ _).bind_advances (advances_char _) fun _ =>
      (equalBelow_refl bound _).orElse <| (equalBelow_refl bound _).orElse <|
        h.predicate.bind hinner.predicate fun _ => equalBelow_refl bound _
  have hsegment : Parser.EqualBelow (bound + 1) (segment inner) (segment inner') :=
    (equalBelow_refl _ _).bind advances_name.leavesSuffix fun _ =>
      hselector.optional.bind (advances_selector hinner).leavesSuffix.optional fun _ =>
        equalBelow_refl _ _
  have hbrackets : (Parser.optional (do sign "[]"; Parser.optional (char '.'))).LeavesSuffix :=
    ((advances_sign (by decide)).bind fun _ =>
      (advances_char _).leavesSuffix.optional).leavesSuffix.optional
  have hadvances := advances_segment hinner
  have hsteps := ((advances_char '.').seqRight hadvances.leavesSuffix).leavesSuffix
  exact (equalBelow_refl _ _).bind hbrackets fun _ =>
    hsegment.bind hadvances.leavesSuffix fun _ =>
      ((EqualBelow.seqRight (advances_char '.').leavesSuffix hsegment).many hsteps).bind hsteps.many
        fun _ => equalBelow_refl _ _

/-- An expression meets it in its parentheses and in its paths. -/
theorem equalBelow_expression :
    Parser.EqualBelow (bound + 1) (expression inner) (expression inner') := by
  have hgroup := equalBelow_parenthesized hinner.expression h.expression
  have hprimary : Parser.EqualBelow (bound + 1) (primary inner) (primary inner') :=
    EqualBelow.spaced ((equalBelow_refl _ _).orElse <| (hgroup.map _).orElse <|
      (equalBelow_path hinner h).map _)
      ((advances_literal.map _).orElse <|
        ((advances_parenthesized hinner.expression).map _).orElse <|
          (advances_path hinner).map _).leavesSuffix
  have hoperator (op op' : ArithmeticOp) : (arithmeticOp op <|> arithmeticOp op').Advances :=
    (advances_arithmeticOp op).orElse (advances_arithmeticOp op')
  exact ((hprimary.leftAssoc (advances_primary hinner) (hoperator _ _)).leftAssoc
    (advances_product hinner) (hoperator _ _)).leftAssoc (advances_sum hinner)
      ((advances_sign (by decide)).bind fun _ => leavesSuffix_pure _)

/-- A predicate meets it in its expressions, parentheses and paths. -/
theorem equalBelow_predicate :
    Parser.EqualBelow (bound + 1) (predicate inner) (predicate inner') := by
  have hexpression := equalBelow_expression hinner h
  have hcomparison : Parser.EqualBelow (bound + 1) (comparison inner) (comparison inner') :=
    hexpression.bind (advances_expression hinner).leavesSuffix fun _ =>
      (equalBelow_refl _ _).bind (advances_comparatorOf _).spaced.leavesSuffix fun _ =>
        hexpression.bind (advances_expression hinner).leavesSuffix fun _ => equalBelow_refl _ _
  -- a predicate in parentheses is the one place where a predicate stands in a predicate
  have hgroup := equalBelow_parenthesized hinner.predicate h.predicate
  have hclause : Parser.EqualBelow (bound + 1) (clause inner) (clause inner') :=
    EqualBelow.spaced (hcomparison.orElse <| (hgroup.map _).orElse <|
      ((equalBelow_path hinner h).accepting _).map _)
      ((advances_comparison hinner).orElse <|
        ((advances_parenthesized hinner.predicate).map _).orElse <|
          ((advances_path hinner).accepting _).map _).leavesSuffix
  have hword {w : String} (hw : 0 < w.toList.length) (join : Predicate → Predicate → Predicate) :
      (do keyword w; return join : Parser (Predicate → Predicate → Predicate)).Advances :=
    (advances_keyword hw).bind fun _ => leavesSuffix_pure _
  exact (hclause.leftAssoc (advances_clause hinner) (hword (by decide) _)).leftAssoc
    (advances_conjunction hinner) (hword (by decide) _)

theorem equalBelow_assignment :
    Parser.EqualBelow (bound + 1) (assignment inner) (assignment inner') :=
  ((equalBelow_path hinner h).spaced (advances_path hinner).leavesSuffix).bind
    (advances_path hinner).spaced.leavesSuffix fun _ =>
      (equalBelow_refl _ _).bind (advances_char _).spaced.leavesSuffix fun _ =>
        (equalBelow_expression hinner h).bind (advances_expression hinner).leavesSuffix fun _ =>
          equalBelow_refl _ _

/-- A statement meets it in its predicate or in its assignment. -/
theorem equalBelow_statement :
    Parser.EqualBelow (bound + 1) (statement inner) (statement inner') := by
  have hafter {α : Type} {p : Parser α} (hp : p.Advances) {f g : α → Parser Statement}
      (hf : ∀ a, Parser.EqualBelow (bound + 1) (f a) (g a)) :
      Parser.EqualBelow (bound + 1) (p >>= f) (p >>= g) :=
    (equalBelow_refl _ _).bind hp.leavesSuffix hf
  have hpredicate {f : Predicate → Parser Statement} :
      Parser.EqualBelow (bound + 1) (predicate inner >>= f) (predicate inner' >>= f) :=
    (equalBelow_predicate hinner h).bind (advances_predicate hinner).leavesSuffix fun _ =>
      equalBelow_refl _ _
  -- both kinds of assignment come down to this
  have hassignment {f : Path × Expression → Parser Statement} :
      Parser.EqualBelow (bound + 1) (assignment inner >>= f) (assignment inner' >>= f) :=
    (equalBelow_assignment hinner h).bind (advances_assignment hinner).leavesSuffix fun _ =>
      equalBelow_refl _ _
  have hpath {f g : Path → Parser Statement}
      (hf : ∀ a, Parser.EqualBelow (bound + 1) (f a) (g a)) :
      Parser.EqualBelow (bound + 1) (spaced (path inner) >>= f) (spaced (path inner') >>= g) :=
    ((equalBelow_path hinner h).spaced (advances_path hinner).leavesSuffix).bind
      (advances_path hinner).spaced.leavesSuffix hf
  have hverbs : (marker .map <|> marker .mute <|> marker .replace).Advances :=
    (advances_marker _).orElse ((advances_marker _).orElse (advances_marker _))
  exact (hafter (advances_marker _) fun _ => hpredicate).orElse <|
    (hafter hverbs fun _ => hassignment).orElse <|
    (hafter (advances_marker _) fun _ => hassignment).orElse <|
    hafter (advances_marker _) fun _ => hpath fun _ => hafter (advances_char _).spaced fun _ =>
      hpath fun _ => equalBelow_refl _ _

theorem equalBelow_program :
    Parser.EqualBelow (bound + 1) (program inner) (program inner') :=
  EqualBelow.many1
    ((equalBelow_statement hinner h).bind (advances_statement hinner).leavesSuffix fun _ =>
      equalBelow_refl _ _)
    (advances_item hinner).leavesSuffix

end

/-! ## However deep -/

/--
Inside brackets, the parser only reads texts that are shorter than its own: what would be read of
others does not matter to it.
-/
def Descends {α : Type} (p : Inner → Parser α) : Prop :=
  ∀ bound inner inner', inner.LeavesSuffix → inner.EqualBelow bound inner' →
    Parser.EqualBelow (bound + 1) (p inner) (p inner')

/-- What applies inside `depth` brackets around one another, if it is `deepest` in the innermost. -/
def innerOver (deepest : Inner) : Nat → Inner
  | 0 => deepest
  | depth + 1 => ⟨predicate (innerOver deepest depth), expression (innerOver deepest depth)⟩

/-- What applies inside brackets, however many of them are around one another. -/
def unbounded : Inner := ⟨nested predicate, nested expression⟩

/-- No text is shorter than the empty one. -/
theorem equalBelow_zero (inner inner' : Inner) : inner.EqualBelow 0 inner' :=
  ⟨fun _ h => absurd h (Nat.not_lt_zero _), fun _ h => absurd h (Nat.not_lt_zero _)⟩

/-- The bounded recursion has a parser in its innermost brackets that always fails. -/
theorem inner_eq_innerOver (depth : Nat) : inner depth = innerOver (inner 0) depth := by
  induction depth with
  | zero => rfl
  | succ depth ih =>
    rw [innerOver, ← ih]
    rfl

/-- What applies inside the innermost brackets does not matter to texts too short for them. -/
theorem inner_equalBelow_innerOver (deepest : Inner) {depth depth' bound : Nat} (h : bound ≤ depth)
    (h' : bound ≤ depth') : (inner depth).EqualBelow bound (innerOver deepest depth') := by
  induction bound generalizing depth depth' with
  | zero => exact equalBelow_zero _ _
  | succ bound ih =>
    match depth, depth' with
    | depth + 1, depth' + 1 =>
      -- one bracket further in, both are as deep as the texts that are left are long
      have hinner := inner_leavesSuffix depth
      have hbelow := ih (Nat.le_of_succ_le_succ h) (Nat.le_of_succ_le_succ h')
      exact ⟨equalBelow_predicate hinner hbelow, equalBelow_expression hinner hbelow⟩

section

variable {α : Type} {p : Inner → Parser α} (hp : Descends p)
include hp

/-- A text has no more brackets around one another than it has characters. -/
theorem Descends.innerOver_eq_nested (deepest : Inner) {depth : Nat} {text : List Char}
    (h : text.length ≤ depth) : p (innerOver deepest depth) text = nested p text :=
  (hp _ _ _ (inner_leavesSuffix _) (inner_equalBelow_innerOver deepest (Nat.le_refl _) h) text
    (Nat.lt_succ_self _)).symm

/-- More depth than the text has characters makes no difference. -/
theorem Descends.inner_eq_nested {depth : Nat} {text : List Char} (h : text.length ≤ depth) :
    p (inner depth) text = nested p text := by
  rw [inner_eq_innerOver]
  exact hp.innerOver_eq_nested _ h

end

theorem descends_path : Descends path := fun _ _ _ => equalBelow_path

theorem descends_expression : Descends expression := fun _ _ _ => equalBelow_expression

theorem descends_predicate : Descends predicate := fun _ _ _ => equalBelow_predicate

theorem descends_assignment : Descends assignment := fun _ _ _ => equalBelow_assignment

theorem descends_statement : Descends statement := fun _ _ _ => equalBelow_statement

theorem descends_program : Descends program := fun _ _ _ => equalBelow_program

/-- On texts shorter than its depth, the bounded recursion is the one that counts no brackets. -/
theorem inner_equalBelow_unbounded (bound : Nat) : (inner bound).EqualBelow bound unbounded := by
  cases bound with
  | zero => exact equalBelow_zero _ _
  | succ bound =>
    exact ⟨fun _ h => descends_predicate.inner_eq_nested (Nat.le_of_lt_succ h),
      fun _ h => descends_expression.inner_eq_nested (Nat.le_of_lt_succ h)⟩

/-- With room for all brackets of a text, the grammar is the recursion that counts no brackets. -/
theorem Descends.nested_eq_unbounded {α : Type} {p : Inner → Parser α} (hp : Descends p) :
    nested p = p unbounded := by
  funext text
  -- the text is shorter than its own length and one, which is the depth that it is given
  exact hp _ _ _ (inner_leavesSuffix _) (inner_equalBelow_unbounded _) text (Nat.lt_succ_self _)

section

variable {depth depth' : Nat} {text : List Char} (h : text.length ≤ depth)
  (h' : text.length ≤ depth')
include h h'

theorem predicate_depth : predicate (inner depth) text = predicate (inner depth') text :=
  (descends_predicate.inner_eq_nested h).trans (descends_predicate.inner_eq_nested h').symm

theorem assignment_depth : assignment (inner depth) text = assignment (inner depth') text :=
  (descends_assignment.inner_eq_nested h).trans (descends_assignment.inner_eq_nested h').symm

theorem statement_depth : statement (inner depth) text = statement (inner depth') text :=
  (descends_statement.inner_eq_nested h).trans (descends_statement.inner_eq_nested h').symm

end

end Reshape.Grammar
