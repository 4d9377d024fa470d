import Reshape.Proofs.Exits
import Reshape.Proofs.Markers
import Reshape.Proofs.Numbers

/-!
# What is read is well formed

Whatever a text is read as has the shape that texts give: names are names, numbers can be stored,
and operators of one strength group to the left. `Parser.Yields` says that everything a parser
reads has a property. It is closed under the combinators, so each level of the grammar yields
well-formed trees if what applies inside its brackets does.

A level yields more than that: its trees bind at least as tightly as its operators. This is what
the level before it needs of its operands, and it is the reason why parentheses are kept as groups.
-/

namespace Reshape.Parser

variable {α β : Type}

/-- Everything that the parser reads has the property. -/
def Yields (p : Parser α) (property : α → Prop) : Prop :=
  ∀ text a rest, p text = .ok (a, rest) → property a

/-! ## Combinations -/

section

variable {p q : Parser α} {P Q : α → Prop} {R : β → Prop}

theorem Yields.mono (h : p.Yields P) (hPQ : ∀ a, P a → Q a) : p.Yields Q :=
  fun text a rest hrun => hPQ a (h text a rest hrun)

theorem yields_any (p : Parser α) : p.Yields fun _ => True := fun _ _ _ _ => trivial

theorem yields_pure {a : α} (h : P a) : (pure a : Parser α).Yields P := by
  intro text b rest hrun
  obtain ⟨rfl, -⟩ := Prod.mk.inj (Except.ok.inj hrun)
  exact h

theorem yields_fail (expected : Expectation) : (fail expected : Parser α).Yields P :=
  fun text a rest hrun => absurd hrun (by simp [fail])

/-- What the second parser yields may rest on what the first one has. -/
theorem Yields.bind {f : α → Parser β} (hp : p.Yields P) (hf : ∀ a, P a → (f a).Yields R) :
    (p >>= f).Yields R := by
  intro text b rest hrun
  obtain ⟨a, between, hread, hmore⟩ := bind_eq_ok hrun
  exact hf a (hp text a between hread) between b rest hmore

/-- What is read first does not matter to what is read in the end. -/
theorem yields_bind {f : α → Parser β} (hf : ∀ a, (f a).Yields R) : (p >>= f).Yields R :=
  (yields_any p).bind fun a _ => hf a

theorem Yields.bind_pure {f : α → β} (hp : p.Yields P) (hf : ∀ a, P a → R (f a)) :
    (do let a ← p; return f a : Parser β).Yields R :=
  hp.bind fun a ha => yields_pure (hf a ha)

/-- A choice yields what both alternatives do. -/
theorem Yields.orElse (hp : p.Yields P) (hq : q.Yields P) : (p <|> q).Yields P := by
  intro text a rest hrun
  rcases orElse_eq_ok hrun with hrun | ⟨-, hrun⟩
  · exact hp text a rest hrun
  · exact hq text a rest hrun

theorem Yields.map {f : α → β} (hp : p.Yields P) (hf : ∀ a, P a → R (f a)) :
    (f <$> p).Yields R := by
  intro text b rest hrun
  obtain ⟨a, hread, rfl⟩ := map_eq_ok hrun
  exact hf a (hp text a rest hread)

theorem Yields.seqRight {r : Parser β} (hr : r.Yields R) : (p *> r).Yields R := by
  intro text b rest hrun
  rw [run_seqRight] at hrun
  split at hrun
  · next a between hread => exact hr between b rest hrun
  · exact absurd hrun (by simp)

theorem Yields.spaced (hp : p.Yields P) : (spaced p).Yields P :=
  yields_bind fun _ => hp.bind fun _ ha => yields_bind fun _ => yields_pure ha

/-- What may be missing has the property if it is there. -/
theorem Yields.optional (hp : p.Yields P) : (Parser.optional p).Yields fun o => ∀ a ∈ o, P a := by
  intro text o rest hrun
  rcases optional_eq_ok hrun with ⟨a, hread, rfl⟩ | ⟨rfl, -⟩
  · intro b hb
    obtain rfl := Option.some.inj hb
    exact hp text a rest hread
  · exact fun a ha => absurd ha (by simp)

theorem Yields.accepting {test : α → Bool} (hp : p.Yields P) :
    (accepting p test).Yields fun a => P a ∧ test a := by
  intro text a rest hrun
  obtain ⟨hread, htest⟩ := accepting_eq_ok hrun
  exact ⟨hp text a rest hread, htest⟩

theorem yields_converting {f : α → Option β} (hf : ∀ a b, f a = some b → R b) :
    (converting p f).Yields R := by
  intro text b rest hrun
  obtain ⟨a, -, hvalue⟩ := converting_eq_ok hrun
  exact hf a b hvalue

/-! ## Repetitions -/

/-- All that a repetition has read has the property, whatever its bound. -/
theorem Yields.manyWithin (hp : p.Yields P) (bound : List Char) :
    (manyWithin p bound).Yields fun as => ∀ a ∈ as, P a := by
  induction bound with
  | nil => exact yields_pure (P := fun as => ∀ a ∈ as, P a) (by simp)
  | cons c bound ih =>
    intro text as rest hrun
    rw [Parser.manyWithin] at hrun
    split at hrun
    · obtain ⟨rfl, -⟩ := Prod.mk.inj (Except.ok.inj hrun)
      simp
    · next a between hread =>
      -- what is read first has the property by `hp`, and what comes after it by induction
      cases hmore : Parser.manyWithin p bound between with
      | error e => exact absurd hrun (by simp [hmore, Except.map])
      | ok r =>
        rw [hmore] at hrun
        obtain ⟨rfl, -⟩ := Prod.mk.inj (Except.ok.inj hrun)
        exact List.forall_mem_cons.2 ⟨hp text a between hread, ih between r.1 r.2 hmore⟩

theorem Yields.many (hp : p.Yields P) : (many p).Yields fun as => ∀ a ∈ as, P a :=
  fun text as rest hrun => hp.manyWithin text text as rest hrun

theorem Yields.many1 (hp : p.Yields P) : (many1 p).Yields fun as => ∀ a ∈ as, P a :=
  hp.bind fun _ ha => hp.many.bind_pure fun _ has => List.forall_mem_cons.2 ⟨ha, has⟩

/-- A list with separators is never empty. -/
theorem Yields.sepBy1 (hp : p.Yields P) (separator : Parser β) :
    (sepBy1 p separator).Yields fun as => as ≠ [] ∧ ∀ a ∈ as, P a :=
  hp.bind fun _ ha => hp.seqRight.many.bind_pure fun _ has =>
    ⟨List.cons_ne_nil _ _, List.forall_mem_cons.2 ⟨ha, has⟩⟩

/-- One tier: its operators join what it has read so far to an operand. -/
theorem Yields.leftAssoc {operator : Parser (α → α → α)} (hp : p.Yields Q)
    (hQP : ∀ a, Q a → P a)
    (hoperator : operator.Yields fun join => ∀ a b, P a → Q b → P (join a b)) :
    (leftAssoc p operator).Yields P := by
  have hpiece : (operation p operator).Yields fun piece => ∀ a, P a → P (piece.1 a piece.2) :=
    hoperator.spaced.bind fun _ hjoin => hp.bind_pure fun b hb a ha => hjoin a b ha hb
  -- the operations are joined from the left, so the property goes along with what is joined so far
  have hfold (pieces : List ((α → α → α) × α))
      (h : ∀ piece ∈ pieces, ∀ a, P a → P (piece.1 a piece.2)) (first : α) (hfirst : P first) :
      P (pieces.foldl (fun left piece => piece.1 left piece.2) first) := by
    induction pieces generalizing first with
    | nil => exact hfirst
    | cons piece pieces ih =>
      obtain ⟨hhere, hmore⟩ := List.forall_mem_cons.1 h
      exact ih hmore _ (hhere first hfirst)
  exact hp.bind fun first hfirst => hpiece.many.bind_pure fun pieces hpieces =>
    hfold pieces hpieces first (hQP first hfirst)

end

end Reshape.Parser

namespace Reshape

/-- A path is well formed step by step. -/
theorem stepsWellFormed_iff {numbers : Number → Prop} {path : Path} :
    StepsWellFormed numbers path ↔ ∀ step ∈ path, step.WellFormed numbers := by
  induction path with
  | nil => simp [StepsWellFormed]
  | cons step path ih => simp [StepsWellFormed, ih]

/-- A well-formed expression that binds at least as tightly as `k`. -/
def Expression.Fits (k : Nat) (e : Expression) : Prop :=
  e.WellFormed Number.IsStorable ∧ k ≤ e.strength

/-- A well-formed predicate that binds at least as tightly as `k`. -/
def Predicate.Fits (k : Nat) (p : Predicate) : Prop :=
  p.WellFormed Number.IsStorable ∧ k ≤ p.strength

namespace Grammar

open Reshape.Parser

/-! ## Names and literals -/

theorem yields_name : name.Yields IsName := fun _ _ _ hrun => (name_eq_ok hrun).1

/-- A text ends at the first quote, so there is none in it. -/
theorem yields_quoted (quote : Char) : (quoted quote).Yields fun s => quote ∉ s.toList :=
  fun _ _ _ hrun => (quoted_eq_ok hrun).1

/-- A number is only read if it can be stored, and a text has only quotes of the other kind. -/
theorem yields_literal : literal.Yields (Literal.WellFormed Number.IsStorable) := by
  have hword (w : String) (value : Literal) (hvalue : value.WellFormed Number.IsStorable) :
      (do keyword w; return value : Parser Literal).Yields (Literal.WellFormed Number.IsStorable) :=
    yields_bind fun _ => yields_pure hvalue
  -- a number beyond the range of doubles is refused when it is converted
  have hnumber : number.Yields Number.IsStorable :=
    yields_converting fun _ _ => numberOf?_isStorable
  have hquoted : (quoted '"' <|> quoted '\'').Yields fun s => '"' ∉ s.toList ∨ '\'' ∉ s.toList :=
    ((yields_quoted '"').mono fun _ => .inl).orElse ((yields_quoted '\'').mono fun _ => .inr)
  refine (hword "null" .null trivial).orElse ((hword "true" (.bool true) trivial).orElse
    ((hword "false" (.bool false) trivial).orElse ((hnumber.map ?_).orElse (hquoted.map ?_))))
  · exact fun n hn => hn
  · exact fun s hs => hs

/-- An index is only read below its bound. -/
theorem yields_index : index.Yields (· < Selector.indexBound) := by
  intro text n rest hrun
  rw [index] at hrun
  split at hrun
  · dsimp only at hrun
    split at hrun
    · next hbound =>
      obtain ⟨rfl, -⟩ := Prod.mk.inj (Except.ok.inj hrun)
      exact hbound
    · exact absurd hrun (by simp)
  · exact absurd hrun (by simp)

/-! ## The levels of the grammar -/

/-- What applies inside brackets yields well-formed trees. -/
structure Inner.YieldsTrees (inner : Inner) : Prop where
  predicate : inner.predicate.Yields (Predicate.WellFormed Number.IsStorable)
  expression : inner.expression.Yields (Expression.WellFormed Number.IsStorable)

theorem yields_parenthesized {α : Type} {p : Parser α} {P : α → Prop} (h : p.Yields P) :
    (parenthesized p).Yields P :=
  yields_bind fun _ => h.bind fun _ ha => yields_bind fun _ => yields_pure ha

section

variable {inner : Inner} (hinner : inner.YieldsTrees)
include hinner

/-- What a selector has in brackets is well formed. -/
theorem yields_selector : (selector inner).Yields (Selector.WellFormed Number.IsStorable) :=
  yields_bind fun _ =>
    Yields.orElse (yields_bind fun _ => yields_bind fun _ => yields_pure trivial) <|
    Yields.orElse (yields_index.spaced.bind fun _ hn => yields_bind fun _ => yields_pure hn) <|
      hinner.predicate.bind fun _ hp => yields_bind fun _ => yields_pure hp

theorem yields_segment : (segment inner).Yields (Segment.WellFormed Number.IsStorable) := by
  refine yields_name.bind fun n hn => (yields_selector hinner).optional.bind_pure fun s hs => ?_
  cases s with
  | none => exact ⟨hn, trivial⟩
  | some s => exact ⟨hn, hs s rfl⟩

/-- A path has a step, and its steps are well formed. -/
theorem yields_path : (path inner).Yields (Path.WellFormed Number.IsStorable) :=
  yields_bind fun _ => ((yields_segment hinner).sepBy1 _).mono fun _ h =>
    ⟨h.1, stepsWellFormed_iff.2 h.2⟩

/-- A single operand binds most tightly, a group included. -/
theorem yields_primary : (primary inner).Yields (Expression.Fits 3) := by
  refine Yields.spaced (Yields.orElse (yields_literal.map ?_) (Yields.orElse
    ((yields_parenthesized hinner.expression).map ?_) ((yields_path hinner).map ?_)))
  · exact fun value hvalue => ⟨hvalue, Nat.le_refl 3⟩
  · exact fun e he => ⟨he, Nat.le_refl 3⟩
  · exact fun steps hsteps => ⟨hsteps, Nat.le_refl 3⟩

omit hinner in
/-- An operator joins a tree of its own strength to a tighter one. -/
theorem yields_arithmeticOp (op : ArithmeticOp) :
    (arithmeticOp op).Yields fun join => ∀ l r, l.Fits op.strength → r.Fits (op.strength + 1) →
      (join l r).Fits op.strength :=
  yields_bind fun _ => yields_pure fun _ _ hl hr =>
    ⟨⟨⟨hl.2, hr.2⟩, hl.1, hr.1⟩, Nat.le_refl op.strength⟩

/-- Products bind at least as tightly as multiplication. -/
theorem yields_product : (product inner).Yields (Expression.Fits 2) :=
  (yields_primary hinner).leftAssoc (fun _ h => ⟨h.1, Nat.le_of_succ_le h.2⟩)
    ((yields_arithmeticOp .multiply).orElse (yields_arithmeticOp .divide))

theorem yields_sum : (sum inner).Yields (Expression.Fits 1) :=
  (yields_product hinner).leftAssoc (fun _ h => ⟨h.1, Nat.le_of_succ_le h.2⟩)
    ((yields_arithmeticOp .add).orElse (yields_arithmeticOp .subtract))

/-- An expression may bind as loosely as it likes. -/
theorem yields_expression : (expression inner).Yields (Expression.WellFormed Number.IsStorable) :=
  (yields_sum hinner).leftAssoc (fun _ h => h.1)
    (yields_bind fun _ => yields_pure fun _ _ hl hr => ⟨hr.2, hl, hr.1⟩)

theorem yields_comparison : (comparison inner).Yields (Predicate.Fits 2) :=
  (yields_expression hinner).bind fun _ hl => yields_bind fun _ =>
    (yields_expression hinner).bind_pure fun _ hr => ⟨⟨hl, hr⟩, Nat.le_refl 2⟩

/-- A path that stands alone has been tested for narrowing. -/
theorem yields_clause : (clause inner).Yields (Predicate.Fits 2) := by
  refine Yields.spaced (Yields.orElse (yields_comparison hinner) (Yields.orElse
    ((yields_parenthesized hinner.predicate).map ?_) ((yields_path hinner).accepting.map ?_)))
  · exact fun p hp => ⟨hp, Nat.le_refl 2⟩
  · exact fun steps hsteps => ⟨⟨hsteps.2, hsteps.1.2⟩, Nat.le_refl 2⟩

/-- Conjunctions bind at least as tightly as `and`. -/
theorem yields_conjunction : (conjunction inner).Yields (Predicate.Fits 1) :=
  (yields_clause hinner).leftAssoc (fun _ h => ⟨h.1, Nat.le_of_succ_le h.2⟩)
    (yields_bind fun _ => yields_pure fun _ _ hl hr => ⟨⟨⟨hl.2, hr.2⟩, hl.1, hr.1⟩, Nat.le_refl 1⟩)

theorem yields_predicate : (predicate inner).Yields (Predicate.WellFormed Number.IsStorable) :=
  (yields_conjunction hinner).leftAssoc (fun _ h => h.1)
    (yields_bind fun _ => yields_pure fun _ _ hl hr => ⟨hr.2, hl, hr.1⟩)

theorem yields_assignment : (assignment inner).Yields fun r =>
    r.1.WellFormed Number.IsStorable ∧ r.2.WellFormed Number.IsStorable :=
  (yields_path hinner).spaced.bind fun _ htarget => yields_bind fun _ =>
    (yields_expression hinner).bind_pure fun _ hvalue => ⟨htarget, hvalue⟩

/-- A statement is well formed if its predicate, value and paths are. -/
theorem yields_statement : (statement inner).Yields (Statement.WellFormed Number.IsStorable) := by
  have hassignment := yields_assignment hinner
  -- four alternatives, one for each kind of statement
  refine Yields.orElse (yields_bind fun _ => ?_) (Yields.orElse (yields_bind fun _ => ?_)
    (Yields.orElse (yields_bind fun _ => ?_) (yields_bind fun _ => ?_)))
  · exact (yields_predicate hinner).bind_pure fun _ hp => hp
  · exact hassignment.bind_pure fun _ h => h
  · exact hassignment.bind_pure fun _ h => h
  · exact (yields_path hinner).spaced.bind fun _ htarget => yields_bind fun _ =>
      (yields_path hinner).spaced.bind_pure fun _ hsource => ⟨htarget, hsource⟩

theorem yields_program :
    (program inner).Yields fun program => ∀ s ∈ program, s.WellFormed Number.IsStorable :=
  Yields.many1 ((yields_statement hinner).bind fun _ hs => yields_bind fun _ => yields_pure hs)

end

/-! ## However deep -/

/-- At depth zero nothing is read at all, and each bracket adds a level that yields trees. -/
theorem inner_yieldsTrees (depth : Nat) : (inner depth).YieldsTrees := by
  induction depth with
  | zero => exact ⟨yields_fail _, yields_fail _⟩
  | succ depth ih => exact ⟨yields_predicate ih, yields_expression ih⟩

theorem yields_nested {α : Type} {p : Inner → Parser α} {P : α → Prop}
    (h : ∀ inner : Inner, inner.YieldsTrees → (p inner).Yields P) : (nested p).Yields P :=
  fun text a rest hrun => h _ (inner_yieldsTrees text.length) text a rest hrun

end Grammar

open Grammar Text

/-! ## Whole texts -/

/-- What holds of all that a level of the grammar yields holds of a whole text. -/
theorem readWhole_yields {α : Type} {p : Inner → Parser α} {P : α → Prop}
    (h : ∀ inner : Inner, inner.YieldsTrees → (p inner).Yields P) {text : String} {a : α}
    (hread : readWhole (nested p) text = .ok a) : P a :=
  yields_nested h _ a [] (readWhole_eq_ok_iff.1 hread)

theorem Predicate.wellFormed_of_read {text : String} {p : Predicate}
    (h : Predicate.read text = .ok p) : p.WellFormed Number.IsStorable :=
  readWhole_yields (fun _ hinner => yields_predicate hinner) h

theorem Statement.wellFormed_of_read {text : String} {s : Statement}
    (h : Statement.read text = .ok s) : s.WellFormed Number.IsStorable :=
  yields_nested (fun _ hinner => yields_statement hinner) _ s [] (Statement.read_eq_ok_iff.1 h).2

theorem Program.wellFormed_of_read {text : String} {program : Program}
    (h : Program.read text = .ok program) : ∀ s ∈ program, s.WellFormed Number.IsStorable :=
  yields_nested (fun _ hinner => yields_program hinner) _ program [] (Program.read_eq_ok_iff.1 h).2

theorem Statement.wellFormed_of_readAssignment {clause : String} {s : Statement}
    (h : Statement.readAssignment clause = .ok s) : s.WellFormed Number.IsStorable := by
  obtain ⟨body, target, value, -, hread, rfl⟩ := Statement.readAssignment_eq_ok_iff.1 h
  exact readWhole_yields (fun _ hinner => yields_assignment hinner) hread

/-- No character of a name has another meaning in a path, and none is a blank. -/
theorem IsName.plain {name : String} (h : IsName name) {c : Char} (hc : c ∈ name.toList) :
    c ∉ ['.', '[', ']', '"', '\''] ∧ ¬isBlank c := by
  have hname := isNameChar_of_isName h c hc
  refine ⟨fun hmem => ?_, not_isBlank_of_isNameChar hname⟩
  exact (by decide : ∀ d ∈ ['.', '[', ']', '"', '\''], ¬isNameChar d) c hmem hname

/--
**Every tree that is read is well formed**, whichever way a text is read. So the exits for paths
that have no steps or narrow nothing are never taken when a statement that was read is carried out.
-/
theorem read_wellFormed (text : String) :
    (∀ s, Statement.read text = .ok s → s.WellFormed Number.IsStorable ∧ s.TakesNoExit)
    ∧ (∀ program, Program.read text = .ok program →
      ∀ s ∈ program, s.WellFormed Number.IsStorable ∧ s.TakesNoExit)
    ∧ (∀ p, Predicate.readClause text = .ok p → p.WellFormed Number.IsStorable ∧ p.TakesNoExit)
    ∧ (∀ s, Statement.readAssignment text = .ok s →
      s.WellFormed Number.IsStorable ∧ s.TakesNoExit)
    ∧ (∀ p, Predicate.read text = .ok p → p.WellFormed Number.IsStorable ∧ p.TakesNoExit)
    ∧ (∀ e, Expression.read text = .ok e → e.WellFormed Number.IsStorable)
    ∧ (∀ path, Path.read text = .ok path → path.WellFormed Number.IsStorable)
    ∧ ∀ name, IsName name → ∀ c ∈ name.toList, c ∉ ['.', '[', ']', '"', '\''] ∧ ¬isBlank c := by
  refine ⟨fun s hread => ?_, fun program hread s hs => ?_, fun p hread => ?_, fun s hread => ?_,
    fun p hread => ?_, fun e hread => ?_, fun path hread => ?_, fun name hname c => hname.plain⟩
  · have h := Statement.wellFormed_of_read hread
    exact ⟨h, h.takesNoExit⟩
  · have h := Program.wellFormed_of_read hread s hs
    exact ⟨h, h.takesNoExit⟩
  · obtain ⟨body, -, hbody⟩ := Predicate.readClause_eq_ok_iff.1 hread
    have h := Predicate.wellFormed_of_read hbody
    exact ⟨h, h.takesNoExit⟩
  · have h := Statement.wellFormed_of_readAssignment hread
    exact ⟨h, h.takesNoExit⟩
  · have h := Predicate.wellFormed_of_read hread
    exact ⟨h, h.takesNoExit⟩
  · exact readWhole_yields (fun _ hinner => yields_expression hinner) hread
  · exact readWhole_yields (fun _ hinner => yields_path hinner) hread

/-- Operators of every strength, in a text with brackets inside brackets. -/
def deepFilter : String :=
  "filter -> a[b[0] and c = '1' || 2 - 3 * 4] or (d[5])"

theorem read_wellFormed_deepFilter :
    ∃ s, Statement.read deepFilter = .ok s ∧ s.WellFormed Number.IsStorable ∧ s.TakesNoExit := by
  obtain ⟨s, hread⟩ : Readable deepFilter := by decide +kernel
  exact ⟨s, hread, (read_wellFormed deepFilter).1 s hread⟩

end Reshape
