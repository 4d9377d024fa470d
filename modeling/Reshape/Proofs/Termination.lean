import Reshape.Proofs.Markers
import Reshape.Proofs.Nesting

/-!
# Reading comes to an end

Two bounds stand in the way of reading a text: a repetition reads at most one piece for each
character, and at most as many brackets as characters are admitted around one another. Neither is
ever the reason why reading stops.

* Each piece that the grammar repeats reads something. So a repetition without a bound does the
  same, and it does not matter what would become of one that gets stuck (`manyOr_eq_many`,
  `loopsFreely`).
* Each bracket leaves less to read inside it. So the recursion that counts no brackets is the same
  grammar, and it does not matter what would apply deeper than the text is long
  (`progresses_of_advances`).

What is left over from a text that is refused is therefore an end of it, but never all of it.
-/

namespace Reshape.Parser

variable {α β : Type}

/-! ## Repetition without a bound -/

/--
`p` as often as it can be read, with no bound. Where `p` reads nothing this would not end, and
`stuck` is run instead.
-/
def manyOr (stuck : Parser (List α)) (p : Parser α) (text : List Char) :
    Except Failure (List α × List Char) :=
  match p text with
  | .error _ => .ok ([], text)
  | .ok (a, rest) =>
    if rest.length < text.length then
      (manyOr stuck p rest).map fun more => (a :: more.1, more.2)
    else stuck text
termination_by text.length

/-- Operands joined by operators, with a repetition that has no bound. -/
def leftAssocOr (stuck : Parser (List ((α → α → α) × α))) (operand : Parser α)
    (operator : Parser (α → α → α)) : Parser α := do
  let first ← operand
  let more ← manyOr stuck (operation operand operator)
  return more.foldl (fun left step => step.1 left step.2) first

/-- `p` at least once with separators, with a repetition that has no bound. -/
def sepBy1Or (stuck : Parser (List α)) (p : Parser α) (separator : Parser β) :
    Parser (List α) := do
  let a ← p
  let as ← manyOr stuck (separator *> p)
  return a :: as

/-- `p` at least once, with a repetition that has no bound. -/
def many1Or (stuck : Parser (List α)) (p : Parser α) : Parser (List α) := do
  let a ← p
  let as ← manyOr stuck p
  return a :: as

/-- A repetition never gets stuck at a piece that reads something whenever it succeeds. -/
theorem manyOr_eq_many {p : Parser α} (hp : p.Consumes) (stuck : Parser (List α)) :
    manyOr stuck p = many p := by
  funext text
  -- by the recursion of the repetition without a bound, whose last case is the one to exclude
  induction text using manyOr.induct (p := p) with
  | case1 text e hrun => rw [manyOr, run_many hp, hrun]
  | case2 text a rest hrun hlt ih =>
    rw [manyOr, run_many hp, hrun]
    dsimp only
    rw [if_pos hlt, ih]
  | case3 text a rest hrun hnot => exact absurd (hp text a rest hrun) hnot

theorem leftAssocOr_eq {operand : Parser α} {operator : Parser (α → α → α)}
    (hoperand : operand.Advances) (hoperator : operator.Advances)
    (stuck : Parser (List ((α → α → α) × α))) :
    leftAssocOr stuck operand operator = leftAssoc operand operator := by
  rw [leftAssocOr, manyOr_eq_many (hoperand.operation hoperator).consumes]
  rfl

theorem sepBy1Or_eq {p : Parser α} {separator : Parser β} (hp : p.Advances)
    (hseparator : separator.Advances) (stuck : Parser (List α)) :
    sepBy1Or stuck p separator = sepBy1 p separator := by
  rw [sepBy1Or, manyOr_eq_many (hseparator.seqRight hp.leavesSuffix).consumes]
  rfl

theorem many1Or_eq {p : Parser α} (hp : p.Advances) (stuck : Parser (List α)) :
    many1Or stuck p = many1 p := by
  rw [many1Or, manyOr_eq_many hp.consumes]
  rfl

end Reshape.Parser

namespace Reshape.Grammar

open Reshape.Parser

/-! ## The grammar without bounds -/

/--
Every level of the grammar that repeats something does the same with a repetition that has no bound,
whatever becomes of one that gets stuck.
-/
structure LoopsFreely (inner : Inner) : Prop where
  product : ∀ stuck, Grammar.product inner =
    leftAssocOr stuck (primary inner) (arithmeticOp .multiply <|> arithmeticOp .divide)
  sum : ∀ stuck, Grammar.sum inner =
    leftAssocOr stuck (Grammar.product inner) (arithmeticOp .add <|> arithmeticOp .subtract)
  expression : ∀ stuck, Grammar.expression inner =
    leftAssocOr stuck (Grammar.sum inner) (do sign "||"; return .concat)
  conjunction : ∀ stuck, Grammar.conjunction inner =
    leftAssocOr stuck (clause inner) (do keyword "and"; return .and)
  predicate : ∀ stuck, Grammar.predicate inner =
    leftAssocOr stuck (Grammar.conjunction inner) (do keyword "or"; return .or)
  path : ∀ stuck, Grammar.path inner = do
    let _ ← Parser.optional (do sign "[]"; Parser.optional (char '.'))
    sepBy1Or stuck (segment inner) (char '.')
  program : ∀ stuck, Grammar.program inner = many1Or stuck (item inner)

/-- The parsers that are repeated read something whenever they succeed. -/
theorem loopsFreely {inner : Inner} (hinner : inner.LeavesSuffix) : LoopsFreely inner where
  product stuck := (leftAssocOr_eq (advances_primary hinner)
    ((advances_arithmeticOp _).orElse (advances_arithmeticOp _)) stuck).symm
  sum stuck := (leftAssocOr_eq (advances_product hinner)
    ((advances_arithmeticOp _).orElse (advances_arithmeticOp _)) stuck).symm
  expression stuck := (leftAssocOr_eq (advances_sum hinner)
    ((advances_sign (by decide)).bind fun _ => leavesSuffix_pure _) stuck).symm
  conjunction stuck := (leftAssocOr_eq (advances_clause hinner)
    ((advances_keyword (by decide)).bind fun _ => leavesSuffix_pure _) stuck).symm
  predicate stuck := (leftAssocOr_eq (advances_conjunction hinner)
    ((advances_keyword (by decide)).bind fun _ => leavesSuffix_pure _) stuck).symm
  path stuck := by
    rw [sepBy1Or_eq (advances_segment hinner) (advances_char _) stuck]
    rfl
  program stuck := (many1Or_eq (advances_item hinner) stuck).symm

/-- At the depth of its text, a parser advances as it does at any depth. -/
theorem advances_nested {α : Type} {p : Inner → Parser α}
    (h : ∀ {inner}, inner.LeavesSuffix → (p inner).Advances) : (nested p).Advances :=
  fun text a rest hrun => h (inner_leavesSuffix text.length) text a rest hrun

/-- The grammar without a bound leaves ends of its texts. -/
theorem unbounded_leavesSuffix : unbounded.LeavesSuffix :=
  ⟨(advances_nested advances_predicate).leavesSuffix,
    (advances_nested advances_expression).leavesSuffix⟩

/-- A parser of the grammar that always gets on with its text. -/
structure Progresses {α : Type} (p : Inner → Parser α) : Prop where
  /-- What it leaves of a text is an end of the text, and shorter. -/
  advances : (nested p).Advances
  /-- It is the recursion that counts no brackets. -/
  recursion : nested p = p unbounded
  /-- However much deeper it may go than its text is long, it never asks what applies down there. -/
  ends : ∀ deepest text more, p (innerOver deepest (text.length + more)) text = nested p text

/-- What advances at every depth and asks for nothing too deep gets on with its text. -/
theorem progresses_of_advances {α : Type} {p : Inner → Parser α}
    (h : ∀ {inner}, inner.LeavesSuffix → (p inner).Advances) (hp : Descends p) : Progresses p where
  advances := advances_nested h
  recursion := hp.nested_eq_unbounded
  ends deepest _ more := hp.innerOver_eq_nested deepest (Nat.le_add_right _ more)

end Reshape.Grammar

namespace Reshape

open Reshape.Parser Reshape.Text Reshape.Grammar

/-! ## What is left over -/

/--
When a text is refused because not all of it was read, what is named as left over is an end of what
was to be read, without the blanks around it; it is neither empty nor the whole. What was to be read
is the text itself or an end of it.
-/
def LeavesProperEnds {α : Type} (read : String → Except Refusal α) : Prop :=
  ∀ text input rest, read text = .error (.unreadable input (.leftover rest)) →
    input.toList <:+ text.toList ∧ rest ≠ [] ∧ rest <:+ trim input.toList ∧
      rest.length < (trim input.toList).length

/-- Something is left over only behind what was read. -/
theorem readWhole_eq_leftover {α : Type} {p : Parser α} {text input : String} {rest : List Char}
    (h : readWhole p text = .error (.unreadable input (.leftover rest))) :
    input = text ∧ rest ≠ [] ∧ ∃ a, p (trim text.toList) = .ok (a, rest) := by
  rw [readWhole, runAll] at h
  split at h
  · cases h
  · next a c left hrun =>
    cases h
    exact ⟨rfl, List.cons_ne_nil _ _, a, hrun⟩
  · cases h

/-- A parser that advances leaves over a proper end of its text. -/
theorem leavesProperEnds_readWhole {α : Type} {p : Parser α} (hp : p.Advances) :
    LeavesProperEnds (readWhole p) := by
  intro text input rest h
  obtain ⟨rfl, hne, a, hrun⟩ := readWhole_eq_leftover h
  obtain ⟨hsuffix, hlt⟩ := hp _ a rest hrun
  exact ⟨List.suffix_refl _, hne, hsuffix, hlt⟩

theorem bind_eq_error {ε α β : Type} {x : Except ε α} {f : α → Except ε β} {e : ε}
    (h : (x >>= f) = .error e) : x = .error e ∨ ∃ a, x = .ok a ∧ f a = .error e := by
  cases x with
  | error e' => exact .inl (congrArg _ (Except.error.inj h))
  | ok a => exact .inr ⟨a, rfl, h⟩

theorem requireMarker_ne_unreadable {accepted : List Verb} {text input : String} {fault : Fault} :
    requireMarker accepted text ≠ .error (.unreadable input fault) := by
  intro h
  rw [requireMarker] at h
  split at h
  · split at h <;> cases h
  · cases h

/-- The check before reading leaves nothing over. -/
theorem LeavesProperEnds.marked {α : Type} {accepted : List Verb} {read : String → Except Refusal α}
    (h : LeavesProperEnds read) :
    LeavesProperEnds (fun text => do requireMarker accepted text; read text) := by
  intro text input rest hrun
  rcases bind_eq_error hrun with hmarker | ⟨_, -, hread⟩
  · exact absurd hmarker requireMarker_ne_unreadable
  · exact h text input rest hread

/-- What a clause is without its marker is an end of it. -/
theorem suffix_of_dropMarker {accepted : List Verb} {clause dropped : String}
    (h : dropMarker accepted clause = .ok dropped) : dropped.toList <:+ clause.toList := by
  rw [dropMarker] at h
  split at h
  · next before body hsplit =>
    obtain ⟨-, hbody⟩ := requireMarker_then.1 h
    cases hbody
    rw [String.toList_ofList, splitArrow?_eq_some hsplit, ← List.append_assoc]
    exact List.suffix_append _ _
  · cases h
    exact List.suffix_refl _

theorem dropMarker_ne_unreadable {accepted : List Verb} {clause input : String} {fault : Fault} :
    dropMarker accepted clause ≠ .error (.unreadable input fault) := by
  intro h
  rw [dropMarker] at h
  split at h
  · rcases bind_eq_error h with hmarker | ⟨_, -, hbody⟩
    · exact requireMarker_ne_unreadable hmarker
    · cases hbody
  · cases h

/-- A text without its marker is an end of the text, and so are its own ends. -/
theorem LeavesProperEnds.unmarked {α : Type} {accepted : List Verb}
    {read : String → Except Refusal α} (h : LeavesProperEnds read) :
    LeavesProperEnds (fun clause => do read (← dropMarker accepted clause)) := by
  intro clause input rest hrun
  rcases bind_eq_error hrun with hmarker | ⟨dropped, hdropped, hread⟩
  · exact absurd hmarker dropMarker_ne_unreadable
  · obtain ⟨hinput, hends⟩ := h dropped input rest hread
    exact ⟨hinput.trans (suffix_of_dropMarker hdropped), hends⟩

theorem LeavesProperEnds.bind_pure {α β : Type} {read : String → Except Refusal α}
    (h : LeavesProperEnds read) (f : α → β) :
    LeavesProperEnds (fun text => do return f (← read text)) := by
  intro text input rest hrun
  rcases bind_eq_error hrun with hread | ⟨a, -, hpure⟩
  · exact h text input rest hread
  · cases hpure

/--
**Reading a text makes progress and comes to an end.** Each parser of the grammar reads something
whenever it succeeds, goes no deeper than its text is long, and repeats nothing that reads nothing;
and if a text is refused for what is left over from it, that is a part of it, at its end.
-/
theorem reading_makes_progress :
    (Progresses path ∧ Progresses expression ∧ Progresses predicate ∧ Progresses statement ∧
      Progresses program) ∧
    LoopsFreely unbounded ∧
    LeavesProperEnds Path.read ∧ LeavesProperEnds Expression.read ∧
    LeavesProperEnds Predicate.read ∧ LeavesProperEnds Statement.read ∧
    LeavesProperEnds Program.read ∧ LeavesProperEnds Predicate.readClause ∧
    LeavesProperEnds Statement.readAssignment := by
  have hpath := progresses_of_advances advances_path descends_path
  have hexpression := progresses_of_advances advances_expression descends_expression
  have hpredicate := progresses_of_advances advances_predicate descends_predicate
  have hstatement := progresses_of_advances advances_statement descends_statement
  have hprogram := progresses_of_advances advances_program descends_program
  have hassignment := advances_nested advances_assignment
  have hends {α : Type} {p : Inner → Parser α} (hp : Progresses p) :
      LeavesProperEnds (readWhole (nested p)) := leavesProperEnds_readWhole hp.advances
  exact ⟨⟨hpath, hexpression, hpredicate, hstatement, hprogram⟩,
    loopsFreely unbounded_leavesSuffix,
    hends hpath, hends hexpression, hends hpredicate, (hends hstatement).marked,
    (hends hprogram).marked, (hends hpredicate).unmarked,
    ((leavesProperEnds_readWhole hassignment).bind_pure fun r => Statement.assign r.1 r.2).unmarked⟩

/-- A parenthesis that nothing opened is left over from a clause, behind its marker. -/
theorem reading_makes_progress_parenthesis :
    Statement.readAssignment "map -> a = b ) "
      = .error (.unreadable " a = b ) " (.leftover [')'])) ∧
    " a = b ) ".toList <:+ "map -> a = b ) ".toList ∧ [')'] ≠ [] ∧
    [')'] <:+ trim " a = b ) ".toList ∧ [')'].length < (trim " a = b ) ".toList).length := by
  have hrefused : Statement.readAssignment "map -> a = b ) "
      = .error (.unreadable " a = b ) " (.leftover [')'])) := rfl
  obtain ⟨-, -, -, -, -, -, -, -, hassignment⟩ := reading_makes_progress
  exact ⟨hrefused, hassignment _ _ _ hrefused⟩

end Reshape
