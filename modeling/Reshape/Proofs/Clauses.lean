import Reshape.Proofs.Agreement
import Reshape.Proofs.Markers
import Reshape.Proofs.Nesting
import Reshape.Proofs.Runs

/-!
# Clauses without their markers

The marker of a clause may be left out. Whether it was is told from the text alone: where an arrow
stands, what comes before it has to be a marker. So the rule is that a clause means the same with
and without its marker if there is no arrow in it, and that it is refused without its marker
otherwise, as it is when the arrow is a part of a quoted text.

In the other direction no clause is mistaken for a marked one: a verb with an arrow after it is read
as a name, and the arrow neither as an operator nor as a sign of comparison
(`Marked.predicate_fails`, `Marked.assignment_fails`).
-/

namespace Reshape

open Reshape.Parser Reshape.Text

namespace Grammar

/-! ## Verbs as names -/

section

variable {inner : Inner} {t left : List Char} {steps : Path}

/-- No operand begins with the head of an arrow. -/
theorem primary_fails_of_head (rest : List Char) : (primary inner).Fails ('>' :: rest) := by
  have hliteral : literal.Fails ('>' :: rest) :=
    literal_fails (words_fail (by simp)) (number_fails (by simp) (by simp)) (by simp) (by simp)
  have hgroup : (parenthesized inner.expression).Fails ('>' :: rest) :=
    parenthesized_fails (by simp [skipSpaces, isSpace])
  have hpath : (path inner).Fails ('>' :: rest) := path_fails (by simp; decide) (by simp)
  exact ((hliteral.map _).orElse ((hgroup.map _).orElse (hpath.map _))).spaced

/-- An arrow is no operator, since nothing can be subtracted after its first half. -/
theorem operation_fails_of_arrow (h : Arrowed t) (k : Nat) :
    (operation (expressionTier inner (k + 1)) (expressionOperator k)).Fails t := by
  have hother (hk : ∀ c ∈ operatorHeads k, ¬isBlank c ∧ c ≠ '-') :
      (operation (expressionTier inner (k + 1)) (expressionOperator k)).Fails t :=
    operation_fails (expressionOperator_fails (h.skipSpaces.not_mem hk))
  match k with
  | 0 => exact hother (by decide)
  | _ + 2 =>
    have hheads : ∀ c ∈ ['*', '/'], ¬isBlank c ∧ c ≠ '-' := by decide
    exact hother hheads
  | 1 =>
    by_cases hminus : '-' ∈ (skipSpaces t).head?
    · obtain ⟨rest, hrest⟩ := h.skipSpaces.eq_arrow hminus
      have hadd : (arithmeticOp .add).Fails (skipSpaces t) :=
        arithmeticOp_fails (by rw [hrest]; simp; decide)
      have hsubtract : expressionOperator 1 (skipSpaces t) =
          .ok (.arithmetic .subtract, '>' :: rest) := by
        refine (orElse_next hadd).trans ?_
        rw [hrest]
        exact arithmeticOp_ok .subtract _
      -- the second half of the arrow stands where an operand should
      have hproduct : (product inner).Fails ('>' :: rest) := (primary_fails_of_head rest).bind
      exact bind_fails (spaced_ok hsubtract) hproduct.bind
    · refine operation_fails (expressionOperator_fails fun c hc hmem => ?_)
      rcases h.skipSpaces.head c hc with hblank | rfl
      · exact (by decide : ∀ c ∈ operatorHeads 1, ¬isBlank c) c hmem hblank
      · exact hminus hc

/-- What is read as a path is no predicate if an arrow comes after it and it narrows nothing. -/
theorem predicate_fails_of_arrow (hinner : inner.LeavesSuffix)
    (hpath : path inner t = .ok (steps, left)) (hnarrows : ¬steps.narrows) (h : Arrowed left) :
    (predicate inner).Fails t := by
  have hprimary : ((expressionLadder hinner).tier 3).Leaves t (· = skipSpaces left) :=
    primary_leaves_of_path hpath
  have hexpression : (expression inner).Leaves t (· = skipSpaces left) :=
    Ladder.leaves_of_operation_fails (Nat.le_refl 3) (Nat.zero_le 3) hprimary fun k _ _ =>
      operation_fails_of_arrow h.skipSpaces k
  have hcomparison : (comparison inner).Fails t := by
    refine comparison_fails (hexpression.mono fun rest hrest => ?_)
    rw [hrest, skipSpaces_skipSpaces]
    exact comparator_fails (h.skipSpaces.not_mem (by decide))
  have hgroup := parenthesized_fails_of_path hpath inner.predicate
  -- a path that narrows nothing is no clause of its own
  have hprune : (accepting (path inner) Path.narrows).Fails t :=
    ⟨_, by rw [accepting, hpath]; simp only [hnarrows]; rfl⟩
  have hclause := hcomparison.orElse
    ((hgroup.map Predicate.group).orElse (hprune.map Predicate.prune))
  rw [← skipSpaces_of_begins (begins_of_path hpath)] at hclause
  exact hclause.spaced.bind.bind

theorem assignment_fails_of_arrow (hpath : path inner t = .ok (steps, left)) (h : Arrowed left) :
    (assignment inner).Fails t := by
  have hequal : '=' ∉ (skipSpaces (skipSpaces left)).head? := by
    rw [skipSpaces_skipSpaces]
    have hsigns : ∀ c ∈ ['='], ¬isBlank c ∧ c ≠ '-' := by decide
    exact fun hc => h.skipSpaces.not_mem hsigns '=' hc List.mem_cons_self
  rw [← skipSpaces_of_begins (begins_of_path hpath)] at hpath
  exact bind_fails (spaced_ok hpath) (char_fails hequal).spaced.bind

/-- After the verb of a marker, a statement is an assignment. -/
theorem statement_of_map {s : Statement} {rest : List Char}
    (hmarker : marker .map t = .ok ((), left)) (h : statement inner t = .ok (s, rest)) :
    ∃ target value, assignment inner left = .ok ((target, value), rest) ∧
      s = .assign target value := by
  have hfilter : (marker .filter).Fails t :=
    (introduced_marker .filter).fails (introduced_marker .map) (by decide) hmarker
  rw [statement, orElse_next hfilter.bind] at h
  rcases orElse_eq_ok h with h | ⟨-, h⟩
  · obtain ⟨_, between, hverb, h⟩ := bind_eq_ok h
    have hverb' : assigning t = .ok ((), left) := orElse_ok hmarker
    obtain ⟨-, rfl⟩ := Prod.mk.inj (Except.ok.inj (hverb.symm.trans hverb'))
    obtain ⟨⟨target, value⟩, behind, hread, hend⟩ := bind_eq_ok h
    obtain ⟨rfl, rfl⟩ := Prod.mk.inj (Except.ok.inj hend)
    exact ⟨target, value, hread, rfl⟩
  · -- other statements begin with other verbs
    obtain ⟨e, he⟩ := (introduced_marker .map).fails
      (((introduced_marker .append).bind _).orElse ((introduced_marker .rename).bind _)) (by decide)
      h
    exact absurd (he.symm.trans hmarker) (by simp)

theorem startsWith_of_assignment {r : (Path × Expression) × List Char}
    (h : assignment inner t = .ok r) : StartsWith (fun c => ¬isBlank c) (skipSpaces t) := by
  obtain ⟨target, left, hread, -⟩ := bind_eq_ok h
  obtain ⟨behind, hpath, -⟩ := spaced_eq_ok hread
  refine (startsWith_of_path hpath).mono fun c hc => ?_
  rcases hc with rfl | hstart
  · decide
  · exact not_isBlank_of_isNameChar (isNameChar_of_isNameStart hstart)

end

end Grammar

open Grammar

section

variable {accepted : List Verb} {t : List Char} {depth : Nat}

/-- In a marked text, the verb is read as a path. -/
theorem Marked.path_ok (h : Marked accepted t) (hdepth : t.length ≤ depth) :
    ∃ n left, path (inner depth) t = .ok ([.mk n .whole], left) ∧ Arrowed left := by
  obtain ⟨verb, -, w, left, hsame, harrow, rfl⟩ := h
  have hname := isName_verb hsame
  -- a verb is a name, so it is written as a path of one step
  have hwritten : Path.WrittenAs [.mk (String.ofList w) .whole] w :=
    ⟨w, [], ⟨[], rfl, by simp⟩, rfl, by simp⟩
  rw [List.length_append] at hdepth
  exact ⟨_, left, Grammar.path_ok (readsBack_inner depth) ⟨⟨hname, trivial⟩, trivial⟩ hwritten
    (by omega) (harrow.detached w), harrow⟩

theorem Marked.predicate_fails (h : Marked accepted t) (hdepth : t.length ≤ depth) :
    (predicate (inner depth)).Fails t := by
  obtain ⟨n, left, hpath, harrow⟩ := h.path_ok hdepth
  exact predicate_fails_of_arrow (inner_leavesSuffix depth) hpath Bool.false_ne_true harrow

theorem Marked.assignment_fails (h : Marked accepted t) (hdepth : t.length ≤ depth) :
    (assignment (inner depth)).Fails t := by
  obtain ⟨n, left, hpath, harrow⟩ := h.path_ok hdepth
  exact assignment_fails_of_arrow hpath harrow

end

/-! ## Taking markers off -/

section

variable {accepted : List Verb} {clause : String}

/-- Without an arrow, there is no marker to take off. -/
theorem dropMarker_of_no_arrow (h : ¬"->".toList <:+: clause.toList) :
    dropMarker accepted clause = .ok clause := by
  rw [dropMarker]
  split
  · next before body hsplit =>
    exact absurd ⟨before, body, by rw [splitArrow?_eq_some hsplit, List.append_assoc]⟩ h
  · rfl

/-- An arrow that is not the marker's is refused. -/
theorem dropMarker_of_arrow (h : ¬Marked accepted (trim clause.toList))
    (harrow : "->".toList <:+: clause.toList) :
    dropMarker accepted clause = .error (.unmarked clause accepted) := by
  obtain ⟨before, body, hsplit⟩ := exists_splitArrow? harrow
  rw [dropMarker, hsplit]
  simp only [requireMarker_eq_error h]
  rfl

theorem dropMarker_marked (verb : Verb) (hverb : verb ∈ accepted) (clause : String) :
    dropMarker accepted (verb.word ++ " -> " ++ clause) = .ok (" " ++ clause) := by
  have htext : verb.word ++ " -> " ++ clause = String.ofList
      ([] ++ (verb.word.toList ++ [' ']) ++ ("->".toList ++ (" " ++ clause).toList)) := by
    rw [← String.toList_inj, String.toList_ofList]
    simp [String.toList_append]
  have hmarker := requireMarker_ok hverb isGap_nil.isBlank (sameWord_iff.2 rfl) isGap_space.isBlank
    (" " ++ clause).toList
  have harrow : '-' ∉ [] ++ (verb.word.toList ++ [' ']) := by cases verb <;> decide
  rw [htext, dropMarker, String.toList_ofList, splitArrow?_append harrow]
  simp only [hmarker]
  rw [String.ofList_toList]
  rfl

theorem trim_space (t : List Char) : trim (' ' :: t) = trim t := by
  have hstart : trimStart (' ' :: t) = trimStart t := List.dropWhile_cons_of_pos (by decide)
  rw [trim, hstart, trim]

/-- Two texts that differ in the blanks at their ends are read alike. -/
theorem readWhole_of_trim {α : Type} {p : Parser α} {text other : String} {a : α}
    (htrim : trim other.toList = trim text.toList) (h : readWhole p text = .ok a) :
    readWhole p other = .ok a := by
  rw [readWhole_eq_ok_iff] at h ⊢
  rwa [htrim]

/-- What is read after the marker `map` is the clause, as it is read alone. -/
theorem Statement.read_map {s : Statement} (h : Statement.read ("map -> " ++ clause) = .ok s) :
    ∃ target value, readWhole (nested assignment) clause = .ok (target, value) ∧
      s = .assign target value := by
  have hrun := (Statement.read_eq_ok h).2
  have htext : ("map -> " ++ clause).toList = "map ->".toList ++ (' ' :: clause.toList) := by
    rw [String.toList_append]
    rfl
  have hstart : trimStart ("map ->".toList ++ (' ' :: clause.toList)) =
      "map ->".toList ++ (' ' :: clause.toList) :=
    dropWhile_run (t := []) (by simp) (by simp; decide)
  have hcloses : Closes "map ->".toList := ⟨'>', by decide, by decide⟩
  have htrim : trim ("map -> " ++ clause).toList =
      "map ->".toList ++ trimEnd (' ' :: clause.toList) := by
    rw [htext, trim, hstart, trimEnd_append hcloses]
  rw [htrim] at hrun
  generalize hleft : trimEnd (' ' :: clause.toList) = left at hrun
  have hmarker : marker .map ("map ->".toList ++ left) = .ok ((), skipSpaces left) :=
    marker_skips (w := "map".toList) (sameWord_iff.2 rfl) isGap_space left
  obtain ⟨target, value, hread, rfl⟩ := statement_of_map hmarker hrun
  -- the body after the marker is the clause without the blanks at its ends
  have hbody : trim clause.toList = skipSpaces left := by
    have hbegins := startsWith_of_assignment hread
    rw [skipSpaces_skipSpaces, ← hleft] at hbegins
    rw [← trim_space, ← hleft]
    exact trim_of_skipSpaces hbegins
  have hlength : (skipSpaces left).length ≤ ("map ->".toList ++ left).length := by
    rw [List.length_append]
    exact Nat.le_add_left_of_le (List.dropWhile_suffix isSpace).length_le
  rw [assignment_depth hlength (Nat.le_refl _), ← hbody] at hread
  exact ⟨target, value, readWhole_eq_ok_iff.2 hread, rfl⟩

/-! ## What is read is not marked -/

theorem not_marked_of_predicate {p : Predicate} (h : Predicate.read clause = .ok p) :
    ¬Marked accepted (trim clause.toList) := by
  intro hmarked
  obtain ⟨e, he⟩ := hmarked.predicate_fails (Nat.le_refl _)
  have hrun : nested predicate (trim clause.toList) = .ok (p, []) := readWhole_eq_ok_iff.1 h
  exact absurd (he.symm.trans hrun) (by simp)

theorem not_marked_of_assignment {r : Path × Expression}
    (h : readWhole (nested assignment) clause = .ok r) : ¬Marked accepted (trim clause.toList) := by
  intro hmarked
  obtain ⟨e, he⟩ := hmarked.assignment_fails (Nat.le_refl _)
  have hrun : nested assignment (trim clause.toList) = .ok (r, []) := readWhole_eq_ok_iff.1 h
  exact absurd (he.symm.trans hrun) (by simp)

theorem Predicate.readClause_eq {body : String} (h : dropMarker [.filter] clause = .ok body) :
    Predicate.readClause clause = Predicate.read body := by
  rw [Predicate.readClause, h]
  rfl

theorem Predicate.readClause_refused {p : Predicate} (h : Predicate.read clause = .ok p)
    (harrow : "->".toList <:+: clause.toList) :
    Predicate.readClause clause = .error (.unmarked clause [.filter]) := by
  rw [Predicate.readClause, dropMarker_of_arrow (not_marked_of_predicate h) harrow]
  rfl

theorem Statement.readAssignment_ok {body : String} {target : Path} {value : Expression}
    (h : dropMarker Verb.assigning clause = .ok body)
    (hbody : readWhole (nested assignment) body = .ok (target, value)) :
    Statement.readAssignment clause = .ok (.assign target value) := by
  exact Statement.readAssignment_eq_ok_iff.2 ⟨body, target, value, h, hbody, rfl⟩

theorem Statement.readAssignment_refused {r : Path × Expression}
    (h : readWhole (nested assignment) clause = .ok r)
    (harrow : "->".toList <:+: clause.toList) :
    Statement.readAssignment clause = .error (.unmarked clause Verb.assigning) := by
  rw [Statement.readAssignment, dropMarker_of_arrow (not_marked_of_assignment h) harrow]
  rfl

end

/--
**A clause means the same with and without its marker, unless it contains an arrow.** With its
marker a clause is always read as it stands. Without it, it is refused if there is an arrow in it,
be it in a quoted text; no clause that is read is taken for a marked one.
-/
theorem marker_optional (clause : String) :
    (∀ p, Predicate.read clause = .ok p →
      Predicate.readClause ("filter -> " ++ clause) = .ok p ∧
      (¬"->".toList <:+: clause.toList → Predicate.readClause clause = .ok p) ∧
      ("->".toList <:+: clause.toList →
        Predicate.readClause clause = .error (.unmarked clause [.filter]))) ∧
    ∀ s, Statement.read ("map -> " ++ clause) = .ok s →
      Statement.readAssignment ("map -> " ++ clause) = .ok s ∧
      (¬"->".toList <:+: clause.toList → Statement.readAssignment clause = .ok s) ∧
      ("->".toList <:+: clause.toList →
        Statement.readAssignment clause = .error (.unmarked clause Verb.assigning)) := by
  have htrim : trim (" " ++ clause).toList = trim clause.toList := by
    rw [String.toList_append]
    exact trim_space clause.toList
  constructor
  · intro p hread
    have hmarked : dropMarker [.filter] ("filter -> " ++ clause) = .ok (" " ++ clause) :=
      dropMarker_marked .filter List.mem_cons_self clause
    refine ⟨?_, fun hbare => ?_, Predicate.readClause_refused hread⟩
    · rw [Predicate.readClause_eq hmarked]
      exact readWhole_of_trim htrim hread
    · rw [Predicate.readClause_eq (dropMarker_of_no_arrow hbare), hread]
  · intro s hread
    obtain ⟨target, value, hwhole, rfl⟩ := Statement.read_map hread
    have hmarked : dropMarker Verb.assigning ("map -> " ++ clause) = .ok (" " ++ clause) :=
      dropMarker_marked .map (by decide) clause
    exact ⟨Statement.readAssignment_ok hmarked (readWhole_of_trim htrim hwhole),
      fun hbare => Statement.readAssignment_ok (dropMarker_of_no_arrow hbare) hwhole,
      Statement.readAssignment_refused hwhole⟩

/-- A text that is a clause of either kind. -/
theorem marker_optional_age :
    (∃ p, Predicate.read "age = 20" = .ok p ∧ Predicate.readClause "filter -> age = 20" = .ok p ∧
      Predicate.readClause "age = 20" = .ok p) ∧
    ∃ s, Statement.read "map -> age = 20" = .ok s ∧
      Statement.readAssignment "map -> age = 20" = .ok s ∧
      Statement.readAssignment "age = 20" = .ok s := by
  obtain ⟨hfilter, hmap⟩ := marker_optional "age = 20"
  have hbare : ¬"->".toList <:+: "age = 20".toList := by decide +kernel
  obtain ⟨p, hp⟩ : ∃ p, Predicate.read "age = 20" = .ok p := by decide +kernel
  obtain ⟨s, hs⟩ : Readable "map -> age = 20" := by decide +kernel
  obtain ⟨hp₁, hp₂, -⟩ := hfilter p hp
  obtain ⟨hs₁, hs₂, -⟩ := hmap s hs
  exact ⟨⟨p, hp, hp₁, hp₂ hbare⟩, s, hs, hs₁, hs₂ hbare⟩

/-- An arrow between quotes is taken for the one of a marker. -/
theorem quoted_arrow_refused :
    (∃ p, Predicate.read "a = '->'" = .ok p ∧
      Predicate.readClause "a = '->'" = .error (.unmarked "a = '->'" [.filter])) ∧
    ∃ s, Statement.read "map -> a = '->'" = .ok s ∧
      Statement.readAssignment "a = '->'" = .error (.unmarked "a = '->'" Verb.assigning) := by
  have harrow : "->".toList <:+: "a = '->'".toList := by decide +kernel
  obtain ⟨p, hp⟩ : ∃ p, Predicate.read "a = '->'" = .ok p := by decide +kernel
  obtain ⟨s, hs⟩ : Readable ("map -> " ++ "a = '->'") := by decide +kernel
  obtain ⟨target, value, hwhole, -⟩ := Statement.read_map hs
  exact ⟨⟨p, hp, Predicate.readClause_refused hp harrow⟩, s, hs,
    Statement.readAssignment_refused hwhole harrow⟩

end Reshape
