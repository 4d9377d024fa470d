import Reshape.Proofs.Nesting
import Reshape.Proofs.Trees

/-!
# The marker in the text and in the grammar

The check of the marker looks for the first arrow of the text, wherever it stands, and knows nothing
of the grammar. The grammar reads a verb and an arrow off the front. They agree all the same
(`requireMarker_iff_marker`): no blank and no letter of a verb is the head of an arrow, so the arrow
that the grammar reads is the first one.

The two differ in what they take for a blank: the check knows the blanks of all scripts, the grammar
only spaces, tabs and line ends. So a text may pass the check although the grammar reads no marker
in it. Where spaces are the only blanks this does not happen, and what comes after the marker is the
same text for both.
-/

namespace Reshape

open Reshape.Parser Reshape.Text Reshape.Grammar

/-! ## The check and the grammar -/

section

variable {accepted : List Verb} {verb : Verb} {text : String} {left before body : List Char}

/-- What the grammar reads as a marker passes the check. -/
theorem requireMarker_of_marker (hverb : verb ∈ accepted)
    (h : marker verb (trim text.toList) = .ok ((), left)) :
    requireMarker accepted text = .ok () := by
  obtain ⟨w, between, tail, htext, hsame, harrow⟩ := marker_eq_ok h
  rw [skipSpaces_trim] at htext
  refine requireMarker_iff_marked.2 ⟨verb, hverb, w, between, hsame, ?_, htext⟩
  -- spaces are blanks, so the arrow comes after blanks
  refine ⟨between.takeWhile isSpace, tail, fun c hc => ?_, ?_⟩
  · exact isBlank_of_isSpace (List.all_eq_true.1 List.all_takeWhile c hc)
  · rw [← harrow, skipSpaces, List.takeWhile_append_dropWhile]

/--
Where spaces are the only blanks, the check succeeds exactly when the grammar reads a marker, and
then the grammar goes on where the text is split.
-/
theorem requireMarker_iff_marker (hspaces : ∀ c ∈ text.toList, isBlank c → isSpace c)
    (hsplit : splitArrow? text.toList = some (before, body)) :
    requireMarker accepted text = .ok () ↔
      ∃ verb ∈ accepted, marker verb (trim text.toList) = .ok ((), trim body) := by
  constructor
  · intro h
    rw [requireMarker, hsplit] at h
    dsimp only at h
    split at h
    · next hany =>
      obtain ⟨verb, hverb, hsame⟩ := List.any_eq_true.1 hany
      obtain ⟨blanks, hblanks, htrim⟩ := trim_of_splitArrow? hsplit
      -- the blanks before the arrow are part of the text, so they are spaces
      have hgap : IsGap blanks := by
        refine fun c hc => hspaces c (trim_subset _ ?_) (hblanks c hc)
        rw [htrim]
        exact List.mem_append_right _ (List.mem_append_left _ hc)
      have hbody : trim body = skipSpaces (trimEnd body) := by
        refine trim_eq_skipSpaces fun c hc => hspaces c ?_
        rw [splitArrow?_eq_some hsplit]
        exact List.mem_append_right _ (List.mem_append_right _ hc)
      refine ⟨verb, hverb, ?_⟩
      rw [htrim, hbody]
      exact marker_skips hsame hgap _
    · exact absurd h (by simp)
  · rintro ⟨verb, hverb, h⟩
    exact requireMarker_of_marker hverb h

end

/-! ## Texts that the grammar accepts -/

namespace Grammar

variable {inner : Inner} {t rest : List Char}

/-- A filter is read after its own marker only. -/
theorem statement_filter_iff {p : Predicate} :
    statement inner t = .ok (.filter p, rest) ↔
      ∃ left, marker .filter t = .ok ((), left) ∧ predicate inner left = .ok (p, rest) := by
  constructor
  · intro h
    rcases orElse_eq_ok h with h | ⟨-, h⟩
    · obtain ⟨_, left, hmarker, h⟩ := bind_eq_ok h
      obtain ⟨q, between, hread, hend⟩ := bind_eq_ok h
      obtain ⟨heq, rfl⟩ := Prod.mk.inj (Except.ok.inj hend)
      obtain rfl := Statement.filter.inj heq
      exact ⟨left, hmarker, hread⟩
    · -- no other alternative yields a filter
      refine absurd rfl ((?_ : Yields _ fun s => s ≠ .filter p) _ _ _ h)
      refine Yields.orElse ?_ (Yields.orElse ?_ ?_) <;> refine yields_bind fun _ => ?_
      · exact yields_bind fun _ => yields_pure (by simp)
      · exact yields_bind fun _ => yields_pure (by simp)
      · exact yields_bind fun _ => yields_bind fun _ => yields_bind fun _ => yields_pure (by simp)
  · rintro ⟨left, hmarker, hread⟩
    refine orElse_ok ?_
    rw [bind_ok hmarker, bind_ok hread]
    rfl

/-- An assignment is read after one of its markers only. -/
theorem statement_assign_iff {target : Path} {value : Expression} :
    statement inner t = .ok (.assign target value, rest) ↔
      ∃ left, assigning t = .ok ((), left) ∧
        assignment inner left = .ok ((target, value), rest) := by
  constructor
  · intro h
    rcases orElse_eq_ok h with h | ⟨-, h⟩
    · refine absurd rfl ((?_ : Yields _ fun s => s ≠ .assign target value) _ _ _ h)
      exact yields_bind fun _ => yields_bind fun _ => yields_pure (by simp)
    rcases orElse_eq_ok h with h | ⟨-, h⟩
    · obtain ⟨_, left, hmarker, h⟩ := bind_eq_ok h
      obtain ⟨⟨target', value'⟩, between, hread, hend⟩ := bind_eq_ok h
      obtain ⟨heq, rfl⟩ := Prod.mk.inj (Except.ok.inj hend)
      obtain ⟨rfl, rfl⟩ := Statement.assign.inj heq
      exact ⟨left, hmarker, hread⟩
    · refine absurd rfl ((?_ : Yields _ fun s => s ≠ .assign target value) _ _ _ h)
      refine Yields.orElse ?_ ?_ <;> refine yields_bind fun _ => ?_
      · exact yields_bind fun _ => yields_pure (by simp)
      · exact yields_bind fun _ => yields_bind fun _ => yields_bind fun _ => yields_pure (by simp)
  · rintro ⟨left, hmarker, hread⟩
    -- no filter is read where a verb of assignments stands
    have hfilter : (marker .filter).Fails t :=
      (introduced_marker .filter).fails introduced_assigning (by decide) hmarker
    refine (orElse_next hfilter.bind).trans (orElse_ok ?_)
    refine (bind_ok hmarker).trans ?_
    rw [bind_ok hread]
    rfl

end Grammar

section

variable {text : String} {before body : List Char}

/-- A text that is a statement passes the check. -/
theorem Statement.read_of_parser {s : Statement}
    (h : Statement.parser (trim text.toList) = .ok (s, [])) : Statement.read text = .ok s := by
  obtain ⟨verb, -, left, hmarker⟩ := introduced_statement _ _ s [] h
  exact Statement.read_eq_ok_iff.2 ⟨requireMarker_of_marker (by cases verb <;> decide) hmarker, h⟩

theorem Program.read_of_parser {program : Program}
    (h : Program.parser (trim text.toList) = .ok (program, [])) :
    Program.read text = .ok program := by
  obtain ⟨verb, -, left, hmarker⟩ := introduced_program _ _ program [] h
  exact Program.read_eq_ok_iff.2 ⟨requireMarker_of_marker (by cases verb <;> decide) hmarker, h⟩

/-- For statements, the check of the marker is no further condition. -/
theorem Statement.read_iff_parser {s : Statement} :
    Statement.read text = .ok s ↔ Statement.parser (trim text.toList) = .ok (s, []) :=
  ⟨fun h => (Statement.read_eq_ok_iff.1 h).2, Statement.read_of_parser⟩

/-! ## Marked clauses -/

variable (hspaces : ∀ c ∈ text.toList, isBlank c → isSpace c)
  (hsplit : splitArrow? text.toList = some (before, body))
include hspaces hsplit

/-- The grammar goes on after the marker with what the text is split into. -/
theorem marker_left {verb : Verb} {left : List Char}
    (h : marker verb (trim text.toList) = .ok ((), left)) :
    left = trim body ∧ left.length ≤ (trim text.toList).length := by
  refine ⟨?_, Nat.le_of_lt (advances_marker verb _ _ _ h).2⟩
  have hrequired := requireMarker_of_marker (List.mem_singleton_self verb) h
  obtain ⟨verb', hverb', h'⟩ := (requireMarker_iff_marker hspaces hsplit).1 hrequired
  obtain rfl := List.mem_singleton.1 hverb'
  exact (Prod.mk.inj (Except.ok.inj (h.symm.trans h'))).2

/-- What is read without its marker is read after the marker. -/
theorem read_dropped_iff {α : Type} {p : Inner → Parser α} {accepted : List Verb} {a : α}
    (hdepth : ∀ {depth depth' : Nat} {t : List Char}, t.length ≤ depth → t.length ≤ depth' →
      p (inner depth) t = p (inner depth') t) :
    (∃ dropped, dropMarker accepted text = .ok dropped ∧ readWhole (nested p) dropped = .ok a) ↔
      ∃ verb ∈ accepted, ∃ left, marker verb (trim text.toList) = .ok ((), left) ∧
        p (inner (trim text.toList).length) left = .ok (a, []) := by
  constructor
  · rintro ⟨dropped, hdropped, hread⟩
    obtain ⟨hrequired, rfl⟩ := (dropMarker_eq_ok_iff hsplit).1 hdropped
    obtain ⟨verb, hverb, hmarker⟩ := (requireMarker_iff_marker hspaces hsplit).1 hrequired
    refine ⟨verb, hverb, trim body, hmarker, ?_⟩
    -- the depth is the length of the whole text on one side, and that of the body on the other
    rw [hdepth (marker_left hspaces hsplit hmarker).2 (Nat.le_refl _)]
    have hrun := readWhole_eq_ok_iff.1 hread
    rwa [String.toList_ofList] at hrun
  · rintro ⟨verb, hverb, left, hmarker, hread⟩
    have hrequired := requireMarker_of_marker hverb hmarker
    refine ⟨_, (dropMarker_eq_ok_iff hsplit).2 ⟨hrequired, rfl⟩, readWhole_eq_ok_iff.2 ?_⟩
    obtain ⟨rfl, hlength⟩ := marker_left hspaces hsplit hmarker
    rw [hdepth hlength (Nat.le_refl _)] at hread
    rwa [String.toList_ofList]

/-- A marked filter is read alike by both readers. -/
theorem Predicate.readClause_iff_read {p : Predicate} :
    Predicate.readClause text = .ok p ↔ Statement.read text = .ok (.filter p) := by
  rw [Statement.read_iff_parser, Statement.parser, nested, statement_filter_iff,
    Predicate.readClause_eq_ok_iff]
  refine (read_dropped_iff hspaces hsplit predicate_depth).trans ?_
  simp only [List.mem_singleton, exists_eq_left]

/-- A marked assignment is read alike by both readers. -/
theorem Statement.readAssignment_iff_read {s : Statement} :
    Statement.readAssignment text = .ok s ↔
      Statement.read text = .ok s ∧ ∃ target value, s = .assign target value := by
  have hclause (target : Path) (value : Expression) :
      (∃ dropped, dropMarker Verb.assigning text = .ok dropped ∧
        readWhole (nested assignment) dropped = .ok (target, value)) ↔
      Statement.read text = .ok (.assign target value) := by
    rw [Statement.read_iff_parser, Statement.parser, nested, statement_assign_iff]
    refine (read_dropped_iff hspaces hsplit assignment_depth).trans ⟨?_, ?_⟩
    · rintro ⟨verb, hverb, left, hmarker, hread⟩
      exact ⟨left, assigning_eq_ok_iff.2 ⟨verb, hverb, hmarker⟩, hread⟩
    · rintro ⟨left, hassigning, hread⟩
      obtain ⟨verb, hverb, hmarker⟩ := assigning_eq_ok_iff.1 hassigning
      exact ⟨verb, hverb, left, hmarker, hread⟩
  rw [Statement.readAssignment_eq_ok_iff]
  constructor
  · rintro ⟨dropped, target, value, hdropped, hread, rfl⟩
    exact ⟨(hclause target value).1 ⟨dropped, hdropped, hread⟩, target, value, rfl⟩
  · rintro ⟨hread, target, value, rfl⟩
    obtain ⟨dropped, hdropped, hread⟩ := (hclause target value).2 hread
    exact ⟨dropped, target, value, hdropped, hread, rfl⟩

end

/--
**The check of the marker and the grammar agree.** What the grammar of statements or of programs
reads as a whole always passes the check. And on a text with an arrow and with no blanks but spaces,
the reader of clauses reads what the reader of statements does, as far as it is of that kind.
-/
theorem readers_agree (text : String) :
    (∀ s, Statement.parser (trim text.toList) = .ok (s, []) → Statement.read text = .ok s)
    ∧ (∀ program, Program.parser (trim text.toList) = .ok (program, []) →
      Program.read text = .ok program)
    ∧ ("->".toList <:+: text.toList → (∀ c ∈ text.toList, isBlank c → isSpace c) →
      (∀ p, Predicate.readClause text = .ok p ↔ Statement.read text = .ok (.filter p))
      ∧ ∀ s, Statement.readAssignment text = .ok s ↔
        Statement.read text = .ok s ∧ ∃ target value, s = .assign target value) := by
  refine ⟨fun s => Statement.read_of_parser, fun program => Program.read_of_parser,
    fun harrow hspaces => ?_⟩
  obtain ⟨before, body, hsplit⟩ := exists_splitArrow? harrow
  exact ⟨fun p => Predicate.readClause_iff_read hspaces hsplit,
    fun s => Statement.readAssignment_iff_read hspaces hsplit⟩

/-- Markers in any case, with an arrow between quotes after them. -/
theorem readers_agree_quoted :
    (∃ p, Predicate.readClause "Filter-> a = '->'" = .ok p ∧
      Statement.read "Filter-> a = '->'" = .ok (.filter p)) ∧
    ∃ s, Statement.readAssignment " MUTE\t->\ta = '->'" = .ok s ∧
      Statement.read " MUTE\t->\ta = '->'" = .ok s := by
  obtain ⟨-, -, hfilter⟩ := readers_agree "Filter-> a = '->'"
  obtain ⟨-, -, hmute⟩ := readers_agree " MUTE\t->\ta = '->'"
  obtain ⟨p, hp⟩ : ∃ p, Predicate.readClause "Filter-> a = '->'" = .ok p := by decide +kernel
  obtain ⟨s, hs⟩ : ∃ s, Statement.readAssignment " MUTE\t->\ta = '->'" = .ok s := by
    decide +kernel
  exact ⟨⟨p, hp, ((hfilter (by decide +kernel) (by decide +kernel)).1 p).1 hp⟩, s, hs,
    (((hmute (by decide +kernel) (by decide +kernel)).2 s).1 hs).1⟩

end Reshape
