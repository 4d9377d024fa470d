import Reshape.Proofs.ReadingBack
import Reshape.Proofs.RoundTrip
import Reshape.Proofs.Trees

/-!
# Displayed paths are read back

A path is displayed in messages without its predicates, so what is displayed of a path with one is
no path. Without predicates, a displayed path is the path in its plainest spelling: no brackets in
front, no spaces in brackets, no zeros before an index. It is one of the texts of the path, and so
it is read as this path, from whatever text the path was read first.

A path of names only is displayed as the names between dots. Such a text is also taken apart at its
dots, without the grammar; both ways lead to the same path, as no name contains a dot.
-/

namespace Reshape

open Reshape.Text Reshape.Grammar

/-! ## Steps without a predicate -/

/-- A selector that is no predicate is displayed as it is printed. -/
theorem Selector.display_eq_print {selector : Selector} (h : selector.Unconditional) :
    selector.display = selector.print := by
  cases selector with
  | matching predicate => exact absurd rfl (h predicate)
  | whole | each | «at» => rfl

theorem Segment.display_eq_print {step : Segment} (h : step.selector.Unconditional) :
    step.display = step.print := by
  obtain ⟨name, selector⟩ := step
  exact congrArg (name.toList ++ ·) (Selector.display_eq_print h)

/-- Numbers occur in predicates only. -/
theorem Segment.WellFormed.of_unconditional {numbers numbers' : Number → Prop} {step : Segment}
    (hstep : step.WellFormed numbers) (h : step.selector.Unconditional) :
    step.WellFormed numbers' := by
  obtain ⟨name, selector⟩ := step
  cases selector with
  | matching predicate => exact absurd rfl (h predicate)
  | whole | each | «at» => exact hstep

namespace Path

theorem WellFormed.of_unconditional {numbers numbers' : Number → Prop} {path : Path}
    (hpath : path.WellFormed numbers) (h : path.Unconditional) : path.WellFormed numbers' :=
  ⟨hpath.1, stepsWellFormed_iff.2 fun step hstep =>
    (stepsWellFormed_iff.1 hpath.2 step hstep).of_unconditional (h step hstep)⟩

/-- Steps without predicates are displayed as they are printed, with the dots between them. -/
theorem intercalate_display {path : Path} (h : path.Unconditional) :
    ['.'].intercalate (path.map Segment.display) = printPath path := by
  induction path with
  | nil => rfl
  | cons step path ih =>
    obtain ⟨hstep, hmore⟩ := List.forall_mem_cons.1 h
    cases path with
    | nil => simp [printPath, Segment.display_eq_print hstep]
    | cons next path =>
      have hrest := ih hmore
      rw [List.map_cons] at hrest
      rw [List.map_cons, List.map_cons, List.intercalate_cons_cons, hrest,
        Segment.display_eq_print hstep]
      simp [printPath]

/-- A path without predicates is displayed in full. -/
theorem display_eq_print {path : Path} (h : path.Unconditional) :
    path.display = String.ofList path.print :=
  congrArg String.ofList (intercalate_display h)

/-! ## Paths as texts -/

/-- A path is read back from each of its texts. -/
theorem read_of_writtenAs {path : Path} {t : List Char} (hpath : path.WellFormed Number.IsExact)
    (ht : path.WrittenAs t) : Path.read (String.ofList t) = .ok path := by
  have hstart : StartsWith (fun c => ¬isBlank c) t :=
    (path.startsWith hpath.2 ht).mono fun c hc =>
      not_isBlank_of_isNameChar (isNameChar_of_isNameStart hc)
  -- a path neither begins nor ends with a blank
  have htrim : trim t = t := by
    simpa using trim_gaps isGap_nil isGap_nil hstart (path.closes hpath.2 ht)
  have hparse : Path.parser t = .ok (path, []) := by
    have hread := path_ok (readsBack_inner t.length) hpath.2 ht (Nat.le_refl _)
      (enclosed_nil.detached t)
    rwa [List.append_nil] at hread
  exact readWhole_ok ((congrArg Path.parser htrim).trans hparse)

/-- A path without predicates is read back from what is displayed of it. -/
theorem read_display {path : Path} {numbers : Number → Prop} (hpath : path.WellFormed numbers)
    (h : path.Unconditional) : Path.read path.display = .ok path := by
  rw [display_eq_print h]
  exact read_of_writtenAs (hpath.of_unconditional h) (printPath_writtenAs path hpath.2 hpath.1)

/-! ## Names between dots -/

variable {names : List String}

theorem unconditional_plain (names : List String) : Unconditional (names.map Segment.plain) := by
  intro step hstep
  obtain ⟨name, -, rfl⟩ := List.mem_map.1 hstep
  exact fun _ => Selector.noConfusion

theorem wellFormed_plain (hne : names ≠ []) (h : ∀ name ∈ names, IsName name) :
    WellFormed Number.IsExact (names.map Segment.plain) := by
  refine ⟨by simpa using hne, stepsWellFormed_iff.2 fun step hstep => ?_⟩
  obtain ⟨name, hname, rfl⟩ := List.mem_map.1 hstep
  exact ⟨h name hname, trivial⟩

/-- A path of names is displayed as the names between dots. -/
theorem display_plain (names : List String) :
    display (names.map Segment.plain) = ".".intercalate names := by
  have hstep : Segment.display ∘ Segment.plain = String.toList := by
    funext name
    exact List.append_nil _
  rw [← String.toList_inj, display, String.toList_ofList, String.toList_intercalate, List.map_map,
    hstep]
  rfl

/-- A text of names is taken apart at its dots. -/
theorem ofDotted_intercalate (hne : names ≠ []) (h : ∀ name ∈ names, IsName name) :
    ofDotted (".".intercalate names) = names.map Segment.plain := by
  -- no name contains a dot, so the text is split where it was joined
  have hsplit : (['.'].intercalate (names.map String.toList)).splitOn '.'
      = names.map String.toList := by
    refine List.splitOn_intercalate '.' ?_ (by simpa using hne)
    intro cs hcs hdot
    obtain ⟨name, hname, rfl⟩ := List.mem_map.1 hcs
    exact ((h name hname).plain hdot).1 List.mem_cons_self
  have hkept : (names.map String.toList).filter (!·.isEmpty) = names.map String.toList := by
    refine List.filter_eq_self.2 fun cs hcs => ?_
    obtain ⟨name, hname, rfl⟩ := List.mem_map.1 hcs
    simpa using (h name hname).startsWith.ne_nil
  have htext : (".".intercalate names).toList = ['.'].intercalate (names.map String.toList) :=
    String.toList_intercalate
  rw [ofDotted, htext, hsplit, hkept, List.map_map]
  exact List.map_congr_left fun name _ => congrArg Segment.plain String.ofList_toList

end Path

/--
**What is displayed of a path is read as this path**, if it was read from some text and has no
predicate. And a text of names with single dots between them is read as the path that it is made
into at its dots, a plain step for each name.
-/
theorem displayed_path_read_back :
    (∀ text (path : Path), Path.read text = .ok path → path.Unconditional →
      Path.read path.display = .ok path)
    ∧ ∀ names : List String, names ≠ [] → (∀ name ∈ names, IsName name) →
      Path.read (".".intercalate names) = .ok (Path.ofDotted (".".intercalate names)) := by
  refine ⟨fun text path hread h => ?_, fun names hne hnames => ?_⟩
  · have hpath : path.WellFormed Number.IsStorable :=
      readWhole_yields (fun _ hinner => yields_path hinner) hread
    exact Path.read_display hpath h
  · have hplain := Path.read_display (Path.wellFormed_plain hne hnames)
      (Path.unconditional_plain names)
    -- both ways lead to a plain step for each name
    rw [Path.ofDotted_intercalate hne hnames, ← hplain, Path.display_plain]

/-- A path with brackets, and with a name of other letters than those of ASCII. -/
def bracketed : Path := [.mk "a" .each, .mk "and_b" (.at 7), .plain "größe"]

/-- What is displayed of a path has lost the brackets in front of it, the spaces and the zeros. -/
theorem displayed_path_read_back_bracketed :
    Path.read " [].a[ ].and_b[ 007 ].größe" = .ok bracketed
    ∧ bracketed.Unconditional
    ∧ Path.read "a[].and_b[7].größe" = .ok bracketed
    ∧ IsName "and_b" ∧ IsName "größe"
    ∧ Path.read "and_b.größe" = .ok (Path.ofDotted "and_b.größe") := by
  obtain ⟨hdisplayed, hdotted⟩ := displayed_path_read_back
  have hread : Path.read " [].a[ ].and_b[ 007 ].größe" = .ok bracketed := rfl
  have hpath : bracketed.Unconditional := by
    refine List.forall_mem_cons.2 ⟨?_, List.forall_mem_cons.2 ⟨?_, List.forall_mem_singleton.2 ?_⟩⟩
    all_goals exact fun _ => Selector.noConfusion
  have hand : IsName "and_b" := ⟨by decide, by decide, by decide⟩
  have hsize : IsName "größe" := ⟨by decide, by decide, by decide⟩
  have hnames : ∀ name ∈ ["and_b", "größe"], IsName name :=
    List.forall_mem_cons.2 ⟨hand, List.forall_mem_singleton.2 hsize⟩
  exact ⟨hread, hpath, hdisplayed _ bracketed hread hpath, hand, hsize,
    hdotted ["and_b", "größe"] (List.cons_ne_nil _ _) hnames⟩

end Reshape
