import Reshape.Proofs.Reach

/-!
# A visit refines a selection

`Path.visitM` changes a document on one walk down, and `Path.select` reads it step by step. With
any visitor that keeps a state of its own, the first does what the second promises: the visitor is
called with the selected nodes of the document as it was, each as often as it is selected and in
that order, and the document afterwards is the old one with these nodes replaced. Which nodes these
are is a matter of their positions, as one may be selected and another that is equal to it not.
-/

namespace Reshape

/-- A visitor is called once for each value, and leaves one value each time. -/
theorem length_mapM_run {σ α β : Type} (visit : α → StateM σ β) (values : List α) (s : σ) :
    ((values.mapM visit).run s).1.length = values.length := by
  induction values generalizing s with
  | nil => rfl
  | cons value values ih =>
    rw [List.mapM_cons]
    exact congrArg (· + 1) (ih _)

/--
The visit of a path gives a visitor what is selected, and sets the positions to what it leaves.
-/
theorem Path.visitM_eq {m : Type → Type} [Monad m] [LawfulMonad m] (path : Path)
    (visit : Json → m Json) (node : Json) :
    path.visitM visit node
      = (fun left => node.setAll ((path.positions node).zip left))
          <$> (path.select [node]).mapM visit := by
  have hcovers := covers_path (covers_here id) path node m visit
  rw [Places.bind_here, Places.visitM_eq, map_snd_places, Functor.map_map] at hcovers
  simpa [positions] using hcovers

/--
**A visit refines a selection.** A path selects what is at its positions, of which none lies inside
another. For every visitor with a state, a visit calls it with the nodes that the path selects of
the document as it was, in order. Afterwards each of the positions holds what the visitor left
there, and the document is otherwise unchanged.
-/
theorem Path.visitM_refines_select (path : Path) (node : Json) :
    (path.positions node).map node.at? = (path.select [node]).map some
      ∧ (path.positions node).Pairwise Position.Apart
      ∧ ∀ (σ : Type) (visit : Json → StateM σ Json) (s : σ),
          let calls := ((path.select [node]).mapM visit).run s
          let after := node.setAll ((path.positions node).zip calls.1)
          (path.visitM visit node).run s = (after, calls.2)
            ∧ (path.positions node).map after.at? = calls.1.map some
            ∧ ∀ q, (∀ p ∈ path.positions node, p.Apart q) → after.at? q = node.at? q := by
  refine ⟨path.map_at?_positions node, path.pairwise_apart_positions node, fun σ visit s => ?_⟩
  intro calls after
  have hlength : calls.1.length = (path.positions node).length := by
    rw [length_mapM_run, length_positions]
  refine ⟨?_, ?_, fun q hq => ?_⟩
  · rw [visitM_eq]
    rfl
  · -- the visitor may leave anything at a position, so what holds there rests on the old document
    refine Json.map_at?_setAll hlength (path.pairwise_apart_positions node) fun p hp => ?_
    obtain ⟨place, hplace, rfl⟩ := List.mem_map.1 hp
    rw [(path.places_in node).found place hplace]
    rfl
  · exact Json.at?_setAll_apart (fun change hin => hq change.1 (List.of_mem_zip hin).1) node

/-- A visitor that puts numbers in place of nodes, counted up from its state. -/
def numberFrom (_ : Json) : StateM Nat Json := do
  modify (· + 1)
  return .number (.int (← get))

/-- Two objects without fields in an array, of which the second has been replaced. -/
def twinsWith (second : Json) : Json := .object [("twins", .array [.object [], second])]

/-- Twins in an object, and once more in an array, with an object in between that has none. -/
def twinsTwice (first second : Json) : Json :=
  .array [twinsWith first, .object [], .array [twinsWith second]]

/-- Of two equal items the second is visited, wherever there are such, and the first is kept. -/
theorem visitM_second_twin :
    Path.positions [.mk "twins" (.at 1)] (twinsTwice (.object []) (.object []))
      = [[.index 0, .key "twins", .index 1], [.index 2, .index 0, .key "twins", .index 1]]
    ∧ (∀ p ∈ Path.positions [.mk "twins" (.at 1)] (twinsTwice (.object []) (.object [])),
      p.Apart [.index 0, .key "twins", .index 0])
    ∧ (Path.visitM [.mk "twins" (.at 1)] numberFrom (twinsTwice (.object []) (.object []))).run 0
      = (twinsTwice (.number (.int 1)) (.number (.int 2)), 2)
    ∧ (twinsTwice (.number (.int 1)) (.number (.int 2))).at? [.index 0, .key "twins", .index 0]
      = (twinsTwice (.object []) (.object [])).at? [.index 0, .key "twins", .index 0] := by
  have hapart : ∀ p ∈ Path.positions [.mk "twins" (.at 1)] (twinsTwice (.object []) (.object [])),
      p.Apart [.index 0, .key "twins", .index 0] := by
    decide
  have hresult : (Path.visitM [.mk "twins" (.at 1)] numberFrom
      (twinsTwice (.object []) (.object []))).run 0
      = (twinsTwice (.number (.int 1)) (.number (.int 2)), 2) := rfl
  obtain ⟨-, -, hvisit⟩ :=
    Path.visitM_refines_select [.mk "twins" (.at 1)] (twinsTwice (.object []) (.object []))
  obtain ⟨hrun, -, hkept⟩ := hvisit Nat numberFrom 0
  obtain ⟨hafter, -⟩ := Prod.mk.inj (hresult.symm.trans hrun)
  refine ⟨rfl, hapart, hresult, ?_⟩
  rw [hafter]
  exact hkept _ hapart

end Reshape
