import Reshape.Evaluation

/-!
# Visits

A visit walks a path and may change each node at its end. It reaches the nodes that `Path.select`
finds, in the same order. A predicate on the way is decided for an item before anything inside that
item is visited, so what a visit changes never decides where it goes.

The walk is one for all effects: `visitM` takes any monad, and `modify` is the walk that has no
effect but the change.
-/

namespace Reshape

/-- Changes the item with the given index, if there is one. -/
def modifyItemM {m : Type → Type} [Monad m] {α : Type} (f : α → m α) : Nat → List α → m (List α)
  | _, [] => pure []
  | 0, item :: items => return (← f item) :: items
  | n + 1, item :: items => return item :: (← modifyItemM f n items)

/-! ## Selectors -/

namespace Selector

/-- Visits the nodes that a selector picks of the value of a field. -/
def visitM {m : Type → Type} [Monad m] (selector : Selector) (visit : Json → m Json)
    (value : Json) : m Json :=
  match selector, value with
  | .whole, value => visit value
  | .each, .array items => return .array (← items.mapM visit)
  | .at n, .array items => return .array (← modifyItemM visit n items)
  | .matching predicate, .array items =>
    return .array (← items.mapM fun item => if predicate.holds item then visit item else pure item)
  | _, value => pure value

/-- Changes the nodes that a selector picks of the value of a field. -/
def modify (selector : Selector) (f : Json → Json) (value : Json) : Json :=
  Id.run (selector.visitM (fun node => pure (f node)) value)

@[simp] theorem modify_whole (f : Json → Json) (value : Json) :
    Selector.whole.modify f value = f value := rfl

@[simp] theorem modify_each (f : Json → Json) (items : List Json) :
    Selector.each.modify f (.array items) = .array (items.map f) := by
  simp [modify, visitM]

@[simp] theorem modify_at (f : Json → Json) (n : Nat) (items : List Json) :
    (Selector.at n).modify f (.array items) = .array (items.modify n f) := by
  have hitem : Id.run (modifyItemM (fun node => pure (f node)) n items) = items.modify n f := by
    induction items generalizing n with
    | nil => cases n <;> rfl
    | cons item items ih =>
      cases n with
      | zero => rfl
      | succ n => rw [List.modify_succ_cons, ← ih]; rfl
  rw [← hitem]
  rfl

@[simp] theorem modify_matching (f : Json → Json) (predicate : Predicate) (items : List Json) :
    (Selector.matching predicate).modify f (.array items)
      = .array (items.map fun item => if predicate.holds item then f item else item) := by
  have hitem (item : Json) :
      (if predicate.holds item then pure (f item) else pure item : Id Json)
        = pure (if predicate.holds item then f item else item) := by
    split <;> rfl
  simp [modify, visitM, hitem]

end Selector

/-! ## Steps and paths -/

/-- Visits the nodes that a step leads to. -/
def Segment.visitM {m : Type → Type} [Monad m] (step : Segment) (visit : Json → m Json)
    (node : Json) : m Json :=
  node.mapObjectsM fun fields => fields.modifyM step.name (step.selector.visitM visit)

/-- Changes the nodes that a step leads to. -/
def Segment.modify (step : Segment) (f : Json → Json) (node : Json) : Json :=
  node.mapObjects fun fields => fields.modify step.name (step.selector.modify f)

namespace Path

/-- Visits the nodes at the end of a path. -/
def visitM {m : Type → Type} [Monad m] : Path → (Json → m Json) → Json → m Json
  | [], visit, node => visit node
  | step :: path, visit, node => step.visitM (visitM path visit) node

/-- Changes the nodes at the end of a path. -/
def modify (path : Path) (f : Json → Json) (node : Json) : Json :=
  Id.run (path.visitM (fun node => pure (f node)) node)

/--
Changes the fields of the containers at the end of a path, which are the objects that the nodes
there stand for.
-/
def modifyContainers (path : Path) (f : Fields → Fields) (node : Json) : Json :=
  path.modify (Json.mapObjects f) node

@[simp] theorem modify_nil (f : Json → Json) (node : Json) : modify [] f node = f node := rfl

@[simp] theorem modify_cons (step : Segment) (path : Path) (f : Json → Json) (node : Json) :
    modify (step :: path) f node = step.modify (modify path f) node := rfl

end Path

end Reshape
