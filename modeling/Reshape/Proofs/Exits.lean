import Reshape.Proofs.Reach
import Reshape.Proofs.Runs
import Reshape.Syntax.WellFormed

/-!
# Exits that are never taken

Narrowing knows what to do with a path that has no steps, and with one whose last step picks no
items: nothing. No text leads there. `Predicate.siftM` decides and narrows as `Predicate.sift` does,
except that it does something else at these two exits, whatever is asked for, with effects of any
kind. For a well-formed predicate it makes no difference what that is.
-/

namespace Reshape

variable {m : Type → Type} [Monad m]

/-! ## Narrowing with exits -/

mutual

/-- Decides a predicate and narrows, with `exit` for a path that narrows nothing. -/
def Predicate.siftM (exit : Json → m Json) : Predicate → Json → m (Bool × Json)
  | .comparison left op right, node =>
    pure (Predicate.holds (.comparison left op right) node, node)
  | .and left right, node => do
    let (verdict, node) ← Predicate.siftM exit left node
    if verdict then Predicate.siftM exit right node else return (false, node)
  | .or left right, node => do
    let (verdict, node) ← Predicate.siftM exit left node
    if verdict then return (true, node) else Predicate.siftM exit right node
  | .group inner, node => Predicate.siftM exit inner node
  | .prune path, node => return (true, ← narrowPathM exit path node)

/-- Narrows the arrays that a path leads to, with `exit` for the path without steps. -/
def narrowPathM (exit : Json → m Json) : List Segment → Json → m Json
  | [], node => exit node
  | .mk name selector :: path, node =>
    node.mapObjectsM fun fields => fields.modifyM name fun value =>
      if path.isEmpty then Selector.narrowM exit selector value
      else selector.visitM (fun node => narrowPathM exit path node) value

/-- Narrows an array, with `exit` for a selector that picks no items. Other values stay. -/
def Selector.narrowM (exit : Json → m Json) : Selector → Json → m Json
  | .at n, .array items => pure (.array items[n]?.toList)
  | .matching predicate, .array items => do
    let verdicts ← items.mapM fun item => Predicate.siftM exit predicate item
    return .array (verdicts.filterMap fun (keep, item) => if keep then some item else none)
  | _, .array items => exit (.array items)
  | _, value => pure value

end

/-! ## Walks without effects -/

section

variable [LawfulMonad m]

/-- A change without effects of each object has none on the whole. -/
theorem mapObjectsM_eq_pure {g : Fields → m Fields} {f : Fields → Fields}
    (h : ∀ fields, g fields = pure (f fields)) (value : Json) :
    value.mapObjectsM g = pure (value.mapObjects f) := by
  induction value with
  | array items ih =>
    rw [mapObjectsM_array, Json.mapObjects_array, mapM_eq_pure ih, map_pure]
  | object fields ih =>
    rw [Json.mapObjects_object, Json.mapObjectsM, h]
    simp
  | _ => rfl

/-- A change without effects of one field has none on all fields. -/
theorem modifyM_eq_pure {g : Json → m Json} {f : Json → Json}
    (h : ∀ value, g value = pure (f value)) (fields : Fields) (key : String) :
    fields.modifyM key g = pure (fields.modify key f) := by
  induction fields with
  | nil => rfl
  | cons field fields ih =>
    obtain ⟨k, v⟩ := field
    rw [Fields.modifyM, Fields.modify_cons]
    split
    · rw [h]
      simp
    · rw [ih]
      simp

theorem modifyItemM_eq_pure {g : Json → m Json} {f : Json → Json}
    (h : ∀ item, g item = pure (f item)) (n : Nat) (items : List Json) :
    modifyItemM g n items = pure (items.modify n f) := by
  induction items generalizing n with
  | nil => cases n <;> rfl
  | cons item items ih =>
    cases n with
    | zero => simp [modifyItemM, h]
    | succ n => simp [modifyItemM, ih]

/-- A visit by a visitor without effects is a change. -/
theorem visitM_eq_pure {g : Json → m Json} {f : Json → Json} (h : ∀ node, g node = pure (f node))
    (selector : Selector) (value : Json) :
    selector.visitM g value = pure (selector.modify f value) := by
  cases selector with
  | whole => exact h value
  | each =>
    cases value with
    | array items => simp [Selector.visitM, mapM_eq_pure fun item _ => h item]
    | _ => rfl
  | «at» n =>
    cases value with
    | array items => simp [Selector.visitM, modifyItemM_eq_pure h]
    | _ => rfl
  | matching predicate =>
    cases value with
    | array items =>
      have hitem (item : Json) : (if predicate.holds item then g item else pure item) =
          pure (if predicate.holds item then f item else item) := by
        split
        · exact h item
        · rfl
      simp [Selector.visitM, mapM_eq_pure fun item _ => hitem item]
    | _ => rfl

/-! ## No exit is taken -/

variable {exit : Json → m Json} {numbers : Number → Prop}

-- an exit makes no difference if it is never taken, and also if it does nothing: one induction
-- carries both, so that narrowing with exits is known to be narrowing where they are taken
mutual

/-- Deciding takes no exit that matters, and so narrows as `sift` does. -/
theorem Predicate.siftM_eq_pure (predicate : Predicate)
    (h : predicate.WellFormed numbers ∨ exit = pure) (node : Json) :
    predicate.siftM exit node = pure (predicate.sift node) := by
  match predicate with
  | .comparison left op right => rfl
  | .and left right =>
    have hright := Predicate.siftM_eq_pure right (h.imp_left (·.2.2))
    rw [Predicate.siftM, Predicate.sift, Predicate.siftM_eq_pure left (h.imp_left (·.2.1)) node]
    -- the right side is only decided where the left one holds
    rcases left.sift node with ⟨_ | _, narrowed⟩
    · simp
    · simp [hright]
  | .or left right =>
    have hright := Predicate.siftM_eq_pure right (h.imp_left (·.2.2))
    rw [Predicate.siftM, Predicate.sift, Predicate.siftM_eq_pure left (h.imp_left (·.2.1)) node]
    rcases left.sift node with ⟨_ | _, narrowed⟩
    · simp [hright]
    · simp
  | .group inner =>
    rw [Predicate.siftM, Predicate.sift]
    exact Predicate.siftM_eq_pure inner h node
  | .prune path =>
    rw [Predicate.siftM, Predicate.sift, narrowPathM_eq_pure path h node]
    simp

/-- A path that narrows has a last step, and this picks items. -/
theorem narrowPathM_eq_pure (path : List Segment)
    (h : (Path.narrows path ∧ StepsWellFormed numbers path) ∨ exit = pure) (node : Json) :
    narrowPathM exit path node = pure (narrowPath path node) := by
  match path with
  | [] =>
    rcases h with ⟨hnarrows, -⟩ | rfl
    · exact absurd hnarrows (by decide)
    · rfl
  | .mk name selector :: path =>
    -- of the steps, only the last one has to narrow: the others lead on to it
    have hlast : path.isEmpty → (selector.narrows ∧ selector.WellFormed numbers) ∨ exit = pure := by
      intro hempty
      obtain rfl := List.isEmpty_iff.1 hempty
      exact h.imp_left fun h => ⟨h.1, h.2.1.2⟩
    have hmore : ¬path.isEmpty →
        (Path.narrows path ∧ StepsWellFormed numbers path) ∨ exit = pure := by
      intro hne
      refine h.imp_left fun h => ⟨?_, h.2.2⟩
      cases path with
      | nil => exact absurd rfl hne
      | cons step path => simpa only [Path.narrows, List.getLast?_cons_cons] using h.1
    rw [narrowPathM, narrowPath]
    refine mapObjectsM_eq_pure (fun fields => modifyM_eq_pure (fun value => ?_) fields name) node
    split
    · next hempty => exact Selector.narrowM_eq_pure selector (hlast hempty) value
    · next hne => exact visitM_eq_pure (narrowPathM_eq_pure path (hmore hne)) selector value

/-- A selector that picks items has no exit but those of its predicate. -/
theorem Selector.narrowM_eq_pure (selector : Selector)
    (h : (selector.narrows ∧ selector.WellFormed numbers) ∨ exit = pure) (value : Json) :
    selector.narrowM exit value = pure (selector.narrow value) := by
  match selector with
  | .whole =>
    rcases h with ⟨hnarrows, -⟩ | rfl
    · exact absurd hnarrows (by decide)
    · cases value <;> rfl
  | .each =>
    rcases h with ⟨hnarrows, -⟩ | rfl
    · exact absurd hnarrows (by decide)
    · cases value <;> rfl
  | .at n => cases value <;> rfl
  | .matching predicate =>
    cases value with
    | array items =>
      have hitems : items.mapM (fun item => predicate.siftM exit item) =
          pure (items.map predicate.sift) :=
        mapM_eq_pure fun item _ => Predicate.siftM_eq_pure predicate (h.imp_left (·.2)) item
      rw [Selector.narrowM, Selector.narrow, hitems, pure_bind, List.filterMap_map]
      -- both keep the same items, so it comes down to what is made of one of them
      congr 3
      funext item
      rw [Function.comp]
      rcases predicate.sift item with ⟨_ | _, narrowed⟩ <;> rfl
    | _ => rfl

end

/-- With exits that do nothing, narrowing with exits is narrowing. -/
theorem Predicate.siftM_pure (predicate : Predicate) (node : Json) :
    predicate.siftM (pure : Json → m Json) node = pure (predicate.sift node) := by
  have h : predicate.WellFormed (fun _ => True) ∨ (pure : Json → m Json) = pure := .inr rfl
  exact predicate.siftM_eq_pure h node

end

/-! ## Statements -/

/-- No exit is taken when the predicate is decided: it is decided even if the exits give up. -/
def Predicate.TakesNoExit (predicate : Predicate) : Prop :=
  ∀ node, predicate.siftM (fun _ => none) node = some (predicate.sift node)

/--
No exit is taken when the statement is carried out. Assignments and renamings have one for a path
without a last step.
-/
def Statement.TakesNoExit : Statement → Prop
  | .filter predicate => predicate.TakesNoExit
  | .assign target _ => target.getLast?.isSome
  | .append target _ => target.getLast?.isSome
  | .rename target source => target.getLast?.isSome ∧ source.getLast?.isSome

/-- A well-formed predicate is decided without any exit. -/
theorem Predicate.WellFormed.takesNoExit {numbers : Number → Prop} {predicate : Predicate}
    (h : predicate.WellFormed numbers) : predicate.TakesNoExit :=
  fun node => predicate.siftM_eq_pure (.inl h) node

/-- A path that narrows nothing does take one. -/
example : (Predicate.prune [.plain "a"]).siftM (fun _ => none) (.object [("a", .array [])])
    = (none : Option (Bool × Json)) := rfl

theorem Path.WellFormed.isSome_getLast? {numbers : Number → Prop} {path : Path}
    (h : path.WellFormed numbers) : path.getLast?.isSome := by
  rw [List.getLast?_isSome]
  exact h.1

theorem Statement.WellFormed.takesNoExit {numbers : Number → Prop} {s : Statement}
    (h : s.WellFormed numbers) : s.TakesNoExit := by
  cases s with
  | filter predicate => exact Predicate.WellFormed.takesNoExit h
  | assign target value => exact h.1.isSome_getLast?
  | append target value => exact h.1.isSome_getLast?
  | rename target source => exact ⟨h.1.isSome_getLast?, h.2.isSome_getLast?⟩

end Reshape
