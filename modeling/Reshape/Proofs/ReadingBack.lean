import Mathlib.Data.List.Flatten
import Reshape.Proofs.Writing

/-!
# What is assigned is read back

A path is walked twice here: once to write into the containers at its end, and once more to read
what was written. The second walk decides the predicates on the way anew, and for items that the
first has changed. So it may lose some of them, but whatever it finds the first has changed too: an
item that the first walk did not enter is as it was, and is refused again.

* `Path.select_modify` says this of the nodes at the end of a path, `Path.containers_modify` of the
  containers;
* without predicates on the way, the second walk finds all that the first has changed.
-/

namespace Reshape

/-! ## Fields of objects -/

theorem Json.objects_mapObjects (f : Fields → Fields) (value : Json) :
    (value.mapObjects f).objects = value.objects.map f := by
  induction value with
  | array items ih =>
    rw [Json.mapObjects_array, Json.objects_array, Json.objects_array, List.map_flatMap,
      List.flatMap_map]
    exact List.flatMap_congr ih
  | object fields => rfl
  | null | bool | number | string => rfl

/-- A change under a key is found under this key, object by object. -/
theorem Json.valuesAt_mapObjects (key : String) (f : Json → Json) (value : Json) :
    (value.mapObjects fun fields => fields.modify key f).valuesAt key
      = (value.valuesAt key).map f := by
  unfold Json.valuesAt
  rw [Json.objects_mapObjects, List.filterMap_map, List.map_filterMap]
  congr 1
  funext fields
  simp [Fields.get?_modify]

/-! ## Nodes at the end of a path -/

/-- The selector picks items by their place, if at all, and not by what they hold. -/
def Selector.Unconditional (selector : Selector) : Prop :=
  ∀ predicate, selector ≠ .matching predicate

/-- No step of the path selects by a predicate. -/
def Path.Unconditional (path : Path) : Prop := ∀ step ∈ path, step.selector.Unconditional

theorem Path.unconditional_each (name : String) : Path.Unconditional [.mk name .each] :=
  List.forall_mem_singleton.2 fun _ => Selector.noConfusion

/-- Items that are refused are not changed, so they are refused again. -/
theorem filter_map_ite (test : Json → Bool) (f : Json → Json) (items : List Json) :
    ((items.map fun item => if test item then f item else item).filter test).Sublist
      ((items.filter test).map f) := by
  induction items with
  | nil => exact List.Sublist.refl []
  | cons item items ih =>
    rw [List.map_cons]
    by_cases hitem : test item
    · rw [if_pos hitem, List.filter_cons_of_pos hitem, List.map_cons]
      by_cases hchanged : test (f item)
      · rw [List.filter_cons_of_pos hchanged]
        exact ih.cons_cons (f item)
      · rw [List.filter_cons_of_neg hchanged]
        exact ih.cons (f item)
    · rw [if_neg hitem, List.filter_cons_of_neg hitem, List.filter_cons_of_neg hitem]
      exact ih

theorem Selector.select_modify (selector : Selector) (f : Json → Json) (value : Json) :
    (selector.select (selector.modify f value)).Sublist ((selector.select value).map f)
      ∧ (selector.Unconditional →
        selector.select (selector.modify f value) = (selector.select value).map f) := by
  cases value with
  | array items =>
    cases selector with
    | whole => exact ⟨List.Sublist.refl _, fun _ => rfl⟩
    | each =>
      rw [modify_each]
      exact ⟨List.Sublist.refl _, fun _ => rfl⟩
    | «at» n =>
      have hitem : (items.modify n f)[n]?.toList = items[n]?.toList.map f := by
        rw [List.getElem?_modify_eq]
        cases items[n]? <;> rfl
      rw [modify_at]
      exact ⟨hitem ▸ List.Sublist.refl _, fun _ => hitem⟩
    | matching predicate =>
      rw [modify_matching]
      exact ⟨filter_map_ite predicate.holds f items, fun h => absurd rfl (h predicate)⟩
  | _ => cases selector <;> exact ⟨List.Sublist.refl _, fun _ => rfl⟩

theorem Segment.select_modify (step : Segment) (f : Json → Json) (node : Json) :
    (step.select (step.modify f node)).Sublist ((step.select node).map f)
      ∧ (step.selector.Unconditional →
        step.select (step.modify f node) = (step.select node).map f) := by
  obtain ⟨name, selector⟩ := step
  have hvalues : (Segment.modify (.mk name selector) f node).valuesAt name
      = (node.valuesAt name).map (selector.modify f) := Json.valuesAt_mapObjects name _ node
  rw [Segment.select, Segment.select, hvalues, List.flatMap_map, List.map_flatMap]
  constructor
  · exact List.Sublist.flatMap_right _ fun value _ => (selector.select_modify f value).1
  · intro h
    exact List.flatMap_congr fun value _ => (selector.select_modify f value).2 h

namespace Path

/--
After a change at the end of a path, the path leads to nodes that were changed, in their order; and
to all of them when no predicate was asked on the way.
-/
theorem select_modify (path : Path) (f : Json → Json) (node : Json) :
    (path.select [path.modify f node]).Sublist ((path.select [node]).map f)
      ∧ (path.Unconditional →
        path.select [path.modify f node] = (path.select [node]).map f) := by
  induction path generalizing node with
  | nil => exact ⟨List.Sublist.refl _, fun _ => rfl⟩
  | cons step path ih =>
    have hselect (node : Json) : select (step :: path) [node]
        = (step.select node).flatMap fun node => select path [node] := by
      rw [select_cons, List.flatMap_singleton, select_eq_flatMap]
    obtain ⟨hsome, hall⟩ := step.select_modify (modify path f) node
    -- the path goes on from changed nodes only, and changes each of these as `ih` says
    have hmore : ((step.select node).map (modify path f)).flatMap (fun node => select path [node])
        = (step.select node).flatMap fun node => select path [modify path f node] :=
      List.flatMap_map ..
    rw [modify_cons, hselect, hselect, List.map_flatMap]
    constructor
    · refine (hsome.flatMap _).trans ?_
      rw [hmore]
      exact List.Sublist.flatMap_right _ fun node _ => (ih node).1
    · intro h
      rw [hall (h step List.mem_cons_self), hmore]
      refine List.flatMap_congr fun node _ => (ih node).2 ?_
      exact fun step hstep => h step (List.mem_cons_of_mem _ hstep)

/-- After a change of the containers at the end of a path, these are found there, or some. -/
theorem containers_modify (path : Path) (f : Fields → Fields) (node : Json) :
    (path.containers (path.modifyContainers f node)).Sublist ((path.containers node).map f)
      ∧ (path.Unconditional →
        path.containers (path.modifyContainers f node) = (path.containers node).map f) := by
  obtain ⟨hsome, hall⟩ := path.select_modify (Json.mapObjects f) node
  have hobjects : ((path.select [node]).map (Json.mapObjects f)).flatMap Json.objects
      = (path.containers node).map f := by
    unfold containers
    rw [List.flatMap_map, List.map_flatMap]
    simp only [Json.objects_mapObjects]
  constructor
  · rw [← hobjects]
    exact hsome.flatMap _
  · intro h
    rw [← hobjects, ← hall h]
    rfl

/-- A field at the end of a path is read from the containers there. -/
theorem select_concat_plain (path : Path) (field : String) (node : Json) :
    Path.select (path ++ [Segment.plain field]) [node]
      = (path.containers node).filterMap fun fields => fields.get? field := by
  unfold containers
  rw [select_append, select_cons, select_nil, List.filterMap_flatMap]
  refine List.flatMap_congr fun node _ => ?_
  exact List.flatMap_singleton' _

/-- What is read from a field is what was written there, for each container that is found again. -/
theorem select_assign (path : Path) (field : String) (value : Option Json) (node : Json) :
    (Path.select (path ++ [Segment.plain field])
        [path.modifyContainers (Fields.assign field value) node]).Sublist
        ((path.containers node).filterMap fun _ => value)
      ∧ (path.Unconditional →
        Path.select (path ++ [Segment.plain field])
          [path.modifyContainers (Fields.assign field value) node]
          = (path.containers node).filterMap fun _ => value) := by
  obtain ⟨hsome, hall⟩ := path.containers_modify (Fields.assign field value) node
  have hread : ((path.containers node).map (Fields.assign field value)).filterMap
        (fun fields => fields.get? field)
      = (path.containers node).filterMap fun _ => value := by
    rw [List.filterMap_map]
    congr 1
    funext fields
    exact ((Fields.assigned_assign field value fields).get? field).trans (if_pos rfl)
  rw [select_concat_plain, ← hread]
  constructor
  · exact hsome.filterMap _
  · intro h
    rw [hall h]

/--
How a field reads that was assigned in the containers at the end of a path. The old instance tells
how many these are.
-/
structure ReadsBack (path : Path) (field : String) (value : Option Json) (old new : Json) :
    Prop where
  /-- A field that was removed is not found. -/
  removed : value = none → Path.select (path ++ [Segment.plain field]) [new] = []
  /-- Whatever is found is the value. -/
  found : ∀ stored, value = some stored →
    ∀ node ∈ Path.select (path ++ [Segment.plain field]) [new], node = stored
  /-- It is found for every container, unless some may be refused on the way. -/
  complete : ∀ stored, value = some stored → path.Unconditional →
    (Path.select (path ++ [Segment.plain field]) [new]).length = (path.containers old).length

theorem readsBack_assign (path : Path) (field : String) (value : Option Json) (node : Json) :
    path.ReadsBack field value node (path.modifyContainers (Fields.assign field value) node) := by
  obtain ⟨hsome, hall⟩ := path.select_assign field value node
  refine ⟨?_, ?_, ?_⟩
  · rintro rfl
    simpa using hsome
  · rintro stored rfl found hfound
    obtain ⟨fields, -, hfields⟩ := List.mem_filterMap.1 (hsome.subset hfound)
    exact (Option.some.inj hfields).symm
  · rintro stored rfl h
    rw [hall h]
    simp

end Path

/-! ## Assignments -/

/--
**What is assigned is read back.** After an assignment that is not refused, its target leads to the
value stored for the instance and to nothing else, even if a predicate on the way asks for the very
field that was written, and to nothing at all if the value is `null`. Without predicates on the way
the value is found once for each container that the assignment reached.
-/
theorem assign_reads_back {policy : NonFinite} {path : Path} {field : String}
    {value : Expression} {document after : Json}
    (h : document.assign policy (path ++ [Segment.plain field]) value = .ok after) :
    document.EachInstance
      (fun old new => ∃ v, value.Stores policy old v ∧ path.ReadsBack field v old new) after := by
  refine (write_eachInstance (Outcome.eq_of_result_eq_ok h)).mono fun old new => ?_
  rintro ⟨v, hv, rfl⟩
  exact ⟨v, hv, path.readsBack_assign field v old⟩

/-- An instance with items in the given states. -/
def itemsIn (states : List String) : Json :=
  .object [("items", .array (states.map fun state => .object [("state", .string state)]))]

/-- The items that are not done yet. -/
def pending : Path :=
  [.mk "items" (.matching (.comparison (.path [.plain "state"]) .strictNotEqual
    (.literal (.string "done"))))]

/--
The states of pending items are overwritten and found again; that of the others is as it was. The
states of all items are found three times, once each, and not at all when they have been removed.
-/
theorem assign_reads_back_pending :
    (Json.array [itemsIn ["new", "done", "old"]]).assign .reject (pending ++ [.plain "state"])
        (.literal (.string "late"))
      = .ok (.array [itemsIn ["late", "done", "late"]])
    ∧ Json.EachInstance
        (fun old new => ∃ v, (Expression.literal (.string "late")).Stores .reject old v
          ∧ pending.ReadsBack "state" v old new)
        (.array [itemsIn ["new", "done", "old"]]) (.array [itemsIn ["late", "done", "late"]])
    ∧ Path.select (pending ++ [.plain "state"]) [itemsIn ["late", "done", "late"]]
      = [.string "late", .string "late"]
    ∧ Path.Unconditional [.mk "items" .each]
    ∧ (itemsIn ["new", "done", "old"]).assign .reject ([.mk "items" .each] ++ [.plain "state"])
        (.literal (.string "late"))
      = .ok (itemsIn ["late", "late", "late"])
    ∧ Path.select ([.mk "items" .each] ++ [.plain "state"]) [itemsIn ["late", "late", "late"]]
      = [.string "late", .string "late", .string "late"]
    ∧ (Path.select ([.mk "items" .each] ++ [.plain "state"])
        [itemsIn ["late", "late", "late"]]).length
      = (Path.containers [.mk "items" .each] (itemsIn ["new", "done", "old"])).length
    ∧ (itemsIn ["new"]).assign .reject ([.mk "items" .each] ++ [.plain "state"]) (.literal .null)
      = .ok (.object [("items", .array [.object []])])
    ∧ Path.select ([.mk "items" .each] ++ [.plain "state"])
        [.object [("items", .array [.object []])]] = [] := by
  have hpending : (Json.array [itemsIn ["new", "done", "old"]]).assign .reject
      (pending ++ [.plain "state"]) (.literal (.string "late"))
      = .ok (.array [itemsIn ["late", "done", "late"]]) := rfl
  have heach : (itemsIn ["new", "done", "old"]).assign .reject
      ([.mk "items" .each] ++ [.plain "state"]) (.literal (.string "late"))
      = .ok (itemsIn ["late", "late", "late"]) := rfl
  have hnull : (itemsIn ["new"]).assign .reject ([.mk "items" .each] ++ [.plain "state"])
      (.literal .null) = .ok (.object [("items", .array [.object []])]) := rfl
  have hpath : Path.Unconditional [.mk "items" .each] := Path.unconditional_each "items"
  obtain ⟨stored, hstored, hlate⟩ := assign_reads_back heach
  obtain ⟨removed, hremoved, hnone⟩ := assign_reads_back hnull
  refine ⟨hpending, assign_reads_back hpending, rfl, hpath, heach, rfl, ?_, hnull, ?_⟩
  · cases stored with
    | none =>
      have hnull : Operand.text "late" = .null := hstored
      exact Operand.noConfusion hnull
    | some value => exact hlate.complete value rfl hpath
  · cases removed with
    | none => exact hnone.removed rfl
    | some value => exact absurd rfl hremoved.1

end Reshape
