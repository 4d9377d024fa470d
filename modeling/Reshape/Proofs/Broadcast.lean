import Reshape.Proofs.Runs

/-!
# An array is changed item by item

A statement that writes is carried out on an array as on each of its items alone. The values for all
items are computed first, and only then the items are changed, one after the other. This file says
that nothing of this order can be seen, except that no item is changed if one of them is refused.

`Edit.ByInstance` is what assignments, appends and renamings have in common: a step on single
instances, which an array takes for all of its items or for none. Items that are arrays themselves
are left out, since alone they would be documents with instances of their own.
-/

namespace Reshape

/-! ## Steps on instances -/

namespace Json

/-- The values that are computed for items go to these items, so both can be done in one step. -/
theorem map_changeItems {α : Type} (compute : Json → Except Refusal α) (f : α → Json → Json)
    (items : List Json) :
    (items.mapM compute).map (fun values => changeItems f values items)
      = items.mapM fun item => (compute item).map fun value => f value item := by
  induction items with
  | nil => rfl
  | cons item items ih =>
    rw [List.mapM_cons, List.mapM_cons, ← ih]
    cases compute item with
    | error refusal => rfl
    | ok value => cases items.mapM compute <;> rfl

theorem instances_of_kind {item : Json} (h : item.kind ≠ .array) : item.instances = [item] := by
  cases item with
  | array items => exact absurd rfl h
  | null | bool | number | string | object => rfl

theorem mapInstances_of_kind {item : Json} (h : item.kind ≠ .array) (f : Json → Json) :
    item.mapInstances f = f item := by
  cases item with
  | array items => exact absurd rfl h
  | null | bool | number | string | object => rfl

theorem changeInstances_of_kind {α : Type} {item : Json} (h : item.kind ≠ .array)
    (f : α → Json → Json) (value : α) : item.changeInstances f [value] = f value item := by
  cases item with
  | array items => exact absurd rfl h
  | null | bool | number | string | object => rfl

end Json

namespace Edit

/-- The edit takes a step on a single document, and on an array a step on each of its items. -/
structure ByInstance (edit : Edit Unit) (step : Json → Except Refusal Json) : Prop where
  alone : ∀ item, item.kind ≠ .array → edit.on item = .ofStep item (step item)
  array : ∀ items, edit.on (.array items) = .ofStep (.array items) ((items.mapM step).map .array)

/-- A change of all instances, whatever they are, takes a step on each. -/
theorem byInstance_of_mapInstances {edit : Edit Unit} {f : Json → Json}
    (h : ∀ document, edit.on document = ⟨document.mapInstances f, none⟩) :
    edit.ByInstance fun item => .ok (f item) where
  alone item hitem := by
    rw [h, Json.mapInstances_of_kind hitem]
    rfl
  array items := by
    have hall : items.mapM (fun item => (.ok (f item) : Except Refusal Json)) =
        .ok (items.map f) := mapM_eq_pure fun _ _ => rfl
    rw [h, hall]
    rfl

theorem byInstance_of_nothing {edit : Edit Unit}
    (h : ∀ document, edit.on document = ⟨document, none⟩) : edit.ByInstance .ok := by
  refine byInstance_of_mapInstances (f := id) fun document => ?_
  rw [h]
  cases document with
  | array items => rw [Json.mapInstances, List.map_id]
  | null | bool | number | string | object => rfl

/-- A write computes the value for an item and stores it there. -/
theorem write_byInstance (change : String → Option Json → Fields → Fields) (policy : NonFinite)
    (target : Path) (value : Expression) :
    ∃ step, (write change policy target value).ByInstance step := by
  -- a target without steps leads nowhere, and nothing is written
  cases hfield : target.getLast? with
  | none => exact ⟨_, byInstance_of_nothing fun document => by rw [on_write, hfield]⟩
  | some field =>
    let f (v : Option Json) : Json → Json :=
      Path.modifyContainers target.dropLast (change field.name v)
    refine ⟨fun item => (value.valueFor policy target item).map fun v => f v item, ?_, ?_⟩
    · intro item hitem
      rw [on_write, hfield, Json.instances_of_kind hitem, List.mapM_cons]
      cases value.valueFor policy target item with
      | error refusal => rfl
      | ok v => exact congrArg (Outcome.mk · none) (Json.changeInstances_of_kind hitem f v)
    · intro items
      -- both sides compute for all items first, and only then change them
      rw [on_write, hfield, ← Json.map_changeItems, Json.instances]
      cases items.mapM (value.valueFor policy target) <;> rfl

theorem rename_byInstance (target source : Path) :
    ∃ step, (rename target source).ByInstance step := by
  rcases rename_cases target source with hon | ⟨old, new, -, hon⟩
  · exact ⟨_, byInstance_of_nothing hon⟩
  · exact ⟨_, byInstance_of_mapInstances hon⟩

end Edit

theorem Statement.byInstance {statement : Statement} (h : statement.verb ≠ .filter)
    (policy : NonFinite) : ∃ step, (statement.apply policy).ByInstance step := by
  cases statement with
  | filter predicate => exact absurd rfl h
  | assign target value => exact Edit.write_byInstance Fields.assign policy target value
  | append target value => exact Edit.write_byInstance Fields.append policy target value
  | rename target source => exact Edit.rename_byInstance target source

/-! ## Items alone and together -/

namespace Edit.ByInstance

variable {edit : Edit Unit} {step : Json → Except Refusal Json}

/-- An item alone is refused exactly when its step is. -/
theorem step_eq (h : edit.ByInstance step) {item : Json} (hitem : item.kind ≠ .array) :
    step item = (edit.on item).result := by
  rw [h.alone item hitem]
  cases step item <;> rfl

/-- Where no item is refused alone, each becomes what it becomes alone. -/
theorem on_array_of_done (h : edit.ByInstance step) {items : List Json}
    (hitems : ∀ item ∈ items, item.kind ≠ .array)
    (hdone : ∀ item ∈ items, (edit.on item).refusal = none) :
    edit.on (.array items) = ⟨.array (items.map fun item => (edit.on item).document), none⟩ := by
  have hsteps : items.mapM step = .ok (items.map fun item => (edit.on item).document) := by
    refine mapM_eq_pure fun item hitem => ?_
    rw [h.step_eq (hitems item hitem), Outcome.result, hdone item hitem]
    rfl
  rw [h.array, hsteps]
  rfl

/-- The first item that is refused alone refuses the statement. -/
theorem on_array_of_refused (h : edit.ByInstance step) {before rest : List Json} {item : Json}
    {refusal : Refusal} (hitems : ∀ i ∈ before ++ item :: rest, i.kind ≠ .array)
    (hdone : ∀ i ∈ before, (edit.on i).refusal = none)
    (hrefused : (edit.on item).refusal = some refusal) :
    edit.on (.array (before ++ item :: rest)) =
      ⟨.array (before ++ item :: rest), some refusal⟩ := by
  -- the steps of the items before it succeed, and its own is the first that fails
  have hsteps : (before ++ item :: rest).mapM step = .error refusal := by
    refine mapM_of_error (fun i hi => ⟨(edit.on i).document, ?_⟩) ?_
    · rw [h.step_eq (hitems i (List.mem_append_left _ hi)), Outcome.result, hdone i hi]
    · have hitem := hitems item (List.mem_append_right _ List.mem_cons_self)
      rw [h.step_eq hitem, Outcome.result, hrefused]
  rw [h.array, hsteps]
  rfl

end Edit.ByInstance

/--
**A statement that writes is carried out on an array as on each of its items alone.** It comes to an
end if it does so on every item, and the items are then what they become alone. Otherwise it is
refused as the first item is that is refused alone, and no item is changed, not even one before it.
-/
theorem broadcast_eq_each_alone {statement : Statement} (hwrites : statement.verb ≠ .filter)
    (policy : NonFinite) {items : List Json} (hitems : ∀ item ∈ items, item.kind ≠ .array) :
    (((statement.apply policy).on (.array items)).refusal = none
      ↔ ∀ item ∈ items, ((statement.apply policy).on item).refusal = none)
    ∧ ((∀ item ∈ items, ((statement.apply policy).on item).refusal = none) →
      (statement.apply policy).on (.array items)
        = ⟨.array (items.map fun item => ((statement.apply policy).on item).document), none⟩)
    ∧ ∀ before item rest refusal, items = before ++ item :: rest →
      (∀ i ∈ before, ((statement.apply policy).on i).refusal = none) →
      ((statement.apply policy).on item).refusal = some refusal →
      (statement.apply policy).on (.array items) = ⟨.array items, some refusal⟩ := by
  obtain ⟨step, hstep⟩ := statement.byInstance hwrites policy
  refine ⟨⟨fun hnone => ?_, fun hdone => ?_⟩, hstep.on_array_of_done hitems, ?_⟩
  · -- a first item that is refused alone would have ended the statement
    cases hfirst : items.find? fun item => ((statement.apply policy).on item).refusal.isSome with
    | none =>
      have hall := List.find?_eq_none.1 hfirst
      exact fun item hitem => Option.not_isSome_iff_eq_none.1 (hall item hitem)
    | some item =>
      obtain ⟨hitem, before, rest, rfl, hbefore⟩ := List.find?_eq_some_iff_append.1 hfirst
      obtain ⟨refusal, hrefused⟩ := Option.isSome_iff_exists.1 hitem
      have hdone : ∀ i ∈ before, ((statement.apply policy).on i).refusal = none := fun i hi =>
        Option.not_isSome_iff_eq_none.1 (by simpa using hbefore i hi)
      rw [hstep.on_array_of_refused hitems hdone hrefused] at hnone
      exact absurd hnone (by simp)
  · rw [hstep.on_array_of_done hitems hdone]
  · rintro before item rest refusal rfl hdone hrefused
    exact hstep.on_array_of_refused hitems hdone hrefused

/-- Stores how often a total contains the part. -/
def share : Statement :=
  .assign [.plain "share"] (.arithmetic .divide (.path [.plain "total"]) (.path [.plain "part"]))

/-- A total and its part. -/
def totalAndPart (total part : Int) : List (String × Json) :=
  [("part", .number (.int part)), ("total", .number (.int total))]

/--
Shares are computed for all items, also for one that has no fields. For that one the share is no
number, which is refused before the item in front of it is changed.
-/
theorem broadcast_share :
    share.verb ≠ .filter
    ∧ (share.apply .reject).on
        (.array [.object (totalAndPart 6 2), .object (totalAndPart 8 4)])
      = ⟨.array
          [.object [("part", .number (.int 2)), ("share", .number (.double 3)),
            ("total", .number (.int 6))],
          .object [("part", .number (.int 4)), ("share", .number (.double 2)),
            ("total", .number (.int 8))]], none⟩
    ∧ (share.apply .reject).on
        (.array [.object (totalAndPart 6 2), .bool true, .object (totalAndPart 1 0)])
      = ⟨.array [.object (totalAndPart 6 2), .bool true, .object (totalAndPart 1 0)],
          some (.notFinite [.plain "share"] (0 / 0))⟩ := by
  have hverb : share.verb ≠ .filter := by decide
  refine ⟨hverb, ?_, ?_⟩
  · have hitems : ∀ item ∈ [Json.object (totalAndPart 6 2), .object (totalAndPart 8 4)],
        item.kind ≠ .array := by decide
    have hdone : ∀ item ∈ [Json.object (totalAndPart 6 2), .object (totalAndPart 8 4)],
        ((share.apply .reject).on item).refusal = none :=
      List.forall_mem_cons.2 ⟨rfl, List.forall_mem_singleton.2 rfl⟩
    exact ((broadcast_eq_each_alone hverb .reject hitems).2.1 hdone).trans rfl
  · have hitems : ∀ item ∈ [Json.object (totalAndPart 6 2), .bool true,
        .object (totalAndPart 1 0)], item.kind ≠ .array := by decide
    have hdone : ∀ item ∈ [Json.object (totalAndPart 6 2)],
        ((share.apply .reject).on item).refusal = none := List.forall_mem_singleton.2 rfl
    exact (broadcast_eq_each_alone hverb .reject hitems).2.2 _ (.bool true) _ _ rfl hdone rfl

end Reshape
