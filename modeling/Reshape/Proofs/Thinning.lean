import Mathlib.Data.List.Forall2
import Reshape.Change
import Reshape.Json.Thinning

/-!
# A filter only removes items

A filter drops items of the array it works on, and the paths in its predicate narrow arrays inside
the items that stay. This file says that nothing else happens: what is left is a `Thinning` of what
was there.

* `thinning_array_iff` and `thinning_object_iff` say what a thinning is, value by value: some of the
  items in their order, all of the keys, and thinnings of what they hold;
* each piece of a walk makes a thinning out of thinnings, and one thinning after another is one;
* so a predicate of any form leaves a thinning of the item it decides, by induction on the
  predicates, paths and selectors inside it.
-/

namespace Reshape

/-! ## What a thinning is -/

theorem thinningItems_iff {items items' : List Json} :
    ThinningItems items items' ↔
      ∃ kept, kept.Sublist items ∧ List.Forall₂ Thinning kept items' := by
  constructor
  · intro h
    induction items generalizing items' with
    | nil =>
      cases h with
      | nil => exact ⟨[], List.Sublist.refl [], .nil⟩
    | cons item items ih =>
      cases h with
      | drop hitems =>
        obtain ⟨kept, hkept, hthin⟩ := ih hitems
        exact ⟨kept, hkept.cons item, hthin⟩
      | keep hitem hitems =>
        obtain ⟨kept, hkept, hthin⟩ := ih hitems
        exact ⟨item :: kept, hkept.cons_cons item, .cons hitem hthin⟩
  · rintro ⟨kept, hkept, hthin⟩
    induction hkept generalizing items' with
    | slnil =>
      cases hthin with
      | nil => exact .nil
    | cons item _ ih => exact .drop (ih hthin)
    | cons_cons item _ ih =>
      cases hthin with
      | cons hitem hitems => exact .keep hitem (ih hitems)

theorem thinningFields_iff {fields fields' : Fields} :
    ThinningFields fields fields' ↔
      List.Forall₂ (fun old new => old.1 = new.1 ∧ Thinning old.2 new.2) fields fields' := by
  constructor
  · intro h
    induction fields generalizing fields' with
    | nil =>
      cases h with
      | nil => exact .nil
    | cons field fields ih =>
      cases h with
      | cons hvalue hfields => exact .cons ⟨rfl, hvalue⟩ (ih hfields)
  · intro h
    induction h with
    | nil => exact .nil
    | @cons old new _ _ hfield _ ih =>
      obtain ⟨key, value⟩ := old
      obtain ⟨key', value'⟩ := new
      obtain ⟨rfl, hvalue⟩ := hfield
      exact .cons hvalue ih

theorem ThinningItems.refl (items : List Json) : ThinningItems items items :=
  thinningItems_iff.2 ⟨items, List.Sublist.refl items, List.forall₂_same.2 fun item _ => .same item⟩

theorem ThinningFields.refl (fields : Fields) : ThinningFields fields fields :=
  thinningFields_iff.2 (List.forall₂_same.2 fun field _ => ⟨rfl, .same field.2⟩)

/-- A thinning of an array holds thinnings of some of its items, in their order. -/
theorem thinning_array_iff {items : List Json} {value : Json} :
    Thinning (.array items) value ↔
      ∃ items', value = .array items' ∧ ThinningItems items items' := by
  constructor
  · intro h
    cases h with
    | same => exact ⟨items, rfl, .refl items⟩
    | array hitems => exact ⟨_, rfl, hitems⟩
  · rintro ⟨items', rfl, hitems⟩
    exact .array hitems

/-- A thinning of an object has the same keys, and thinnings of the values under them. -/
theorem thinning_object_iff {fields : Fields} {value : Json} :
    Thinning (.object fields) value ↔
      ∃ fields', value = .object fields' ∧ ThinningFields fields fields' := by
  constructor
  · intro h
    cases h with
    | same => exact ⟨fields, rfl, .refl fields⟩
    | object hfields => exact ⟨_, rfl, hfields⟩
  · rintro ⟨fields', rfl, hfields⟩
    exact .object hfields

/-! ## One thinning after another -/

/-- Thinnings of the items of a list follow one another if those of each item do. -/
theorem ThinningItems.trans_of_items {items items' items'' : List Json}
    (hitem : ∀ item ∈ items, ∀ item' item'',
      Thinning item item' → Thinning item' item'' → Thinning item item'')
    (h : ThinningItems items items') (h' : ThinningItems items' items'') :
    ThinningItems items items'' := by
  induction items generalizing items' items'' with
  | nil =>
    cases h with
    | nil => exact h'
  | cons item items ih =>
    have hmore := fun item hin => hitem item (List.mem_cons_of_mem _ hin)
    cases h with
    | drop hitems => exact .drop (ih hmore hitems h')
    | keep hfirst hitems =>
      -- the item stays in the first thinning, so the second one decides about it
      cases h' with
      | drop hitems' => exact .drop (ih hmore hitems hitems')
      | keep hfirst' hitems' =>
        exact .keep (hitem item List.mem_cons_self _ _ hfirst hfirst') (ih hmore hitems hitems')

theorem ThinningFields.trans_of_values {fields fields' fields'' : Fields}
    (hvalue : ∀ field ∈ fields, ∀ value' value'',
      Thinning field.2 value' → Thinning value' value'' → Thinning field.2 value'')
    (h : ThinningFields fields fields') (h' : ThinningFields fields' fields'') :
    ThinningFields fields fields'' := by
  induction fields generalizing fields' fields'' with
  | nil =>
    cases h with
    | nil => exact h'
  | cons field fields ih =>
    have hmore := fun field hin => hvalue field (List.mem_cons_of_mem _ hin)
    cases h with
    | cons hfirst hfields =>
      cases h' with
      | cons hfirst' hfields' =>
        exact .cons (hvalue _ List.mem_cons_self _ _ hfirst hfirst') (ih hmore hfields hfields')

theorem Thinning.trans {value value' value'' : Json} (h : Thinning value value')
    (h' : Thinning value' value'') : Thinning value value'' := by
  induction value generalizing value' value'' with
  | array items ih =>
    obtain ⟨items', rfl, hitems⟩ := thinning_array_iff.1 h
    obtain ⟨items'', rfl, hitems'⟩ := thinning_array_iff.1 h'
    exact .array (hitems.trans_of_items (fun item hin _ _ => ih item hin) hitems')
  | object fields ih =>
    obtain ⟨fields', rfl, hfields⟩ := thinning_object_iff.1 h
    obtain ⟨fields'', rfl, hfields'⟩ := thinning_object_iff.1 h'
    exact .object (hfields.trans_of_values (fun field hin _ _ => ih field hin) hfields')
  | null | bool | number | string =>
    cases h with
    | same => exact h'

/-! ## Pieces of a walk -/

/-- Items for which there is nothing are dropped, the others thinned. -/
theorem ThinningItems.of_filterMap {f : Json → Option Json}
    (h : ∀ item item', f item = some item' → Thinning item item') (items : List Json) :
    ThinningItems items (items.filterMap f) := by
  induction items with
  | nil => exact .nil
  | cons item items ih =>
    cases hitem : f item with
    | none =>
      rw [List.filterMap_cons_none hitem]
      exact .drop ih
    | some item' =>
      rw [List.filterMap_cons_some hitem]
      exact .keep (h item item' hitem) ih

theorem ThinningItems.of_map {f : Json → Json} (h : ∀ item, Thinning item (f item))
    (items : List Json) : ThinningItems items (items.map f) := by
  induction items with
  | nil => exact .nil
  | cons item items ih => exact .keep (h item) ih

theorem ThinningItems.of_modify {f : Json → Json} (h : ∀ item, Thinning item (f item))
    (items : List Json) (n : Nat) : ThinningItems items (items.modify n f) := by
  induction items generalizing n with
  | nil =>
    rw [List.modify_nil]
    exact .nil
  | cons item items ih =>
    cases n with
    | zero => exact .keep (h item) (.refl items)
    | succ n =>
      rw [List.modify_succ_cons]
      exact .keep (.same item) (ih n)

/-- One item is left of a list, or nothing. -/
theorem ThinningItems.of_getElem? (items : List Json) (n : Nat) :
    ThinningItems items items[n]?.toList := by
  refine thinningItems_iff.2 ⟨items[n]?.toList, ?_, List.forall₂_same.2 fun item _ => .same item⟩
  cases hitem : items[n]? with
  | none => exact List.nil_sublist items
  | some item => exact List.singleton_sublist.2 (List.mem_of_getElem? hitem)

theorem ThinningFields.of_modify {f : Json → Json} (h : ∀ value, Thinning value (f value))
    (fields : Fields) (key : String) : ThinningFields fields (fields.modify key f) := by
  induction fields with
  | nil => exact .nil
  | cons field fields ih =>
    obtain ⟨k, v⟩ := field
    rw [Fields.modify_cons]
    split
    · exact .cons (h v) (.refl fields)
    · exact .cons (.same v) ih

/-- A change of the objects that a value stands for thins the value if it thins each of them. -/
theorem thinning_mapObjects {f : Fields → Fields} (h : ∀ fields, ThinningFields fields (f fields))
    (value : Json) : Thinning value (value.mapObjects f) := by
  induction value with
  | array items ih =>
    rw [Json.mapObjects_array]
    refine .array ?_
    induction items with
    | nil => exact .nil
    | cons item items ihItems =>
      exact .keep (ih item List.mem_cons_self)
        (ihItems fun item hin => ih item (List.mem_cons_of_mem _ hin))
  | object fields =>
    rw [Json.mapObjects_object]
    exact .object (h fields)
  | null | bool | number | string => exact .same _

/-- A change of the nodes that a selector picks thins a value if it thins each node. -/
theorem Selector.thinning_modify {f : Json → Json} (h : ∀ node, Thinning node (f node))
    (selector : Selector) (value : Json) : Thinning value (selector.modify f value) := by
  match selector with
  | .whole => exact h value
  | .each =>
    cases value with
    | array items =>
      rw [modify_each]
      exact .array (.of_map h items)
    | _ => exact .same _
  | .at n =>
    cases value with
    | array items =>
      rw [modify_at]
      exact .array (.of_modify h items n)
    | _ => exact .same _
  | .matching predicate =>
    cases value with
    | array items =>
      rw [modify_matching]
      refine .array (.of_map (fun item => ?_) items)
      split
      · exact h item
      · exact .same item
    | _ => exact .same _

/-! ## Predicates -/

/-- Keeping the items that a predicate holds for, thinned, thins a list. -/
theorem thinningItems_siftAll {predicate : Predicate}
    (h : ∀ node, Thinning node (predicate.sift node).2) (items : List Json) :
    ThinningItems items (predicate.siftAll items) := by
  refine .of_filterMap (fun item item' hitem => ?_) items
  have hthin := h item
  generalize predicate.sift item = sifted at hitem hthin
  obtain ⟨verdict, left⟩ := sifted
  cases verdict with
  | true => exact Option.some.inj hitem ▸ hthin
  | false => exact absurd hitem (by simp)

mutual

/-- Deciding a predicate thins the node, whatever the verdict. -/
theorem Predicate.thinning_sift :
    ∀ (predicate : Predicate) (node : Json), Thinning node (predicate.sift node).2
  | .comparison _ _ _, node => .same node
  | .and left right, node => by
    have hleft := Predicate.thinning_sift left node
    rw [Predicate.sift]
    generalize left.sift node = sifted at hleft
    obtain ⟨verdict, between⟩ := sifted
    cases verdict with
    | true => exact hleft.trans (Predicate.thinning_sift right between)
    | false => exact hleft
  | .or left right, node => by
    -- what the left side narrowed stays narrowed when the right side decides
    have hleft := Predicate.thinning_sift left node
    rw [Predicate.sift]
    generalize left.sift node = sifted at hleft
    obtain ⟨verdict, between⟩ := sifted
    cases verdict with
    | true => exact hleft
    | false => exact hleft.trans (Predicate.thinning_sift right between)
  | .group inner, node => by
    rw [Predicate.sift]
    exact Predicate.thinning_sift inner node
  | .prune path, node => by
    rw [Predicate.sift]
    exact thinning_narrowPath path node

/-- Narrowing the arrays that a path leads to thins the node it starts from. -/
theorem thinning_narrowPath :
    ∀ (path : List Segment) (node : Json), Thinning node (narrowPath path node)
  | [], node => .same node
  | .mk name selector :: path, node => by
    rw [narrowPath]
    refine thinning_mapObjects (fun fields => .of_modify (fun value => ?_) fields name) node
    split
    · exact Selector.thinning_narrow selector value
    · exact Selector.thinning_modify (fun node => thinning_narrowPath path node) selector value

/-- Narrowing an array thins it. -/
theorem Selector.thinning_narrow :
    ∀ (selector : Selector) (value : Json), Thinning value (selector.narrow value)
  | .whole, value | .each, value => .same value
  | .at n, value => by
    cases value with
    | array items => exact .array (.of_getElem? items n)
    | _ => exact .same _
  | .matching predicate, value => by
    cases value with
    | array items =>
      exact .array (thinningItems_siftAll (Predicate.thinning_sift predicate) items)
    | _ => exact .same _

end

/--
**A filter of an array is never refused, and only removes items.** The document afterwards is a
thinning of the document before: items are gone from arrays at any depth, and every scalar, every
key and the order of what stays are as they were.
-/
theorem filter_only_removes (predicate : Predicate) (items : List Json) :
    ∃ after, (Edit.filter predicate).on (.array items) = ⟨after, none⟩
      ∧ Thinning (.array items) after := by
  refine ⟨.array (predicate.siftAll items), by rw [Edit.on_filter], ?_⟩
  exact .array (thinningItems_siftAll predicate.thinning_sift items)

end Reshape
