import Reshape.Proofs.Narrowing
import Reshape.Proofs.ReadingBack

/-!
# A path that narrows keeps what it reads

A path is read in one walk and narrows in another. The first hands on the items that its last step
picks, the second leaves these in their arrays and drops the others. When the last step decides by
what it only reads, and the steps before it by the place of an item, the two walks pick alike: what
the path led to before is all that its last array holds now, in every container and in its order.
-/

namespace Reshape

/--
The selector picks items of an array, by their index or by a predicate that only reads. In brackets
inside an operand of this predicate a path may stand alone.
-/
inductive Selector.Picks : Selector → Prop where
  | «at» (n : Nat) : Picks (.at n)
  | matching {predicate : Predicate} : predicate.ReadOnly → Picks (.matching predicate)

namespace Selector

/-- An array is narrowed to the items that are read from it. -/
theorem Picks.narrow_array {selector : Selector} (h : selector.Picks) (items : List Json) :
    selector.narrow (.array items) = .array (selector.select (.array items)) := by
  cases h with
  | «at» n => rw [narrow, select]
  | matching hreadOnly =>
    rw [narrow_matching, Predicate.siftAll_of_readOnly hreadOnly, select]

/-- What is no array is not narrowed, whatever the selector. -/
theorem narrow_of_kind (selector : Selector) {value : Json} (h : value.kind ≠ .array) :
    selector.narrow value = value := by
  cases value with
  | array items => exact absurd rfl h
  | null | bool | number | string | object => cases selector <;> rw [narrow] <;> simp

/-- All items of a narrowed value are those that were read from it, none if it is no array. -/
theorem Picks.each_select_narrow {selector : Selector} (h : selector.Picks) (value : Json) :
    each.select (selector.narrow value) = selector.select value := by
  cases value with
  | array items => rw [h.narrow_array, select]
  | null | bool | number | string | object =>
    -- neither `[]` nor the selector finds anything in what is no array
    rw [narrow_of_kind selector (by simp [Json.kind])]
    cases h <;> rfl

end Selector

/-! ## The fields of one container -/

/-- An array under the name keeps what the selector reads from it, and no other field changes. -/
structure Fields.Narrowed (name : String) (selector : Selector) (old new : Fields) : Prop where
  /-- No field comes, goes or changes its place. -/
  keys : new.map Prod.fst = old.map Prod.fst
  /-- The other fields have the values that they had. -/
  kept : ∀ k, k ≠ name → new.get? k = old.get? k
  /-- An array is replaced by what is read from it. -/
  narrowed : ∀ items, old.get? name = some (.array items) →
    new.get? name = some (.array (selector.select (.array items)))
  /-- Where there is no array under the name, nothing happens. -/
  same : (∀ items, old.get? name ≠ some (.array items)) → new = old

/-- A selector that picks narrows the array under a name. -/
theorem Selector.Picks.narrowed_modify {selector : Selector} (h : selector.Picks) (name : String)
    (fields : Fields) :
    fields.Narrowed name selector (fields.modify name selector.narrow) where
  keys := fields.keys_modify name selector.narrow
  kept k hk := by rw [Fields.get?_modify, if_neg hk]
  narrowed items hitems := by
    rw [Fields.get?_modify, if_pos rfl, hitems, Option.map_some, h.narrow_array]
  same hnone := by
    refine (Fields.modify_congr fun value hvalue => ?_).trans (fields.modify_id name)
    -- whatever stands under the name is no array, so it is not narrowed
    refine narrow_of_kind selector fun hkind => ?_
    obtain ⟨items, rfl⟩ := Json.kind_eq_array_iff.1 hkind
    exact hnone items hvalue

/-! ## Paths -/

namespace Path

/-- What a last step leads to is read from the containers before it. -/
theorem select_concat (path : Path) (name : String) (selector : Selector) (node : Json) :
    Path.select (path ++ [.mk name selector]) [node]
      = (path.containers node).flatMap fun fields =>
          (fields.get? name).toList.flatMap selector.select := by
  unfold containers
  rw [select_append, select_cons, select_nil, List.flatMap_assoc]
  refine List.flatMap_congr fun node _ => ?_
  rw [Segment.select, Json.valuesAt, List.filterMap_eq_flatMap_toList, List.flatMap_assoc]

end Path

/--
**A path that narrows keeps exactly what it reads.** The steps before the last go by the place of an
item, and the last picks items of arrays. After the node is narrowed, the items in the arrays under
the name of the last step are those to which the path has led before, in the same order. Only such
arrays have changed, in the containers before the last step, each of them to what is read from it.
-/
theorem narrow_keeps_what_is_read {path : Path} (hpath : path.Unconditional) (name : String)
    {selector : Selector} (h : selector.Picks) (node : Json) :
    Path.select (path ++ [.mk name .each]) [Path.narrow (path ++ [.mk name selector]) node]
      = Path.select (path ++ [.mk name selector]) [node]
    ∧ path.ChangesContainers (Fields.Narrowed name selector) node
      (Path.narrow (path ++ [.mk name selector]) node) := by
  rw [Path.narrow_concat]
  constructor
  · -- the steps before the last lead to the same containers, now with other fields
    rw [Path.select_concat, Path.select_concat, (path.containers_modify _ node).2 hpath,
      List.flatMap_map]
    refine List.flatMap_congr fun fields _ => ?_
    rw [Fields.get?_modify, if_pos rfl]
    cases fields.get? name with
    | none => rfl
    | some value => simpa using h.each_select_narrow value
  · refine (path.modifyContainers_changes _ node).mono fun old new hnew => ?_
    exact hnew ▸ h.narrowed_modify name old

/-- The new lines of orders. -/
def newLine : Selector :=
  .matching (.comparison (.path [.plain "state"]) .strictEqual (.literal (.string "new")))

/--
Three orders with lines: one for itself, and two in an array, of which one has lines that are no
array. A fourth order has no lines.
-/
def nestedOrders (first second : List String) : Json :=
  withOrders [orderOf "open" first, .array [orderOf "open" second, .object [("lines", .null)]],
    .object []]

/-- Lines are picked by their state, and by an index that only the first order has a line for. -/
theorem narrow_keeps_orders :
    Path.Unconditional [.mk "orders" .each] ∧ newLine.Picks ∧ (Selector.at 2).Picks
    ∧ Path.narrow [.mk "orders" .each, .mk "lines" newLine]
        (nestedOrders ["old", "new", "new"] ["new", "old"])
      = nestedOrders ["new", "new"] ["new"]
    ∧ Path.select [.mk "orders" .each, .mk "lines" .each] [nestedOrders ["new", "new"] ["new"]]
      = Path.select [.mk "orders" .each, .mk "lines" newLine]
        [nestedOrders ["old", "new", "new"] ["new", "old"]]
    ∧ Path.narrow [.mk "orders" .each, .mk "lines" (.at 2)]
        (nestedOrders ["old", "new", "late"] ["new", "old"])
      = nestedOrders ["late"] []
    ∧ Path.select [.mk "orders" .each, .mk "lines" .each] [nestedOrders ["late"] []]
      = Path.select [.mk "orders" .each, .mk "lines" (.at 2)]
        [nestedOrders ["old", "new", "late"] ["new", "old"]] := by
  have hpath : Path.Unconditional [.mk "orders" .each] := Path.unconditional_each "orders"
  have hnew : newLine.Picks := .matching (.comparison _ _ _)
  have hthird : (Selector.at 2).Picks := .at 2
  exact ⟨hpath, hnew, hthird, rfl,
    (narrow_keeps_what_is_read hpath "lines" hnew
      (nestedOrders ["old", "new", "new"] ["new", "old"])).1, rfl,
    (narrow_keeps_what_is_read hpath "lines" hthird
      (nestedOrders ["old", "new", "late"] ["new", "old"])).1⟩

end Reshape
