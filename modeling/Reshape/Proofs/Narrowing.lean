import Reshape.Change

/-!
# Deciding and narrowing

Items are picked by a predicate in three places: a path that selects them, a filter that keeps them,
and a path in a filter that narrows an array to them. The first only reads, the other two go through
`Predicate.sift`, which may change what it decides. This file says where they agree.

* A predicate is *read-only* when no path stands alone in it, outside of brackets. Deciding such a
  predicate changes nothing, so all three pick the same items.
* To narrow along a path is to change the containers before its last step, which are also those
  that an assignment to this path changes. So what is known of one walk is known of the other.
* A conjunction is decided item by item, and its sides may narrow what they decide. It still filters
  as its sides do one after the other, since a side sees nothing but the item it decides.
-/

namespace Reshape

/-! ## Read-only predicates -/

/--
No path stands alone in the predicate. In brackets inside an operand one may, since operands are
only read.
-/
inductive Predicate.ReadOnly : Predicate → Prop where
  | comparison (left : Expression) (op : Comparator) (right : Expression) :
      ReadOnly (.comparison left op right)
  | and {left right : Predicate} : ReadOnly left → ReadOnly right → ReadOnly (.and left right)
  | or {left right : Predicate} : ReadOnly left → ReadOnly right → ReadOnly (.or left right)
  | group {inner : Predicate} : ReadOnly inner → ReadOnly (.group inner)

namespace Predicate

/-- A read-only predicate is decided as it holds, and nothing is changed. -/
theorem sift_of_readOnly {predicate : Predicate} (h : predicate.ReadOnly) (node : Json) :
    predicate.sift node = (predicate.holds node, node) := by
  induction h with
  | comparison left op right => rfl
  | @and left right _ _ hleft hright =>
    rw [sift, hleft, holds]
    -- if the left side decides, the right one is not asked
    cases left.holds node with
    | true => exact hright
    | false => rfl
  | @or left right _ _ hleft hright =>
    rw [sift, hleft, holds]
    cases left.holds node with
    | true => rfl
    | false => exact hright
  | group _ hinner =>
    rw [sift, holds]
    exact hinner

/-- A read-only predicate keeps the items for which it holds, as they are. -/
theorem siftAll_of_readOnly {predicate : Predicate} (h : predicate.ReadOnly) (items : List Json) :
    predicate.siftAll items = items.filter predicate.holds := by
  rw [siftAll, ← List.filterMap_eq_filter]
  congr 1
  funext item
  rw [sift_of_readOnly h, Option.guard]
  cases predicate.holds item <;> rfl

end Predicate

/-- An array is narrowed by a predicate to the items that a filter keeps. -/
theorem Selector.narrow_matching (predicate : Predicate) (items : List Json) :
    (Selector.matching predicate).narrow (.array items) = .array (predicate.siftAll items) := by
  rw [Selector.narrow, Predicate.siftAll]

/-! ## Paths that narrow -/

/-- To narrow along a path is to narrow a field of the containers before its last step. -/
theorem Path.narrow_concat (path : Path) (name : String) (selector : Selector) (node : Json) :
    Path.narrow (path ++ [.mk name selector]) node
      = path.modifyContainers (fun fields => fields.modify name selector.narrow) node := by
  induction path generalizing node with
  | nil =>
    rw [List.nil_append, narrow, narrowPath]
    rfl
  | cons step path ih =>
    obtain ⟨key, inner⟩ := step
    -- before the last step a path narrows nothing, and only walks on
    have hmore : (path ++ [Segment.mk name selector]).isEmpty = false := by simp
    have hrest : narrowPath (path ++ [.mk name selector])
        = Path.modifyContainers path fun fields => fields.modify name selector.narrow := funext ih
    rw [List.cons_append, narrow, narrowPath]
    simp only [hmore, hrest, Bool.false_eq_true, if_false]
    rfl

/-! ## One selection, made in three places -/

theorem Edit.on_filter_array (predicate : Predicate) (items : List Json) :
    (filter predicate).on (.array items) = ⟨.array (predicate.siftAll items), none⟩ := by
  rw [on_filter]

/--
**Filtering, selecting and narrowing by a read-only predicate pick the same items.** A filter leaves
the items of an array for which the predicate holds, as they were and in their order. These are the
items that the predicate selects from the array in a field, and those that the array is narrowed to
there.
-/
theorem filter_select_narrow_agree {predicate : Predicate} (h : predicate.ReadOnly)
    (items : List Json) (key : String) :
    (Edit.filter predicate).on (.array items) = ⟨.array (items.filter predicate.holds), none⟩
    ∧ Path.select [.mk key (.matching predicate)] [.object [(key, .array items)]]
      = items.filter predicate.holds
    ∧ Path.narrow [.mk key (.matching predicate)] (.object [(key, .array items)])
      = .object [(key, .array (items.filter predicate.holds))] := by
  refine ⟨?_, ?_, ?_⟩
  · rw [Edit.on_filter_array, Predicate.siftAll_of_readOnly h]
  · have hvalues : (Json.object [(key, .array items)]).valuesAt key = [.array items] := by
      simp [Json.valuesAt, Fields.get?_cons]
    rw [Path.select_cons, Path.select_nil, List.flatMap_singleton, Segment.select, hvalues,
      List.flatMap_singleton, Selector.select]
  · rw [← List.nil_append [Segment.mk _ _], Path.narrow_concat, Path.modifyContainers,
      Path.modify_nil, Json.mapObjects_object, Fields.modify_cons, if_pos rfl,
      Selector.narrow_matching, Predicate.siftAll_of_readOnly h]

/-- An order with a state, and lines in the given states. -/
def orderOf (state : String) (lines : List String) : Json :=
  .object [("lines", .array (lines.map fun state => .object [("state", .string state)])),
    ("state", .string state)]

/-- A document with the given orders. -/
def withOrders (orders : List Json) : Json := .object [("orders", .array orders)]

/-- The orders that are new or have a new line. The path in the brackets holds of any line. -/
def newInPart : Predicate :=
  .or (.comparison (.path [.plain "state"]) .strictEqual (.literal (.string "new")))
    (.comparison (.path [.mk "lines" (.matching (.prune [.mk "tags" (.at 0)])), .plain "state"])
      .strictEqual (.literal (.string "new")))

/-- Two of three orders are picked, one for its own state and one for that of its second line. -/
theorem filter_select_narrow_orders :
    newInPart.ReadOnly
    ∧ (Edit.filter newInPart).on
        (.array [orderOf "new" [], orderOf "old" ["old"], orderOf "old" ["old", "new"]])
      = ⟨.array [orderOf "new" [], orderOf "old" ["old", "new"]], none⟩
    ∧ Path.select [.mk "orders" (.matching newInPart)]
        [withOrders [orderOf "new" [], orderOf "old" ["old"], orderOf "old" ["old", "new"]]]
      = [orderOf "new" [], orderOf "old" ["old", "new"]]
    ∧ Path.narrow [.mk "orders" (.matching newInPart)]
        (withOrders [orderOf "new" [], orderOf "old" ["old"], orderOf "old" ["old", "new"]])
      = withOrders [orderOf "new" [], orderOf "old" ["old", "new"]] := by
  have h : newInPart.ReadOnly := .or (.comparison _ _ _) (.comparison _ _ _)
  exact ⟨h, filter_select_narrow_agree h
    [orderOf "new" [], orderOf "old" ["old"], orderOf "old" ["old", "new"]] "orders"⟩

/-! ## One filter after another -/

theorem Edit.on_filter_of_kind (predicate : Predicate) {document : Json}
    (h : document.kind ≠ .array) :
    (filter predicate).on document = ⟨document, some (.notAnArray document.kind)⟩ := by
  rw [on_filter]
  cases document with
  | array items => exact absurd rfl h
  | null | bool | number | string | object => rfl

/-- The right side of a conjunction decides about what the left side has kept and narrowed. -/
theorem Predicate.siftAll_and (left right : Predicate) (items : List Json) :
    (and left right).siftAll items = right.siftAll (left.siftAll items) := by
  rw [siftAll, siftAll, siftAll, List.filterMap_filterMap]
  congr 1
  funext item
  rw [sift]
  -- an item that the left side drops is not seen by the right one
  rcases left.sift item with ⟨_ | _, between⟩ <;> rfl

/--
**A filter by a conjunction is a filter by its left side and then one by its right side**, whatever
the two sides narrow. So the right side sees an item as the left side has left it. A document that
is no array is refused by every filter alike, and stays as it is.
-/
theorem filter_and_in_turn (left right : Predicate) (document : Json) :
    (Edit.filter (.and left right)).on document
      = (do Edit.filter left; Edit.filter right : Edit Unit).on document
    ∧ (∀ items, document = .array items →
      (Edit.filter (.and left right)).on document
        = ⟨.array (right.siftAll (left.siftAll items)), none⟩)
    ∧ (document.kind ≠ .array → ∀ predicate,
      (Edit.filter predicate).on document = ⟨document, some (.notAnArray document.kind)⟩) := by
  refine ⟨?_, ?_, fun h predicate => Edit.on_filter_of_kind predicate h⟩
  · rw [Edit.on_bind]
    -- the first filter refuses what is no array, and the second one is not reached
    by_cases h : document.kind = .array
    · cases document with
      | array items =>
        rw [Edit.on_filter_array, Predicate.siftAll_and, Edit.on_filter_array]
        exact (Edit.on_filter_array right _).symm
      | null | bool | number | string | object => exact absurd h (by simp [Json.kind])
    · rw [Edit.on_filter_of_kind _ h, Edit.on_filter_of_kind _ h]
  · rintro items rfl
    rw [Edit.on_filter_array, Predicate.siftAll_and]

/-- Narrows the lines of an order to the new ones. -/
def newLines : Predicate :=
  .prune [.mk "lines" (.matching (.comparison (.path [.plain "state"]) .strictEqual
    (.literal (.string "new"))))]

/-- The orders with an old line. -/
def oldInPart : Predicate :=
  .comparison (.path [.plain "lines", .plain "state"]) .strictEqual (.literal (.string "old"))

/-- No order has an old line once its lines are narrowed to the new ones. -/
theorem filter_and_in_turn_lines :
    (Edit.filter (.and newLines oldInPart)).on (.array [orderOf "open" ["old", "new"]])
      = ⟨.array [], none⟩
    ∧ (Edit.filter (.and oldInPart newLines)).on (.array [orderOf "open" ["old", "new"]])
      = ⟨.array [orderOf "open" ["new"]], none⟩
    ∧ (Edit.filter (.and newLines oldInPart)).on (orderOf "open" ["old", "new"])
      = ⟨orderOf "open" ["old", "new"], some (.notAnArray .object)⟩ :=
  ⟨(filter_and_in_turn newLines oldInPart (.array [orderOf "open" ["old", "new"]])).2.1 _ rfl,
    (filter_and_in_turn oldInPart newLines (.array [orderOf "open" ["old", "new"]])).2.1 _ rfl,
    (filter_and_in_turn newLines oldInPart (orderOf "open" ["old", "new"])).2.2 (by decide) _⟩

end Reshape
