import Mathlib.Data.List.Basic
import Reshape.Proofs.Narrowing

/-!
# The algebra of paths

A path is walked in stages: each step takes all nodes found so far to the nodes of the next stage.
What the whole walk finds does not depend on how it is cut, in either direction.

* Along the path: a path after another starts from what the first finds (`Path.select_append`).
* Across the nodes: what is found from a list of nodes is what is found from its parts, in order and
  as often (`Path.select_nodes_append`), and no nodes lead to none (`Path.select_nodes_nil`). An
  array among the nodes is no node of its own but stands for its items (`Path.select_array`).

A step in brackets is the plain step, and then the selector on each value that this finds
(`Path.select_concat_selector`). So a predicate in brackets filters what `[]` finds, and before a
further step `[]` says nothing where all values are arrays.
-/

namespace Reshape

/-! ## One step -/

/-- An array answers for its items, in order. -/
theorem Segment.select_array (step : Segment) (items : List Json) :
    step.select (.array items) = items.flatMap step.select := by
  obtain ⟨name, selector⟩ := step
  simp only [Segment.select, Json.valuesAt, Json.objects_array, List.filterMap_flatMap,
    List.flatMap_assoc]

/-- A predicate picks of the items of an array those for which it holds. -/
theorem Selector.select_matching (predicate : Predicate) (value : Json) :
    (matching predicate).select value = (each.select value).filter predicate.holds := by
  cases value with
  | array items => rw [select, select]
  | null | bool | number | string | object => rfl

/-! ## Whole paths -/

namespace Path

/-- Once no node is left, nothing is found: a walk may stop there. -/
@[simp] theorem select_nodes_nil (path : Path) : path.select [] = [] := by
  rw [select_eq_flatMap, List.flatMap_nil]

/-- Nodes in a row are walked one after the other. -/
theorem select_nodes_append (path : Path) (nodes more : List Json) :
    path.select (nodes ++ more) = path.select nodes ++ path.select more := by
  rw [select_eq_flatMap, List.flatMap_append, ← select_eq_flatMap, ← select_eq_flatMap]

/-- A path with a step finds in an array what it finds from the items. -/
theorem select_array {path : Path} (h : path ≠ []) (items : List Json) :
    path.select [.array items] = path.select items := by
  cases path with
  | nil => exact absurd rfl h
  | cons step path =>
    rw [select_cons, select_cons, List.flatMap_singleton, Segment.select_array]

/-- The last step finds the values of a field, and its selector picks of each of these. -/
theorem select_concat_selector (path : Path) (name : String) (selector : Selector)
    (nodes : List Json) :
    select (path ++ [.mk name selector]) nodes
      = (select (path ++ [.plain name]) nodes).flatMap selector.select := by
  have hplain (node : Json) : (Segment.plain name).select node = node.valuesAt name :=
    List.flatMap_singleton' _
  rw [select_append, select_append, select_cons, select_cons, select_nil, select_nil,
    List.flatMap_assoc]
  refine List.flatMap_congr fun node _ => ?_
  rw [hplain, Segment.select]

/-- Where only arrays are found, it makes no difference to a further step who takes them apart. -/
theorem select_flatMap_each {path : Path} (h : path ≠ []) {values : List Json}
    (harrays : ∀ value ∈ values, value.kind = .array) :
    path.select (values.flatMap Selector.each.select) = path.select values := by
  induction values with
  | nil => rfl
  | cons value values ih =>
    obtain ⟨items, rfl⟩ := Json.kind_eq_array_iff.1 (harrays value List.mem_cons_self)
    have hmore := ih fun value hvalue => harrays value (List.mem_cons_of_mem _ hvalue)
    -- the items of the first array, and then those of the others
    rw [List.flatMap_cons, select_nodes_append, hmore, Selector.select, ← select_array h,
      ← select_nodes_append, List.singleton_append]

end Path

/--
**What a path finds is composed of what its parts find.** A path after another resolves from the
nodes of the first. A path finds from two lists of nodes in a row what it finds from each, in a row,
and with at least one step it finds in an array what it finds from the items. A predicate in
brackets keeps of the items found with `[]` those for which it holds, in their order. And if the
field before `[]` is nothing but arrays, wherever it is reached, a further step needs no `[]`.
-/
theorem selection_composes (path next : Path) (nodes : List Json) :
    Path.select (path ++ next) nodes = next.select (path.select nodes)
    ∧ (∀ more, path.select (nodes ++ more) = path.select nodes ++ path.select more)
    ∧ (path ≠ [] → path.select [.array nodes] = path.select nodes)
    ∧ (∀ name predicate, Path.select (path ++ [.mk name (.matching predicate)]) nodes
      = (Path.select (path ++ [.mk name .each]) nodes).filter predicate.holds)
    ∧ ∀ name, (∀ value ∈ Path.select (path ++ [.plain name]) nodes, value.kind = .array) →
      next ≠ [] →
      Path.select (path ++ [.mk name .each] ++ next) nodes
        = Path.select (path ++ [.plain name] ++ next) nodes := by
  refine ⟨path.select_append next nodes, path.select_nodes_append nodes,
    fun h => Path.select_array h nodes, fun name predicate => ?_, fun name harrays hnext => ?_⟩
  · rw [Path.select_concat_selector, Path.select_concat_selector path name .each,
      List.filter_flatMap]
    exact List.flatMap_congr fun value _ => Selector.select_matching predicate value
  · -- both paths are cut behind the field, where they have found the same values
    rw [Path.select_append, Path.select_append _ next, Path.select_concat_selector,
      Path.select_flatMap_each hnext harrays]

/-- A document with three orders, two of them in an array of their own, and no document. -/
def nestedNodes : List Json :=
  [withOrders [orderOf "open" ["new", "old"],
    .array [orderOf "late" ["new", "new"], orderOf "late" []]], .null]

/-- Lines are arrays in every order, and two of the four states are found twice. -/
theorem selection_composes_orders :
    Path.select [.mk "orders" .each, .mk "lines" .each, .plain "state"] nestedNodes
      = [.string "new", .string "old", .string "new", .string "new"]
    ∧ Path.select [.mk "orders" .each, .mk "lines" .each, .plain "state"] nestedNodes
      = Path.select [.mk "orders" .each, .plain "lines", .plain "state"] nestedNodes
    ∧ Path.select [.mk "orders" .each] [.array nestedNodes]
      = Path.select [.mk "orders" .each] nestedNodes := by
  obtain ⟨-, -, hitems, -, harrays⟩ :=
    selection_composes [.mk "orders" .each] [.plain "state"] nestedNodes
  have hlines : ∀ value ∈ Path.select [.mk "orders" .each, .plain "lines"] nestedNodes,
      value.kind = .array := by
    have hvalues : (Path.select [.mk "orders" .each, .plain "lines"] nestedNodes).map Json.kind
        = [.array, .array, .array] := rfl
    intro value hvalue
    have hkind : value.kind ∈ [Kind.array, .array, .array] :=
      hvalues ▸ List.mem_map_of_mem hvalue
    simpa using hkind
  exact ⟨rfl, harrays "lines" hlines (List.cons_ne_nil _ _), hitems (List.cons_ne_nil _ _)⟩

end Reshape
