import Mathlib.Data.List.Basic
import Reshape.Evaluation
import Reshape.Json.Position

/-!
# Where a path leads

`Path.select` says what a path finds in a document and not where, and of two equal items it does not
tell which one it has found. This file says where. Each definition by which nodes are selected has
one beside it here that goes the same way and keeps the position of everything it comes across:

* `Json.objectPlaces` for the objects that a value stands for;
* `Selector.places` for what a selector picks of a value, `Segment.places` for a step;
* `Path.places` for the nodes at the end of a path, and `Path.containerPlaces` for the objects that
  these stand for.

Without the positions this is what is selected, in its order, and a position leads to what it came
with. No place lies inside another one of the same path, so each is a place of its own.
-/

namespace Reshape

/-- Parts of a document, each after its position. -/
abbrev Places (α : Type) := List (Position × α)

namespace Places

variable {α β γ : Type}

/-- The one place that is the whole. -/
def here (a : α) : Places α := [([], a)]

/-- The places inside the value at a position, as they are seen from outside. -/
def under (p : Position) (places : Places α) : Places α :=
  places.map fun place => (p ++ place.1, place.2)

/-- The places inside what is at some places, as they are seen from outside. -/
def bind (outer : Places α) (inner : α → Places β) : Places β :=
  outer.flatMap fun place => (inner place.2).under place.1

@[simp] theorem nil_bind (inner : α → Places β) : bind [] inner = [] := rfl

@[simp] theorem cons_bind (place : Position × α) (outer : Places α) (inner : α → Places β) :
    bind (place :: outer) inner = (inner place.2).under place.1 ++ bind outer inner := rfl

@[simp] theorem append_bind (first second : Places α) (inner : α → Places β) :
    bind (first ++ second) inner = first.bind inner ++ second.bind inner := List.flatMap_append

@[simp] theorem under_nil (places : Places α) : places.under [] = places := by simp [under]

theorem under_singleton (step : Position.Step) (places : Places α) :
    places.under [step] = places.map fun place => (step :: place.1, place.2) := rfl

/-- Places seen from outside keep their order. -/
theorem under_append (p : Position) (first second : Places α) :
    under p (first ++ second) = first.under p ++ second.under p := List.map_append

/-- From further outside, the positions are joined. -/
theorem under_under (p q : Position) (places : Places α) :
    (places.under q).under p = places.under (p ++ q) := by
  simp [under, Function.comp_def]

@[simp] theorem here_bind (a : α) (inner : α → Places β) : (here a).bind inner = inner a := by
  simp [here]

/-- To look no further is to stay. -/
@[simp] theorem bind_here (places : Places α) : places.bind here = places := by
  induction places with
  | nil => rfl
  | cons place places ih => simp [ih, here, under]

/-- It does not matter whether places are moved before or after looking inside. -/
theorem under_bind (p : Position) (outer : Places α) (inner : α → Places β) :
    (outer.under p).bind inner = (outer.bind inner).under p := by
  induction outer with
  | nil => rfl
  | cons place outer ih =>
    rw [cons_bind, under_append, under_under, ← ih]
    rfl

/-- Places inside places inside places can be sought from either end. -/
theorem bind_assoc (outer : Places α) (middle : α → Places β) (inner : β → Places γ) :
    (outer.bind middle).bind inner = outer.bind fun a => (middle a).bind inner := by
  induction outer with
  | nil => rfl
  | cons place outer ih => rw [cons_bind, append_bind, under_bind, ih, cons_bind]

/-- To leave out a place is to find nothing in it. -/
theorem filter_bind (outer : Places α) (keep : α → Bool) (inner : α → Places β) :
    bind (outer.filter fun place => keep place.2) inner
      = outer.bind fun a => if keep a then inner a else [] := by
  induction outer with
  | nil => rfl
  -- a place that is kept is looked into, and any other is as good as empty
  | cons place outer ih => cases hkeep : keep place.2 <;> simp [hkeep, ih, under]

/-! ## What is there -/

@[simp] theorem map_snd_under (p : Position) (places : Places α) :
    (places.under p).map Prod.snd = places.map Prod.snd := by
  simp [under, Function.comp_def]

/-- What is inside is found as it is without the positions. -/
theorem map_snd_bind (outer : Places α) (inner : α → Places β) :
    (outer.bind inner).map Prod.snd
      = (outer.map Prod.snd).flatMap fun a => (inner a).map Prod.snd := by
  induction outer with
  | nil => rfl
  | cons place outer ih => simp [ih]

/-- The places are in the document, and none lies inside another. -/
structure In (embed : α → Json) (node : Json) (places : Places α) : Prop where
  /-- A position leads to what it came with. -/
  found : ∀ place ∈ places, node.at? place.1 = some (embed place.2)
  /-- No place lies inside another. -/
  apart : places.Pairwise fun a b => a.1.Apart b.1

variable {embed : α → Json} {embed' : β → Json} {node : Json}

/-- At the positions, what is there is read in its order. -/
theorem In.map_at? {places : Places α} (h : places.In embed node) :
    (places.map Prod.fst).map node.at? = (places.map Prod.snd).map fun a => some (embed a) := by
  rw [List.map_map, List.map_map]
  exact List.map_congr_left h.found

theorem In.nil : In embed node [] := ⟨by simp, .nil⟩

theorem In.here (embed : α → Json) (a : α) : In embed (embed a) (here a) := by
  constructor <;> simp [Places.here]

/-- Some of the places are as far apart as all of them. -/
theorem In.sublist {places some : Places α} (h : places.In embed node)
    (hsub : some.Sublist places) : some.In embed node :=
  ⟨fun place hplace => h.found place (hsub.subset hplace), h.apart.sublist hsub⟩

/-- Places inside places are in the document, and as far apart. -/
theorem In.bind {outer : Places α} {inner : α → Places β} (houter : outer.In embed node)
    (hinner : ∀ place ∈ outer, (inner place.2).In embed' (embed place.2)) :
    (outer.bind inner).In embed' node where
  found place hplace := by
    obtain ⟨first, hfirst, hplace⟩ := List.mem_flatMap.1 hplace
    obtain ⟨second, hsecond, rfl⟩ := List.mem_map.1 hplace
    rw [Json.at?_append, houter.found first hfirst]
    exact (hinner first hfirst).found second hsecond
  apart := by
    refine List.pairwise_flatMap.2 ⟨fun first hfirst => ?_, ?_⟩
    · -- inside one place: apart there, and so from outside
      refine List.pairwise_map.2 ((hinner first hfirst).apart.imp fun hab => ?_)
      exact Position.apart_append_iff.2 hab
    · -- inside two places: apart because these are
      refine houter.apart.imp fun hab second hsecond third hthird => ?_
      obtain ⟨second, -, rfl⟩ := List.mem_map.1 hsecond
      obtain ⟨third, -, rfl⟩ := List.mem_map.1 hthird
      exact hab.append second.1 third.1

end Places

/-! ## Items and fields -/

/-- The value of a field, if there is one. -/
def Fields.places (fields : Fields) (key : String) : Places Json :=
  (fields.get? key).toList.map fun value => ([.key key], value)

theorem Fields.map_snd_places (fields : Fields) (key : String) :
    (fields.places key).map Prod.snd = (fields.get? key).toList := by
  simp [Fields.places, Function.comp_def]

/-- A field is where its key says. -/
theorem Fields.places_in (fields : Fields) (key : String) :
    (fields.places key).In id (.object fields) := by
  unfold Fields.places
  cases hfield : fields.get? key with
  | none => exact .nil
  | some value => constructor <;> simp [Json.at?, hfield]

namespace Json

/-- Items of an array that come from some index on. -/
def itemPlaces (least : Nat) (items : List Json) : Places Json :=
  (items.zipIdx least).map fun item => ([.index item.2], item.1)

theorem itemPlaces_cons (least : Nat) (item : Json) (items : List Json) :
    itemPlaces least (item :: items) = ([.index least], item) :: itemPlaces (least + 1) items := rfl

/-- Without their indexes, the items are those of the array. -/
theorem map_snd_itemPlaces (least : Nat) (items : List Json) :
    (itemPlaces least items).map Prod.snd = items := by
  rw [itemPlaces, List.map_map]
  exact List.zipIdx_map_fst least items

theorem getElem?_itemPlaces (n : Nat) (items : List Json) :
    (itemPlaces 0 items)[n]? = items[n]?.map fun item => ([.index n], item) := by
  simp [itemPlaces, Function.comp_def]

/-- Items are where their indexes say, and no two have the same. -/
theorem itemPlaces_in (items : List Json) : (itemPlaces 0 items).In id (.array items) where
  found place hplace := by
    obtain ⟨item, hitem, rfl⟩ := List.mem_map.1 hplace
    simp [at?, List.mem_zipIdx_iff_getElem?.1 hitem]
  apart := by
    -- no index occurs twice
    have hindexes : (items.zipIdx.map Prod.snd).Nodup := by
      rw [List.zipIdx_map_snd]
      exact List.nodup_range'
    refine List.pairwise_map.2 ((List.pairwise_map.1 hindexes).imp fun hne => ?_)
    exact Position.apart_cons_iff.2 (.inl fun h => hne (Position.Step.index.inj h))

/-! ## Objects -/

mutual

/-- The objects that a value stands for, each with its position. -/
def objectPlaces : Json → Places Fields
  | .array items => objectPlacesFrom 0 items
  | .object fields => .here fields
  | _ => []

/-- The objects that items stand for which come in an array from some index on. -/
def objectPlacesFrom (least : Nat) : List Json → Places Fields
  | [] => []
  | item :: items => (objectPlaces item).under [.index least] ++ objectPlacesFrom (least + 1) items

end

/-- An array stands for the objects that its items stand for. -/
theorem objectPlaces_array (items : List Json) :
    (array items).objectPlaces = (itemPlaces 0 items).bind objectPlaces := by
  have hfrom (least : Nat) :
      objectPlacesFrom least items = (itemPlaces least items).bind objectPlaces := by
    induction items generalizing least with
    | nil => rfl
    | cons item items ih => rw [objectPlacesFrom, ih, itemPlaces_cons, Places.cons_bind]
  rw [objectPlaces, hfrom]

theorem objectPlaces_object (fields : Fields) : (object fields).objectPlaces = .here fields := rfl

/-- Without their positions, the objects are those that the value stands for. -/
theorem map_snd_objectPlaces (node : Json) : node.objectPlaces.map Prod.snd = node.objects := by
  induction node with
  | array items ih =>
    rw [objectPlaces_array, Places.map_snd_bind, map_snd_itemPlaces, objects_array]
    exact List.flatMap_congr ih
  | null | bool | number | string | object => rfl

/-- The objects that a value stands for are in it, and none inside another. -/
theorem objectPlaces_in (node : Json) : node.objectPlaces.In object node := by
  induction node with
  | array items ih =>
    rw [objectPlaces_array]
    refine (itemPlaces_in items).bind fun place hplace => ih place.2 ?_
    exact map_snd_itemPlaces 0 items ▸ List.mem_map_of_mem hplace
  | object fields => exact .here object fields
  | null | bool | number | string => exact .nil

end Json

/-! ## Selectors, steps and paths -/

namespace Selector

/-- What a selector picks of the value of a field, each node with its position in that value. -/
def places : Selector → Json → Places Json
  | .whole, value => .here value
  | .each, .array items => Json.itemPlaces 0 items
  | .at n, .array items => (Json.itemPlaces 0 items)[n]?.toList
  | .matching predicate, .array items =>
    (Json.itemPlaces 0 items).filter fun place => predicate.holds place.2
  | _, _ => []

/-- Without their positions, the nodes are those that the selector picks. -/
theorem map_snd_places (selector : Selector) (value : Json) :
    (selector.places value).map Prod.snd = selector.select value := by
  cases selector with
  | whole => rfl
  | each =>
    cases value with
    | array items => exact Json.map_snd_itemPlaces 0 items
    | null | bool | number | string | object => rfl
  | «at» n =>
    cases value with
    | array items =>
      rw [places, select, Json.getElem?_itemPlaces]
      cases items[n]? <;> rfl
    | null | bool | number | string | object => rfl
  | matching predicate =>
    cases value with
    | array items =>
      rw [places, select]
      -- the test looks at the items alone, so the positions can be left out before it or after
      conv_rhs => rw [← Json.map_snd_itemPlaces 0 items, List.filter_map]
      rfl
    | null | bool | number | string | object => rfl

/-- What a selector picks is in the value, and no node inside another. -/
theorem places_in (selector : Selector) (value : Json) : (selector.places value).In id value := by
  cases selector with
  | whole => exact .here id value
  | each =>
    cases value with
    | array items => exact Json.itemPlaces_in items
    | null | bool | number | string | object => exact .nil
  | «at» n =>
    cases value with
    | array items =>
      -- one item is picked of all, or none
      refine (Json.itemPlaces_in items).sublist ?_
      rw [places]
      cases hitem : (Json.itemPlaces 0 items)[n]? with
      | none => exact List.nil_sublist _
      | some place => exact List.singleton_sublist.2 (List.mem_of_getElem? hitem)
    | null | bool | number | string | object => exact .nil
  | matching predicate =>
    cases value with
    | array items => exact (Json.itemPlaces_in items).sublist List.filter_sublist
    | null | bool | number | string | object => exact .nil

end Selector

namespace Segment

/-- The nodes that a step leads to, each with its position. -/
def places (step : Segment) (node : Json) : Places Json :=
  (node.objectPlaces.bind fun fields => fields.places step.name).bind step.selector.places

/-- Without their positions, the nodes are those that the step leads to. -/
theorem map_snd_places (step : Segment) (node : Json) :
    (step.places node).map Prod.snd = step.select node := by
  obtain ⟨name, selector⟩ := step
  rw [places, Places.map_snd_bind, Places.map_snd_bind, Json.map_snd_objectPlaces, select,
    Json.valuesAt, List.filterMap_eq_flatMap_toList]
  simp only [Fields.map_snd_places, Selector.map_snd_places]
  rfl

/-- A step leads to nodes in the document, and to none inside another. -/
theorem places_in (step : Segment) (node : Json) : (step.places node).In id node := by
  have hfields : (node.objectPlaces.bind fun fields => fields.places step.name).In id node :=
    node.objectPlaces_in.bind fun place _ => Fields.places_in place.2 step.name
  exact hfields.bind fun place _ => step.selector.places_in place.2

end Segment

namespace Path

/-- The nodes at the end of a path, each with its position. -/
def places : Path → Json → Places Json
  | [], node => .here node
  | step :: path, node => (step.places node).bind (places path)

/-- Where the nodes at the end of a path are. -/
def positions (path : Path) (node : Json) : List Position := (path.places node).map Prod.fst

/-- A path selects what is at its places. -/
theorem map_snd_places (path : Path) (node : Json) :
    (path.places node).map Prod.snd = path.select [node] := by
  induction path generalizing node with
  | nil => rfl
  | cons step path ih =>
    rw [places, Places.map_snd_bind, Segment.map_snd_places, select_cons, List.flatMap_singleton,
      select_eq_flatMap]
    exact List.flatMap_congr fun node _ => ih node

theorem length_positions (path : Path) (node : Json) :
    (path.positions node).length = (path.select [node]).length := by
  rw [positions, ← map_snd_places, List.length_map, List.length_map]

/-- The nodes at the end of a path are in the document, and none inside another. -/
theorem places_in (path : Path) (node : Json) : (path.places node).In id node := by
  induction path generalizing node with
  | nil => exact .here id node
  | cons step path ih => exact (step.places_in node).bind fun place _ => ih place.2

/-- What a path selects is read at its positions. -/
theorem map_at?_positions (path : Path) (node : Json) :
    (path.positions node).map node.at? = (path.select [node]).map some := by
  rw [← map_snd_places]
  exact (path.places_in node).map_at?

/-- No node at the end of a path lies inside another one. -/
theorem pairwise_apart_positions (path : Path) (node : Json) :
    (path.positions node).Pairwise Position.Apart :=
  List.pairwise_map.2 (path.places_in node).apart

/-! ### Containers -/

/-- The containers at the end of a path: the objects that the nodes found there stand for. -/
def containers (path : Path) (node : Json) : List Fields :=
  (path.select [node]).flatMap Json.objects

/-- The containers at the end of a path, each with its position. -/
def containerPlaces (path : Path) (node : Json) : Places Fields :=
  (path.places node).bind Json.objectPlaces

/-- Where the containers at the end of a path are. -/
def containerPositions (path : Path) (node : Json) : List Position :=
  (path.containerPlaces node).map Prod.fst

/-- Without their positions, the containers are those at the end of the path. -/
theorem map_snd_containerPlaces (path : Path) (node : Json) :
    (path.containerPlaces node).map Prod.snd = path.containers node := by
  rw [containerPlaces, Places.map_snd_bind, map_snd_places, containers]
  simp only [Json.map_snd_objectPlaces]

theorem containerPlaces_in (path : Path) (node : Json) :
    (path.containerPlaces node).In .object node :=
  (path.places_in node).bind fun place _ => place.2.objectPlaces_in

/-- The containers at the end of a path are read at their positions. -/
theorem map_at?_containerPositions (path : Path) (node : Json) :
    (path.containerPositions node).map node.at?
      = (path.containers node).map fun fields => some (.object fields) := by
  rw [← map_snd_containerPlaces]
  exact (path.containerPlaces_in node).map_at?

/-- No container at the end of a path lies inside another one. -/
theorem pairwise_apart_containerPositions (path : Path) (node : Json) :
    (path.containerPositions node).Pairwise Position.Apart :=
  List.pairwise_map.2 (path.containerPlaces_in node).apart

end Path

end Reshape
