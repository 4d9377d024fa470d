import Reshape.Places
import Reshape.Visit

/-!
# What a visit reaches

A visit reads and writes on one walk, while `Path.places` only reads, step by step. This file says
that both go to the same places. A walk *covers* a list of places when, in every monad, it gives the
visitor what the places hold at the start, in order, and ends with what the visitor left put in
their place. No place lies inside another, so what is left at one is not seen at a later one.

Each piece of a walk covers what its parts cover, seen from one step further up. Put together,
these facts say that the visit of a path covers the places of the path.
-/

namespace Reshape

/-- A walk that gives values of type `α` to a visitor, whatever effects the visitor has. -/
abbrev Walk (α : Type) := (m : Type → Type) → [Monad m] → (α → m α) → m Json

variable {α : Type} {embed : α → Json} {node : Json}

/-! ## Visits of places -/

namespace Places

variable {m : Type → Type} [Monad m]

/-- Gives what the places hold to a visitor, in order, and collects what it leaves at each. -/
def visitM (embed : α → Json) (places : Places α) (visit : α → m α) : m (Places Json) :=
  places.mapM fun place => (fun new => (place.1, embed new)) <$> visit place.2

@[simp] theorem visitM_nil (embed : α → Json) (visit : α → m α) :
    visitM embed [] visit = pure [] := by
  simp [visitM]

variable [LawfulMonad m]

theorem visitM_append (embed : α → Json) (first second : Places α) (visit : α → m α) :
    visitM embed (first ++ second) visit = (do
      let changes ← visitM embed first visit
      (changes ++ ·) <$> visitM embed second visit) := by
  simp [visitM, List.mapM_append]

theorem visitM_under (embed : α → Json) (p : Position) (places : Places α) (visit : α → m α) :
    visitM embed (places.under p) visit = under p <$> visitM embed places visit := by
  induction places with
  | nil => simp [under]
  | cons place places ih =>
    simp only [visitM, under, List.map_cons, List.mapM_cons] at ih ⊢
    simp only [map_bind, bind_map_left, ih, bind_pure_comp, Functor.map_map]
    rfl

/-- To give places to a visitor is to give it what they hold. -/
theorem visitM_eq (embed : α → Json) (places : Places α) (visit : α → m α) :
    visitM embed places visit
      = (fun left => (places.map Prod.fst).zip (left.map embed))
          <$> (places.map Prod.snd).mapM visit := by
  induction places with
  | nil => simp
  | cons place places ih =>
    rw [visitM] at ih ⊢
    simp [ih]

end Places

/--
The walk visits these places of the document and changes nothing else: the visitor gets what they
hold, and the walk puts back what it leaves.
-/
def Covers (embed : α → Json) (node : Json) (walk : Walk α) (places : Places α) : Prop :=
  ∀ (m : Type → Type) [Monad m] [LawfulMonad m] (visit : α → m α),
    walk m visit = node.setAll <$> places.visitM embed visit

/-- Walks that agree in lawful monads cover the same places. -/
theorem Covers.congr {walk walk' : Walk α} {places : Places α} (h : Covers embed node walk places)
    (hw : ∀ (m : Type → Type) [Monad m] [LawfulMonad m] (visit : α → m α),
      walk' m visit = walk m visit) :
    Covers embed node walk' places :=
  fun m _ _ visit => (hw m visit).trans (h m visit)

/-! ## The ends of a walk -/

/-- A visit of the document itself. -/
theorem covers_here (embed : α → Json) (a : α) :
    Covers embed (embed a) (fun _ _ visit => embed <$> visit a) (.here a) := by
  intro m _ _ visit
  simp [Places.visitM, Places.here, Json.setAll]

/-- A walk that visits nothing. -/
theorem covers_nothing : Covers embed node (fun _ _ _ => pure node) [] := by
  intro m _ _ visit
  simp

/-! ## One step further up -/

/-- A change with effects of one field gets its value, and sets the field to what it leaves. -/
theorem modifyM_eq {m : Type → Type} [Monad m] [LawfulMonad m] (fields : Fields) (key : String)
    (f : Json → m Json) :
    fields.modifyM key f = ((fields.get? key).elim (pure fields) fun value =>
      (fun new => fields.modify key fun _ => new) <$> f value) := by
  induction fields with
  | nil => rfl
  | cons field rest ih =>
    obtain ⟨k, v⟩ := field
    simp only [Fields.modifyM, Fields.get?_cons, Fields.modify_cons]
    by_cases h : key = k
    · simp [h]
    · simp only [h, if_false, ih]
      cases Fields.get? rest key <;> simp

/-- A change with effects of one item gets the item, and sets it to what it leaves. -/
theorem modifyItemM_eq {m : Type → Type} [Monad m] [LawfulMonad m] (items : List Json) (n : Nat)
    (f : Json → m Json) :
    modifyItemM f n items = (items[n]?.elim (pure items) fun item =>
      (fun new => items.modify n fun _ => new) <$> f item) := by
  induction items generalizing n with
  | nil => cases n <;> rfl
  | cons item items ih =>
    cases n with
    | zero => simp [modifyItemM]
    | succ n =>
      rw [modifyItemM, ih, List.getElem?_cons_succ]
      cases items[n]? <;> simp

/-- A change with effects of the objects that an array stands for goes from item to item. -/
theorem mapObjectsM_array {m : Type → Type} [Monad m] [LawfulMonad m] (f : Fields → m Fields)
    (items : List Json) :
    (Json.array items).mapObjectsM f = .array <$> items.mapM (Json.mapObjectsM f) := by
  have hitems : Json.mapObjectsOfAllM f items = items.mapM (Json.mapObjectsM f) := by
    induction items with
    | nil => rfl
    | cons item items ih => simp [Json.mapObjectsOfAllM, ih]
  simp [Json.mapObjectsM, hitems]

/-- A walk into one field, or nowhere if the field is missing. -/
theorem covers_field {fields : Fields} {key : String} {walk : Json → Walk α}
    {places : Json → Places α} (h : ∀ value, Covers embed value (walk value) (places value)) :
    Covers embed (.object fields)
      (fun m _ visit => .object <$> fields.modifyM key fun value => walk value m visit)
      ((fields.places key).bind places) := by
  intro m _ _ visit
  simp only [modifyM_eq, Fields.places]
  cases hfield : fields.get? key with
  | none => simp
  | some value =>
    -- all changes below the key come down to one new value at the key
    have hset (changes : Places Json) :
        (Json.object fields).setAll (changes.under [.key key])
          = .object (fields.modify key fun _ => value.setAll changes) := by
      rw [Places.under_singleton, Json.setAll_key]
      congr 1
      exact Fields.modify_congr fun v hv => by rw [Option.some.inj (hfield.symm.trans hv)]
    simp [h value m visit, Places.visitM_under, hset]

/-- A walk into one item, or nowhere if there are fewer. -/
theorem covers_item {items : List Json} {n : Nat} {walk : Json → Walk α}
    {places : Json → Places α} (h : ∀ item, Covers embed item (walk item) (places item)) :
    Covers embed (.array items)
      (fun m _ visit => .array <$> modifyItemM (fun item => walk item m visit) n items)
      (Places.bind (Json.itemPlaces 0 items)[n]?.toList places) := by
  intro m _ _ visit
  simp only [modifyItemM_eq, Json.getElem?_itemPlaces]
  cases hitem : items[n]? with
  | none => simp
  | some item =>
    -- all changes below the index come down to one new item there
    have hset (changes : Places Json) :
        (Json.array items).setAll (changes.under [.index n])
          = .array (items.modify n fun _ => item.setAll changes) := by
      rw [Places.under_singleton, Json.setAll_index]
      congr 1
      refine List.ext_getElem? fun i => ?_
      by_cases e : n = i
      · subst e; simp [List.getElem?_modify_eq, hitem]
      · simp [List.getElem?_modify_ne _ _ e]
    simp [h item m visit, Places.visitM_under, hset]

/-- A walk into every item of an array. -/
theorem covers_items {items : List Json} {walk : Json → Walk α} {places : Json → Places α}
    (h : ∀ item ∈ items, Covers embed item (walk item) (places item)) :
    Covers embed (.array items)
      (fun m _ visit => .array <$> items.mapM fun item => walk item m visit)
      ((Json.itemPlaces 0 items).bind places) := by
  -- Where the items before the current one end is where the indexes start. What they hold is left
  -- open, since by the time the walk is here the visitor has changed them.
  suffices hfrom : ∀ before : List Json, Covers embed (.array (before ++ items))
      (fun m _ visit => (fun news => .array (before ++ news)) <$>
        items.mapM fun item => walk item m visit)
      ((Json.itemPlaces before.length items).bind places) from hfrom []
  induction items with
  | nil =>
    intro before m _ _ visit
    simp [Json.itemPlaces]
  | cons item items ih =>
    intro before m _ _ visit
    have hset (changes : Places Json) :
        (Json.array (before ++ item :: items)).setAll (changes.under [.index before.length])
          = .array (before ++ [item.setAll changes] ++ items) := by
      rw [Places.under_singleton, Json.setAll_index, List.modify_eq_take_cons_drop (by simp)]
      simp
    have hitem := h item List.mem_cons_self m visit
    -- the items after it are visited with whatever has come out of this one before them
    have hrest (new : Json) :=
      ih (fun item hitem => h item (List.mem_cons_of_mem _ hitem)) (before ++ [new]) m visit
    simp only [List.length_append, List.length_singleton] at hrest
    rw [Json.itemPlaces_cons, Places.cons_bind]
    generalize (Json.itemPlaces (before.length + 1) items).bind places = after at hrest
    calc
      _ = (do
            let new ← walk item m visit
            (fun news => .array (before ++ [new] ++ news)) <$>
              items.mapM fun item => walk item m visit) := by
        simp
      _ = (do
            let changes ← (places item).visitM embed visit
            (Json.array (before ++ [item.setAll changes] ++ items)).setAll <$>
              after.visitM embed visit) := by
        simp only [hitem, bind_map_left, hrest]
      _ = _ := by
        simp [Places.visitM_append, Places.visitM_under, Json.setAll_append, hset]

/-! ## Objects, selectors and paths -/

/-- A walk into every object that a value stands for. -/
theorem covers_objects {walk : Fields → (m : Type → Type) → [Monad m] → (α → m α) → m Fields}
    {places : Fields → Places α}
    (h : ∀ fields, Covers embed (.object fields) (fun m _ visit => .object <$> walk fields m visit)
      (places fields)) (node : Json) :
    Covers embed node (fun m _ visit => node.mapObjectsM fun fields => walk fields m visit)
      (node.objectPlaces.bind places) := by
  induction node with
  | array items ih =>
    rw [Json.objectPlaces_array, Places.bind_assoc]
    exact (covers_items ih).congr fun m _ _ visit => mapObjectsM_array _ items
  | object fields ih =>
    rw [Json.objectPlaces_object, Places.here_bind]
    exact (h fields).congr fun m _ _ visit => by simp [Json.mapObjectsM]
  | null | bool | number | string => exact covers_nothing

/-- A walk into what a selector picks. -/
theorem covers_selector {walk : Json → Walk α} {places : Json → Places α}
    (h : ∀ value, Covers embed value (walk value) (places value)) (selector : Selector)
    (value : Json) :
    Covers embed value
      (fun m _ visit => selector.visitM (fun node => walk node m visit) value)
      ((selector.places value).bind places) := by
  cases selector with
  | whole =>
    rw [Selector.places, Places.here_bind]
    exact h value
  | each =>
    cases value with
    | array items =>
      exact (covers_items fun item _ => h item).congr fun m _ _ visit => by
        simp [Selector.visitM]
    | null | bool | number | string | object => exact covers_nothing
  | «at» n =>
    cases value with
    | array items =>
      exact (covers_item h).congr fun m _ _ visit => by simp [Selector.visitM]
    | null | bool | number | string | object => exact covers_nothing
  | matching predicate =>
    cases value with
    | array items =>
      have hitem (item : Json) (_ : item ∈ items) : Covers embed item
          (fun m _ visit => if predicate.holds item then walk item m visit else pure item)
          (if predicate.holds item then places item else []) := by
        cases predicate.holds item with
        | true => exact h item
        | false => exact covers_nothing
      -- an item that is left out is one in which nothing is visited
      rw [Selector.places, Places.filter_bind]
      exact (covers_items hitem).congr fun m _ _ visit => by simp [Selector.visitM]
    | null | bool | number | string | object => exact covers_nothing

/-- A walk into what a step leads to. -/
theorem covers_step {walk : Json → Walk α} {places : Json → Places α}
    (h : ∀ node, Covers embed node (walk node) (places node)) (step : Segment) (node : Json) :
    Covers embed node
      (fun m _ visit => step.visitM (fun node => walk node m visit) node)
      ((step.places node).bind places) := by
  rw [Segment.places, Places.bind_assoc, Places.bind_assoc]
  refine covers_objects (fun fields => ?_) node
  exact covers_field (covers_selector h step.selector)

/-- A walk into what a path leads to. -/
theorem covers_path {walk : Json → Walk α} {places : Json → Places α}
    (h : ∀ node, Covers embed node (walk node) (places node)) (path : Path) (node : Json) :
    Covers embed node
      (fun m _ visit => path.visitM (fun node => walk node m visit) node)
      ((path.places node).bind places) := by
  induction path generalizing node with
  | nil =>
    rw [Path.places, Places.here_bind]
    exact h node
  | cons step path ih =>
    rw [Path.places, Places.bind_assoc]
    exact covers_step ih step node

end Reshape
