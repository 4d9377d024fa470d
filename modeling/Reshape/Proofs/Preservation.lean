import Reshape.Proofs.Broadcast
import Reshape.Proofs.Idempotence
import Reshape.Proofs.Policies
import Reshape.Proofs.Thinning
import Reshape.Proofs.Trees

/-!
# Documents stay well formed

What is stored in a document comes from the document itself, from a literal or from arithmetic.
Parts of a well-formed document are well formed, literals that were read can be stored, and of the
results of arithmetic only the finite ones are stored. The places where something is stored keep
the order of keys. So a statement leaves a well-formed document well formed, whether it is refused
or not.

* `Expression.wellFormed_of_toJson` is about what is stored, `Path.wellFormed_modifyContainers`
  about the places, and `Thinning.wellFormed` about filters, which store nothing.
* `Json.Keeps` collects what is kept of a document: well-formedness, its kind, a scalar as it is,
  and at most as many items. `Statement.apply_keeps` is the step, `Program.keeps_leave` the run.
-/

namespace Reshape

/-! ## Fields -/

namespace Fields

/-- The fields make up a well-formed object. -/
abbrev WellFormed (fields : Fields) : Prop := (Json.object fields).WellFormed

theorem wellFormed_iff {fields : Fields} :
    fields.WellFormed ↔ fields.Sorted ∧ ∀ field ∈ fields, field.2.WellFormed := by
  rw [WellFormed, Json.WellFormed, Json.fieldsWellFormed_iff]

/-- A value that is found belongs to a field. -/
theorem mem_of_get? {fields : Fields} {key : String} {value : Json}
    (h : fields.get? key = some value) : (key, value) ∈ fields := by
  induction fields with
  | nil => exact absurd h (by simp)
  | cons field rest ih =>
    obtain ⟨k, v⟩ := field
    rw [get?_cons] at h
    split at h
    · next hkey =>
      obtain rfl := Option.some.inj h
      exact hkey ▸ List.mem_cons_self
    · exact List.mem_cons_of_mem _ (ih h)

/-- A field after a change of one field was there before, or is the changed one. -/
theorem mem_modify {fields : Fields} {key : String} {f : Json → Json} {field : String × Json}
    (h : field ∈ fields.modify key f) :
    field ∈ fields ∨ ∃ old ∈ fields, field.2 = f old.2 := by
  induction fields with
  | nil => exact .inl h
  | cons head rest ih =>
    obtain ⟨k, v⟩ := head
    rw [modify_cons] at h
    split at h
    · rcases List.mem_cons.1 h with rfl | h
      · exact .inr ⟨(k, v), List.mem_cons_self, rfl⟩
      · exact .inl (List.mem_cons_of_mem _ h)
    · rcases List.mem_cons.1 h with rfl | h
      · exact .inl List.mem_cons_self
      · rcases ih h with h | ⟨old, hold, hnew⟩
        · exact .inl (List.mem_cons_of_mem _ h)
        · exact .inr ⟨old, List.mem_cons_of_mem _ hold, hnew⟩

namespace WellFormed

variable {fields : Fields} (h : fields.WellFormed)
include h

theorem get? {key : String} {value : Json} (hget : fields.get? key = some value) :
    value.WellFormed :=
  (wellFormed_iff.1 h).2 _ (mem_of_get? hget)

/-- A well-formed value may take the place of any field. -/
theorem insert (key : String) {value : Json} (hvalue : value.WellFormed) :
    (fields.insert key value).WellFormed := by
  obtain ⟨hsorted, hvalues⟩ := wellFormed_iff.1 h
  refine wellFormed_iff.2 ⟨hsorted.insert key value, fun field hfield => ?_⟩
  rcases mem_insert hfield with rfl | hfield
  · exact hvalue
  · exact hvalues field hfield

theorem erase (key : String) : (fields.erase key).WellFormed := by
  obtain ⟨hsorted, hvalues⟩ := wellFormed_iff.1 h
  exact wellFormed_iff.2
    ⟨hsorted.erase key, fun field hfield => hvalues field (List.mem_filter.1 hfield).1⟩

/-- A change of one value keeps the order of the keys. -/
theorem modify (key : String) {f : Json → Json}
    (hf : ∀ value, value.WellFormed → (f value).WellFormed) :
    (fields.modify key f).WellFormed := by
  obtain ⟨hsorted, hvalues⟩ := wellFormed_iff.1 h
  refine wellFormed_iff.2 ⟨hsorted.modify key f, fun field hfield => ?_⟩
  -- the field was there before, or it holds the changed value
  rcases mem_modify hfield with hfield | ⟨old, hold, hnew⟩
  · exact hvalues field hfield
  · exact hnew ▸ hf old.2 (hvalues old hold)

/-- What is assigned is removed or stored. -/
theorem assign (key : String) {value : Option Json} (hvalue : ∀ v ∈ value, v.WellFormed) :
    (fields.assign key value).WellFormed := by
  cases value with
  | none => exact h.erase key
  | some v => exact h.insert key (hvalue v rfl)

/-- What is appended is stored where there was nothing. -/
theorem append (key : String) {value : Option Json} (hvalue : ∀ v ∈ value, v.WellFormed) :
    (fields.append key value).WellFormed := by
  cases value with
  | none => exact h
  | some v =>
    rw [Fields.append]
    split
    · exact h
    · exact h.insert key (hvalue v rfl)

/-- A renamed value was in the object before. -/
theorem rename (source target : String) : (fields.rename source target).WellFormed := by
  unfold Fields.rename
  cases hsource : fields.get? source with
  | none => exact h
  | some v => exact WellFormed.insert (h.erase source) target (h.get? hsource)

end WellFormed

end Fields

/-! ## What is found -/

namespace Json

theorem wellFormed_array_iff {items : List Json} :
    (array items).WellFormed ↔ ∀ item ∈ items, item.WellFormed := by
  rw [WellFormed, allWellFormed_iff]

/-- The objects that a well-formed value stands for are well formed. -/
theorem WellFormed.objects {value : Json} (h : value.WellFormed) :
    ∀ fields ∈ value.objects, fields.WellFormed := by
  induction value with
  | array items ih =>
    rw [objects_array]
    intro fields hfields
    obtain ⟨item, hitem, hfields⟩ := List.mem_flatMap.1 hfields
    exact ih item hitem (wellFormed_array_iff.1 h item hitem) fields hfields
  | object fields =>
    intro fields' hfields
    obtain rfl := List.mem_singleton.1 hfields
    exact h
  | null | bool | number | string => exact fun fields hfields => absurd hfields List.not_mem_nil

theorem WellFormed.valuesAt {value : Json} (h : value.WellFormed) (key : String) :
    ∀ found ∈ value.valuesAt key, found.WellFormed := by
  intro found hfound
  obtain ⟨fields, hfields, hget⟩ := List.mem_filterMap.1 hfound
  exact (h.objects fields hfields).get? hget

end Json

/-- A selector picks the value of a field, or items of it. -/
theorem Selector.wellFormed_select {selector : Selector} {value : Json} (h : value.WellFormed) :
    ∀ node ∈ selector.select value, node.WellFormed := by
  cases selector with
  | whole =>
    intro node hnode
    obtain rfl := List.mem_singleton.1 hnode
    exact h
  | each =>
    cases value with
    | array items => exact Json.wellFormed_array_iff.1 h
    | null | bool | number | string | object =>
      exact fun node hnode => absurd hnode List.not_mem_nil
  | «at» n =>
    cases value with
    | array items =>
      intro node hnode
      exact Json.wellFormed_array_iff.1 h node
        (List.mem_of_getElem? (Option.mem_toList.1 hnode))
    | null | bool | number | string | object =>
      exact fun node hnode => absurd hnode List.not_mem_nil
  | matching predicate =>
    cases value with
    | array items =>
      intro node hnode
      exact Json.wellFormed_array_iff.1 h node (List.mem_filter.1 hnode).1
    | null | bool | number | string | object =>
      exact fun node hnode => absurd hnode List.not_mem_nil

/-- What a path finds in well-formed documents is well formed. -/
theorem Path.wellFormed_select {path : Path} {nodes : List Json}
    (h : ∀ node ∈ nodes, node.WellFormed) : ∀ node ∈ path.select nodes, node.WellFormed := by
  induction path generalizing nodes with
  | nil => exact h
  | cons step path ih =>
    obtain ⟨name, selector⟩ := step
    -- the first step finds parts of the objects, and the other steps go on from there
    rw [select_cons]
    refine ih fun node hnode => ?_
    obtain ⟨start, hstart, hnode⟩ := List.mem_flatMap.1 hnode
    rw [Segment.select] at hnode
    obtain ⟨value, hvalue, hnode⟩ := List.mem_flatMap.1 hnode
    exact Selector.wellFormed_select ((h start hstart).valuesAt name value hvalue) node hnode

/-! ## What is stored -/

namespace Operand

theorem ofJsonAll_eq_map (items : List Json) : ofJsonAll items = items.map ofJson := by
  induction items with
  | nil => rfl
  | cons item items ih => rw [ofJsonAll, List.map_cons, ih]

/-- A value of a document is stored as it was, under either policy. -/
theorem toJson_ofJson (policy : NonFinite) (value : Json) :
    (ofJson value).toJson policy = .ok value := by
  induction value with
  | array items ih =>
    have hitems : (items.map ofJson).mapM (toJson policy) = .ok items := by
      rw [List.mapM_map]
      have hall := mapM_eq_pure (m := Except Float) ih
      rwa [List.map_id'] at hall
    rw [ofJson, ofJsonAll_eq_map, toJson_list, hitems]
    rfl
  | null | bool | number | string | object => rfl

/-- What was found is stored as nothing, as the one value, or as an array of the values. -/
theorem toJson_ofNodes (policy : NonFinite) (nodes : List Json) :
    (ofNodes nodes).toJson policy = .ok
      (match nodes with
      | [] => .null
      | [node] => node
      | nodes => .array nodes) := by
  match nodes with
  | [] => rfl
  | [node] => exact toJson_ofJson policy node
  | first :: second :: rest => exact toJson_ofJson policy (.array (first :: second :: rest))

end Operand

/-- Of the results of arithmetic, only the finite ones are stored as numbers. -/
theorem Operand.wellFormed_of_toJson_float {x : Float} {policy : NonFinite} {stored : Json}
    (h : (Operand.float x).toJson policy = .ok stored) : stored.WellFormed := by
  simp only [toJson] at h
  split at h
  · next hfinite =>
    obtain rfl := Except.ok.inj h
    exact hfinite
  · -- only one policy stores anything in place of what is not finite
    cases policy with
    | storeNull =>
      obtain rfl := Except.ok.inj h
      trivial
    | reject => exact absurd h (by simp)

/-- A literal that can be stored is stored as it was read. -/
theorem Literal.wellFormed_of_toJson {value : Literal} (hvalue : value.WellFormed Number.IsStorable)
    {policy : NonFinite} {stored : Json} (h : value.operand.toJson policy = .ok stored) :
    stored.WellFormed := by
  cases value with
  | number n =>
    obtain rfl := Except.ok.inj h
    exact hvalue
  | null | bool | string =>
    obtain rfl := Except.ok.inj h
    trivial

/-- Arithmetic stores a finite number or nothing. -/
theorem ArithmeticOp.wellFormed_of_toJson {op : ArithmeticOp} {left right : Operand}
    {policy : NonFinite} {stored : Json} (h : (op.apply left right).toJson policy = .ok stored) :
    stored.WellFormed := by
  unfold apply at h
  split at h
  · obtain rfl := Except.ok.inj h
    trivial
  · exact Operand.wellFormed_of_toJson_float h

/-- What an expression stores is well formed if its literals and the document are. -/
theorem Expression.wellFormed_of_toJson {node : Json} (hnode : node.WellFormed)
    {policy : NonFinite} {stored : Json} :
    ∀ value : Expression, value.WellFormed Number.IsStorable →
      (value.eval node).toJson policy = .ok stored → stored.WellFormed
  | .literal value, hvalue, h => by
    rw [eval] at h
    exact Literal.wellFormed_of_toJson hvalue h
  | .path steps, _, h => by
    have hfound : ∀ found ∈ selectPath steps [node], found.WellFormed :=
      Path.wellFormed_select (List.forall_mem_singleton.2 hnode)
    rw [eval, Operand.toJson_ofNodes] at h
    obtain rfl := Except.ok.inj h
    generalize selectPath steps [node] = nodes at hfound
    -- nothing, one value, or an array of what was found
    match nodes with
    | [] => trivial
    | [found] => exact hfound found List.mem_cons_self
    | first :: second :: rest => exact Json.wellFormed_array_iff.2 hfound
  | .arithmetic op left right, _, h => by
    rw [eval] at h
    exact ArithmeticOp.wellFormed_of_toJson h
  | .concat left right, _, h => by
    rw [eval] at h
    obtain rfl := Except.ok.inj h
    trivial
  | .group inner, hvalue, h => by
    rw [eval] at h
    exact wellFormed_of_toJson hnode inner hvalue h

/-- What is stored is well formed, if anything is. -/
theorem Expression.Stores.wellFormed {value : Expression}
    (hvalue : value.WellFormed Number.IsStorable) {policy : NonFinite} {node : Json}
    (hnode : node.WellFormed) {stored : Option Json} (h : value.Stores policy node stored) :
    ∀ v ∈ stored, v.WellFormed := by
  rintro v rfl
  exact wellFormed_of_toJson hnode value hvalue h.2

/-! ## Where something is stored -/

/-- A change of the objects that a value stands for keeps it well formed if it keeps each one. -/
theorem Json.WellFormed.mapObjects {f : Fields → Fields}
    (hf : ∀ fields : Fields, fields.WellFormed → (f fields).WellFormed) {value : Json}
    (h : value.WellFormed) : (value.mapObjects f).WellFormed := by
  induction value with
  | array items ih =>
    rw [mapObjects_array, wellFormed_array_iff]
    intro item hitem
    obtain ⟨old, hold, rfl⟩ := List.mem_map.1 hitem
    exact ih old hold (wellFormed_array_iff.1 h old hold)
  | object fields => exact hf fields h
  | null | bool | number | string => exact h

/-- A change of what is selected keeps a value well formed if it keeps each node so. -/
theorem Selector.wellFormed_modify {f : Json → Json}
    (hf : ∀ node, node.WellFormed → (f node).WellFormed) (selector : Selector) {value : Json}
    (h : value.WellFormed) : (selector.modify f value).WellFormed := by
  cases value with
  | array items =>
    have hitems := Json.wellFormed_array_iff.1 h
    cases selector with
    | whole => exact hf _ h
    | each =>
      rw [modify_each, Json.wellFormed_array_iff]
      intro item hitem
      obtain ⟨old, hold, rfl⟩ := List.mem_map.1 hitem
      exact hf old (hitems old hold)
    | «at» n =>
      rw [modify_at, Json.wellFormed_array_iff]
      intro item hitem
      obtain ⟨i, hi⟩ := List.mem_iff_getElem?.1 hitem
      rw [List.getElem?_modify] at hi
      obtain ⟨old, hold, rfl⟩ := Option.map_eq_some_iff.1 hi
      have hwf := hitems old (List.mem_of_getElem? hold)
      split
      · exact hf old hwf
      · exact hwf
    | matching predicate =>
      rw [modify_matching, Json.wellFormed_array_iff]
      intro item hitem
      obtain ⟨old, hold, rfl⟩ := List.mem_map.1 hitem
      split
      · exact hf old (hitems old hold)
      · exact hitems old hold
  | null | bool | number | string | object =>
    cases selector with
    | whole => exact hf _ h
    | each | «at» | matching => exact h

namespace Path

/--
A change of the nodes at the end of a path keeps a document well formed if it keeps each node so.
-/
theorem wellFormed_modify {f : Json → Json} (hf : ∀ node, node.WellFormed → (f node).WellFormed)
    (path : Path) {node : Json} (h : node.WellFormed) : (path.modify f node).WellFormed := by
  induction path generalizing node with
  | nil => exact hf node h
  | cons step path ih =>
    refine h.mapObjects fun fields hfields => ?_
    exact hfields.modify step.name fun value hvalue =>
      step.selector.wellFormed_modify (fun node hnode => ih hnode) hvalue

/-- A change of the containers keeps a document well formed if it keeps each container so. -/
theorem wellFormed_modifyContainers {f : Fields → Fields}
    (hf : ∀ fields : Fields, fields.WellFormed → (f fields).WellFormed) (path : Path) {node : Json}
    (h : node.WellFormed) : (path.modifyContainers f node).WellFormed :=
  path.wellFormed_modify (fun _ hvalue => hvalue.mapObjects hf) h

end Path

/-! ## What is left of items -/

/-- What stays of a list is what is left of one of its items. -/
theorem ThinningItems.exists_of_mem {items items' : List Json} (h : ThinningItems items items')
    {left : Json} (hleft : left ∈ items') : ∃ item ∈ items, Thinning item left := by
  induction items generalizing items' with
  | nil =>
    cases h with
    | nil => exact absurd hleft List.not_mem_nil
  | cons item items ih =>
    cases h with
    | drop hitems =>
      obtain ⟨old, hold, hthin⟩ := ih hitems hleft
      exact ⟨old, List.mem_cons_of_mem _ hold, hthin⟩
    | keep hitem hitems =>
      rcases List.mem_cons.1 hleft with rfl | hleft
      · exact ⟨item, List.mem_cons_self, hitem⟩
      · obtain ⟨old, hold, hthin⟩ := ih hitems hleft
        exact ⟨old, List.mem_cons_of_mem _ hold, hthin⟩

/-- What stays of fields is what is left of the values of these. -/
theorem ThinningFields.exists_of_mem {fields fields' : Fields} (h : ThinningFields fields fields')
    {left : String × Json} (hleft : left ∈ fields') :
    ∃ field ∈ fields, Thinning field.2 left.2 := by
  induction fields generalizing fields' with
  | nil =>
    cases h with
    | nil => exact absurd hleft List.not_mem_nil
  | cons field fields ih =>
    cases h with
    | cons hvalue hfields =>
      rcases List.mem_cons.1 hleft with rfl | hleft
      · exact ⟨_, List.mem_cons_self, hvalue⟩
      · obtain ⟨old, hold, hthin⟩ := ih hfields hleft
        exact ⟨old, List.mem_cons_of_mem _ hold, hthin⟩

theorem ThinningFields.keys {fields fields' : Fields} (h : ThinningFields fields fields') :
    fields'.map Prod.fst = fields.map Prod.fst := by
  induction fields generalizing fields' with
  | nil =>
    cases h with
    | nil => rfl
  | cons field fields ih =>
    cases h with
    | cons _ hfields => rw [List.map_cons, List.map_cons, ih hfields]

/-- What is left when items are removed is well formed, since no key and no number changes. -/
theorem Thinning.wellFormed {value left : Json} (h : Thinning value left)
    (hvalue : value.WellFormed) : left.WellFormed := by
  induction value generalizing left with
  | array items ih =>
    obtain ⟨items', rfl, hitems⟩ := thinning_array_iff.1 h
    refine Json.wellFormed_array_iff.2 fun item hitem => ?_
    obtain ⟨old, hold, hthin⟩ := hitems.exists_of_mem hitem
    exact ih old hold hthin (Json.wellFormed_array_iff.1 hvalue old hold)
  | object fields ih =>
    obtain ⟨fields', rfl, hfields⟩ := thinning_object_iff.1 h
    obtain ⟨hsorted, hvalues⟩ := Fields.wellFormed_iff.1 hvalue
    refine Fields.wellFormed_iff.2 ⟨?_, fun field hfield => ?_⟩
    · -- the keys stay as they are, and so does their order
      rw [Fields.sorted_iff_keys, hfields.keys, ← Fields.sorted_iff_keys]
      exact hsorted
    · obtain ⟨old, hold, hthin⟩ := hfields.exists_of_mem hfield
      exact ih old hold hthin (hvalues old hold)
  | null | bool | number | string =>
    cases h with
    | same => exact hvalue

/-! ## What is kept of a document -/

/-- A value without parts. -/
def Json.IsScalar (value : Json) : Prop := value.kind ≠ .array ∧ value.kind ≠ .object

/--
What every statement keeps of a document. The items of an array are its instances, and any other
document has just one, so `items` says that an array does not grow.
-/
structure Json.Keeps (before after : Json) : Prop where
  wellFormed : before.WellFormed → after.WellFormed
  kind : after.kind = before.kind
  scalar : before.IsScalar → after = before
  items : after.instances.length ≤ before.instances.length

/-- What a statement keeps that does not filter. -/
structure Json.KeepsItems (before after : Json) : Prop extends Json.Keeps before after where
  sameItems : after.instances.length = before.instances.length

namespace Json

theorem KeepsItems.refl (document : Json) : document.KeepsItems document :=
  ⟨⟨id, rfl, fun _ => rfl, Nat.le_refl _⟩, rfl⟩

theorem Keeps.trans {before between after : Json} (h : before.Keeps between)
    (h' : between.Keeps after) : before.Keeps after where
  wellFormed := h'.wellFormed ∘ h.wellFormed
  kind := h'.kind.trans h.kind
  scalar hscalar := by
    obtain rfl := h.scalar hscalar
    exact h'.scalar hscalar
  items := Nat.le_trans h'.items h.items

/-- If the instances of a document keep what they have to, so does the document. -/
theorem EachInstance.keepsItems {change : Json → Json → Prop} {document after : Json}
    (h : document.EachInstance change after)
    (hchange : ∀ old new, change old new → old.KeepsItems new) : document.KeepsItems after := by
  cases document with
  | array items =>
    obtain ⟨items', rfl, hitems⟩ := h
    have hlength : items'.length = items.length := hitems.length_eq.symm
    refine ⟨⟨fun hwf => ?_, rfl, fun hscalar => absurd rfl hscalar.1, hlength.le⟩, hlength⟩
    rw [wellFormed_array_iff] at hwf ⊢
    clear hlength
    induction hitems with
    | nil => exact hwf
    | cons hitem _ ih =>
      obtain ⟨hold, hmore⟩ := List.forall_mem_cons.1 hwf
      exact List.forall_mem_cons.2 ⟨(hchange _ _ hitem).wellFormed hold, ih hmore⟩
  | null | bool | number | string | object => exact hchange _ _ h

/-- A change of objects adds no item and removes none. -/
theorem length_instances_mapObjects (f : Fields → Fields) (value : Json) :
    (value.mapObjects f).instances.length = value.instances.length := by
  cases value with
  | array items =>
    rw [mapObjects_array]
    exact List.length_map _
  | null | bool | number | string | object => rfl

end Json

/-- A change of the containers of an instance keeps what it has to. -/
theorem Path.keepsItems_modifyContainers {f : Fields → Fields} {node : Json}
    (hf : node.WellFormed → ∀ fields : Fields, fields.WellFormed → (f fields).WellFormed)
    (path : Path) : node.KeepsItems (path.modifyContainers f node) := by
  have hitems : (path.modifyContainers f node).instances.length = node.instances.length := by
    cases path with
    | nil => exact node.length_instances_mapObjects f
    | cons step path => exact node.length_instances_mapObjects _
  refine ⟨⟨fun hnode => path.wellFormed_modifyContainers (hf hnode) hnode,
    path.kind_modifyContainers f node, fun hscalar => ?_, hitems.le⟩, hitems⟩
  -- there is no object in a scalar, so no container
  cases node with
  | array items => exact absurd rfl hscalar.1
  | object fields => exact absurd rfl hscalar.2
  | null | bool | number | string => cases path <;> rfl

/-! ## Statements -/

namespace Edit

/-- A write keeps what it has to, if each of its changes keeps an object well formed. -/
theorem write_keepsItems {change : String → Option Json → Fields → Fields}
    (hchange : ∀ (key : String) (value : Option Json) (fields : Fields), fields.WellFormed →
      (∀ v ∈ value, v.WellFormed) → (change key value fields).WellFormed)
    (policy : NonFinite) (target : Path) {value : Expression}
    (hvalue : value.WellFormed Number.IsStorable) (document : Json) :
    document.KeepsItems ((write change policy target value).on document).document := by
  -- either the write is done in every instance, or it leaves the document alone
  rcases hon : (write change policy target value).on document with ⟨after, _ | refusal⟩
  · rcases List.eq_nil_or_concat' target with rfl | ⟨path, last, rfl⟩
    · obtain rfl := (Outcome.mk.inj hon).1
      exact .refl _
    · refine (write_eachInstance hon).keepsItems ?_
      rintro old new ⟨v, hv, rfl⟩
      exact Path.keepsItems_modifyContainers (fun hold fields hfields =>
        hchange last.name v fields hfields (hv.wellFormed hvalue hold)) path
  · obtain rfl := write_atomic change policy target value document after refusal hon
    exact .refl _

theorem rename_keepsItems (target source : Path) (document : Json) :
    document.KeepsItems ((rename target source).on document).document := by
  rcases rename_cases target source with hnothing | ⟨old, new, -, hmoves⟩
  · rw [hnothing]
    exact .refl _
  · rw [hmoves]
    refine (document.mapInstances_eachInstance _).keepsItems ?_
    rintro before after rfl
    exact Path.keepsItems_modifyContainers (fun _ fields hfields => hfields.rename old new) _

theorem filter_keeps (predicate : Predicate) (document : Json) :
    document.Keeps ((filter predicate).on document).document := by
  -- only arrays are filtered
  by_cases hkind : document.kind = .array
  · cases document with
    | array items =>
      rw [on_filter_array]
      refine ⟨fun hwf => ?_, rfl, fun hscalar => absurd rfl hscalar.1, ?_⟩
      · exact (Thinning.array (thinningItems_siftAll predicate.thinning_sift items)).wellFormed hwf
      · exact List.length_filterMap_le _ _
    | null | bool | number | string | object => exact absurd hkind Kind.noConfusion
  · rw [on_filter_of_kind predicate hkind]
    exact (Json.KeepsItems.refl document).toKeeps

end Edit

/-- The statement is a filter. -/
def Statement.IsFilter (statement : Statement) : Prop := ∃ predicate, statement = .filter predicate

/-- A statement with literals that can be stored keeps what it has to. -/
theorem Statement.apply_keeps {statement : Statement}
    (h : statement.WellFormed Number.IsStorable) (policy : NonFinite) (document : Json) :
    document.Keeps ((statement.apply policy).on document).document
    ∧ (¬statement.IsFilter →
      document.KeepsItems ((statement.apply policy).on document).document) := by
  cases statement with
  | filter predicate =>
    exact ⟨Edit.filter_keeps predicate document, fun hother => absurd ⟨predicate, rfl⟩ hother⟩
  | assign target value =>
    have hkeeps := Edit.write_keepsItems (fun key value _ hfields => hfields.assign key) policy
      target h.2 document
    exact ⟨hkeeps.toKeeps, fun _ => hkeeps⟩
  | append target value =>
    have hkeeps := Edit.write_keepsItems (fun key value _ hfields => hfields.append key) policy
      target h.2 document
    exact ⟨hkeeps.toKeeps, fun _ => hkeeps⟩
  | rename target source =>
    have hkeeps := Edit.rename_keepsItems target source document
    exact ⟨hkeeps.toKeeps, fun _ => hkeeps⟩

/-! ## Runs -/

/-- The statement was read, as a whole, in a program or by its parts. -/
inductive Statement.FromText : Statement → Prop where
  | statement {text : String} {s : Statement} : Statement.read text = .ok s → FromText s
  | program {text : String} {program : Program} {s : Statement} :
      Program.read text = .ok program → s ∈ program → FromText s
  | filterClause {clause : String} {p : Predicate} :
      Predicate.readClause clause = .ok p → FromText (.filter p)
  | assignClause {clause : String} {s : Statement} :
      Statement.readAssignment clause = .ok s → FromText s
  | filter {text : String} {p : Predicate} : Predicate.read text = .ok p → FromText (.filter p)
  | assign {left right : String} {target : Path} {value : Expression} :
      Path.read left = .ok target → Expression.read right = .ok value →
      FromText (.assign target value)
  | append {left right : String} {target : Path} {value : Expression} :
      Path.read left = .ok target → Expression.read right = .ok value →
      FromText (.append target value)
  | rename {left right : String} {target source : Path} :
      Path.read left = .ok target → Path.read right = .ok source →
      FromText (.rename target source)

/-- Whatever way a statement was read, its literals can be stored. -/
theorem Statement.FromText.wellFormed {statement : Statement} (h : statement.FromText) :
    statement.WellFormed Number.IsStorable := by
  have hpath {text : String} {path : Path} (hread : Path.read text = .ok path) :
      path.WellFormed Number.IsStorable :=
    readWhole_yields (fun _ hinner => Grammar.yields_path hinner) hread
  have hexpression {text : String} {value : Expression} (hread : Expression.read text = .ok value) :
      value.WellFormed Number.IsStorable :=
    readWhole_yields (fun _ hinner => Grammar.yields_expression hinner) hread
  cases h with
  | statement hread => exact Statement.wellFormed_of_read hread
  | program hread hmem => exact Program.wellFormed_of_read hread statement hmem
  | filterClause hread =>
    obtain ⟨body, -, hbody⟩ := Predicate.readClause_eq_ok_iff.1 hread
    exact Predicate.wellFormed_of_read hbody
  | assignClause hread => exact Statement.wellFormed_of_readAssignment hread
  | filter hread => exact Predicate.wellFormed_of_read hread
  | assign htarget hvalue => exact ⟨hpath htarget, hexpression hvalue⟩
  | append htarget hvalue => exact ⟨hpath htarget, hexpression hvalue⟩
  | rename htarget hsource => exact ⟨hpath htarget, hpath hsource⟩

namespace Program

/-- The document after all statements, of which the refused ones are passed over. -/
def leave (policy : NonFinite) (program : Program) (document : Json) : Json :=
  program.foldl (fun document statement => ((statement.apply policy).on document).document) document

/-- One statement more changes what the ones before it have left. -/
theorem leave_take_succ {program : Program} {k : Nat} {statement : Statement}
    (h : program[k]? = some statement) (policy : NonFinite) (document : Json) :
    leave policy (program.take (k + 1)) document
      = ((statement.apply policy).on (leave policy (program.take k) document)).document := by
  rw [leave, List.take_add_one, h, List.foldl_append]
  rfl

/-- A run keeps what each of its statements keeps. -/
theorem keeps_leave {program : Program} (h : ∀ s ∈ program, s.WellFormed Number.IsStorable)
    (policy : NonFinite) (document : Json) : document.Keeps (leave policy program document) := by
  induction program generalizing document with
  | nil => exact (Json.KeepsItems.refl document).toKeeps
  | cons statement program ih =>
    have hstep := (Statement.apply_keeps (h statement List.mem_cons_self) policy document).1
    exact hstep.trans (ih (fun s hs => h s (List.mem_cons_of_mem _ hs)) _)

/-- A run that ends with a refusal leaves what the statements up to there do. -/
theorem exists_run_eq_leave (policy : NonFinite) (program : Program) (document : Json) :
    ∃ k, (run policy program document).document = leave policy (program.take k) document := by
  induction program generalizing document with
  | nil => exact ⟨0, rfl⟩
  | cons statement program ih =>
    rw [run_cons]
    -- the run goes on after a statement that is done, and stops at a refused one
    rcases hstep : (statement.apply policy).on document with ⟨between, _ | refusal⟩
    · obtain ⟨k, hk⟩ := ih between
      refine ⟨k + 1, hk.trans ?_⟩
      rw [List.take_succ_cons, leave, leave, List.foldl_cons, hstep]
    · refine ⟨1, ?_⟩
      rw [List.take_succ_cons, leave, List.foldl_cons, hstep]
      rfl

end Program

/--
**Statements that were read keep documents well formed**, through runs of any length, under either
policy, and whether they are refused or not. On the way the kind of the document stays, a scalar
stays as it is, and an array loses items only to filters and never gains any. A run that stops at
the first refusal leaves one of the documents on this way.
-/
theorem documents_stay_wellFormed {program : Program} (hread : ∀ s ∈ program, s.FromText)
    (policy : NonFinite) (document : Json) :
    (∀ k, document.Keeps (Program.leave policy (program.take k) document))
    ∧ (∀ k statement, program[k]? = some statement →
      let before := Program.leave policy (program.take k) document
      let after := ((statement.apply policy).on before).document
      after = Program.leave policy (program.take (k + 1)) document
        ∧ before.Keeps after ∧ (¬statement.IsFilter → before.KeepsItems after))
    ∧ ∃ k, (program.run policy document).document
      = Program.leave policy (program.take k) document := by
  refine ⟨fun k => ?_, fun k statement hget => ?_, program.exists_run_eq_leave policy document⟩
  · exact Program.keeps_leave (fun s hs => (hread s (List.mem_of_mem_take hs)).wellFormed) policy
      document
  · refine ⟨(Program.leave_take_succ hget policy document).symm, ?_⟩
    exact Statement.apply_keeps (hread statement (List.mem_of_getElem? hget)).wellFormed policy _

/-- Statements of all kinds, one of which is refused under the one policy. -/
def growAndFilter : String :=
  "map -> b = 1 / (a - a); append -> c = d; rename -> e = b; filter -> d[0] and e = null"

theorem documents_stay_wellFormed_quotient :
    let document : Json := .array [.object [("a", .number (.int 1)), ("d", .array [.null])], .null]
    document.WellFormed ∧ ∃ program, Program.read growAndFilter = .ok program
      ∧ (Program.leave .reject program document).WellFormed
      ∧ (Program.leave .storeNull program document).WellFormed := by
  intro document
  have hdocument : document.WellFormed := by decide +kernel
  obtain ⟨program, hprogram⟩ : ∃ program, Program.read growAndFilter = .ok program := by
    decide +kernel
  have hread : ∀ s ∈ program, s.FromText := fun s hs => .program hprogram hs
  have hlast (policy : NonFinite) : (Program.leave policy program document).WellFormed := by
    have hkeeps := (documents_stay_wellFormed hread policy document).1 program.length
    rw [List.take_length] at hkeeps
    exact hkeeps.wellFormed hdocument
  exact ⟨hdocument, program, hprogram, hlast .reject, hlast .storeNull⟩

end Reshape
