import Mathlib.Data.List.Sort
import Reshape.Proofs.Preservation

/-!
# A renaming can be undone

To rename a field and then to rename it back is one walk done twice. On a path without predicates
the second walk finds the containers that the first has changed, all of them and no others, so both
walks make one, which does both changes to each container at once.

What is left is a question about the fields of one object: a value that is moved to a key that was
free, and then back, comes to stand where it stood, as the order of keys leaves it no other place.
-/

namespace Reshape

/-! ## One walk after another -/

/-- Two changes of the objects that a value stands for make one. -/
theorem Json.mapObjects_mapObjects (f g : Fields → Fields) (value : Json) :
    (value.mapObjects f).mapObjects g = value.mapObjects fun fields => g (f fields) := by
  induction value with
  | array items ih =>
    rw [mapObjects_array, mapObjects_array, mapObjects_array, List.map_map]
    exact congrArg array (List.map_congr_left ih)
  | null | bool | number | string | object => rfl

/-- Items that are picked by their place are picked again once they are changed. -/
theorem Selector.modify_modify {selector : Selector} (h : selector.Unconditional)
    (f g : Json → Json) (value : Json) :
    selector.modify g (selector.modify f value)
      = selector.modify (fun node => g (f node)) value := by
  cases selector with
  | matching predicate => exact absurd rfl (h predicate)
  | whole => rfl
  | each =>
    cases value with
    | array items =>
      rw [modify_each, modify_each, modify_each, List.map_map]
      rfl
    | null | bool | number | string | object => rfl
  | «at» n =>
    cases value with
    | array items =>
      rw [modify_at, modify_at, modify_at, List.modify_modify_eq]
      rfl
    | null | bool | number | string | object => rfl

theorem Segment.modify_modify {step : Segment} (h : step.selector.Unconditional)
    (f g : Json → Json) (node : Json) :
    step.modify g (step.modify f node) = step.modify (fun node => g (f node)) node := by
  unfold Segment.modify
  rw [Json.mapObjects_mapObjects]
  congr 1
  funext fields
  rw [Fields.modify_modify]
  exact Fields.modify_congr fun value _ => Selector.modify_modify h f g value

namespace Path

/-- Two changes at the end of a path without predicates make one. -/
theorem modify_modify {path : Path} (h : path.Unconditional) (f g : Json → Json) (node : Json) :
    path.modify g (path.modify f node) = path.modify (fun node => g (f node)) node := by
  induction path generalizing node with
  | nil => rfl
  | cons step path ih =>
    obtain ⟨hstep, hpath⟩ := List.forall_mem_cons.1 h
    rw [modify_cons, modify_cons, modify_cons, Segment.modify_modify hstep]
    congr 1
    exact funext fun node => ih hpath node

/-- Two changes of the containers at the end of a path without predicates make one change. -/
theorem modifyContainers_modifyContainers {path : Path} (h : path.Unconditional)
    (f g : Fields → Fields) (node : Json) :
    path.modifyContainers g (path.modifyContainers f node)
      = path.modifyContainers (fun fields => g (f fields)) node := by
  unfold modifyContainers
  rw [modify_modify h]
  congr 1
  exact funext fun value => value.mapObjects_mapObjects f g

/-- The containers in a well-formed document are well formed. -/
theorem wellFormed_containers {path : Path} {node : Json} (h : node.WellFormed) :
    ∀ fields ∈ path.containers node, fields.WellFormed := by
  intro fields hfields
  obtain ⟨found, hfound, hfields⟩ := List.mem_flatMap.1 hfields
  exact (wellFormed_select (List.forall_mem_singleton.2 h) found hfound).objects fields hfields

end Path

/-! ## The fields of one object -/

namespace Fields

/-- In the order of keys, no key occurs twice. -/
theorem Sorted.mem_iff {fields : Fields} (h : fields.Sorted) {key : String} {value : Json} :
    (key, value) ∈ fields ↔ fields.get? key = some value := by
  refine ⟨fun hmem => ?_, mem_of_get?⟩
  induction fields with
  | nil => exact absurd hmem List.not_mem_nil
  | cons field rest ih =>
    obtain ⟨k, v⟩ := field
    obtain ⟨hleast, hrest⟩ := List.pairwise_cons.1 h
    rw [get?_cons]
    rcases List.mem_cons.1 hmem with hfirst | hmem
    · obtain ⟨rfl, rfl⟩ := Prod.mk.inj hfirst
      exact if_pos rfl
    · -- the first key is less than all others, so it is not found again
      have hne : key ≠ k := fun e => String.lt_irrefl k (e ▸ hleast _ hmem)
      rw [if_neg hne]
      exact ih hrest hmem

/-- Fields in the order of their keys are known by what is found under each key. -/
theorem Sorted.ext {fields fields' : Fields} (h : fields.Sorted) (h' : fields'.Sorted)
    (hget : ∀ k, fields.get? k = fields'.get? k) : fields = fields' := by
  have hirrefl : Std.Irrefl fun a b : String × Json => a.1 < b.1 :=
    ⟨fun a => String.lt_irrefl a.1⟩
  have hantisymm : Std.Antisymm fun a b : String × Json => a.1 < b.1 :=
    ⟨fun a b hab hba => absurd (String.lt_trans hab hba) (String.lt_irrefl a.1)⟩
  refine List.Pairwise.eq_of_mem_iff h h' fun field => ?_
  rw [h.mem_iff, h'.mem_iff, hget]

/-- A value that is moved to a key that was free is moved back to where it was. -/
theorem Sorted.rename_rename_back {fields : Fields} (h : fields.Sorted) {source target : String}
    (hfree : ¬fields.contains target) :
    (fields.rename source target).rename target source = fields := by
  have hnone : fields.get? target = none := Option.not_isSome_iff_eq_none.1 hfree
  have hthere := renamed_rename source target fields
  have hback := renamed_rename target source (fields.rename source target)
  -- nothing is moved, or the value is moved and moved back
  cases hsource : fields.get? source with
  | none =>
    have hmissing : ¬fields.contains source := by simp [contains, hsource]
    rw [hthere.kept hmissing] at hback ⊢
    exact hback.kept hfree
  | some value =>
    have hmoved : (fields.rename source target).get? target = some value := by
      rw [hthere.moved value hsource, if_pos rfl]
    refine (hback.sorted (hthere.sorted h)).ext h fun k => ?_
    rw [hback.moved value hmoved, hthere.moved value hsource]
    split
    · next hk => rw [hk, hsource]
    · split
      · next hk => rw [hk, hnone]
      · rfl

end Fields

/-! ## Documents -/

namespace Json

/-- What is undone in each instance of a document is undone in the document. -/
theorem mapInstances_mapInstances {f g : Json → Json} {document : Json}
    (hkind : (f document).kind = document.kind)
    (h : ∀ node ∈ document.instances, g (f node) = node) :
    (document.mapInstances f).mapInstances g = document := by
  by_cases harray : document.kind = .array
  · obtain ⟨items, rfl⟩ := kind_eq_array_iff.1 harray
    rw [mapInstances, mapInstances, List.map_map]
    exact congrArg array ((List.map_congr_left h).trans (List.map_id items))
  · rw [instances_of_kind harray] at h
    rw [mapInstances_of_kind harray, mapInstances_of_kind (hkind ▸ harray)]
    exact h document List.mem_cons_self

/-- The instances of a well-formed document are well formed. -/
theorem WellFormed.instances {document : Json} (h : document.WellFormed) :
    ∀ node ∈ document.instances, node.WellFormed := by
  cases document with
  | array items => exact wellFormed_array_iff.1 h
  | null | bool | number | string | object => exact List.forall_mem_singleton.2 h

end Json

theorem Edit.on_rename_concat {a b : String} (h : a ≠ b) (path source : Path) (s t : Selector)
    (document : Json) :
    (rename (path ++ [.mk b t]) (source ++ [.mk a s])).on document
      = ⟨document.mapInstances (path.modifyContainers (Fields.rename a b)), none⟩ := by
  simp only [on_rename, List.getLast?_concat, List.dropLast_concat]
  exact if_neg (Ne.symm h)

/--
**A renaming can be undone** where the new name was free. In a well-formed document, of whose
containers at the end of a path without predicates none has the new name, the field is renamed there
and renamed back, and the document is as it was. In between, the containers that have the field have
it under the new name, and a container without it is as it was.
-/
theorem rename_undone {path : Path} (hpath : path.Unconditional) {a b : String} (hne : a ≠ b)
    {document : Json} (hdocument : document.WellFormed)
    (hfree : ∀ node ∈ document.instances, ∀ fields ∈ path.containers node, ¬fields.contains b)
    (source source' : Path) (s t s' t' : Selector) :
    ∃ between,
      (Edit.rename (path ++ [.mk b t]) (source ++ [.mk a s])).on document = ⟨between, none⟩
      ∧ (Edit.rename (path ++ [.mk a t']) (source' ++ [.mk b s'])).on between = ⟨document, none⟩
      ∧ document.EachInstance (path.ChangesContainers (Fields.Renamed a b)) between := by
  refine ⟨_, Edit.on_rename_concat hne path source s t document, ?_, ?_⟩
  · rw [Edit.on_rename_concat (Ne.symm hne), Json.mapInstances_mapInstances]
    · exact path.kind_modifyContainers _ document
    · intro node hnode
      -- both walks are one, which leaves every container as it is
      rw [Path.modifyContainers_modifyContainers hpath]
      refine Path.modifyContainers_eq_self fun fields hfields => ?_
      have hwf := Path.wellFormed_containers (hdocument.instances node hnode) fields hfields
      exact (Fields.wellFormed_iff.1 hwf).1.rename_rename_back (hfree node hnode fields hfields)
  · refine (document.mapInstances_eachInstance _).mono fun old new hnew => ?_
    obtain rfl := hnew
    refine (path.modifyContainers_changes _ old).mono fun fields fields' h => ?_
    exact h ▸ Fields.renamed_rename a b fields

/--
Lots with a quantity under the given key, one of them in an array of its own, and one without.
-/
def lotsWith (key : String) : Json :=
  .array
    [.object [("lots", .array
      [.object (Fields.insert [("name", .string "bolt")] key (.number (.int 2))),
        .array [.object (Fields.insert [] key .null)],
        .object [("name", .string "nut")]])],
    .object [("lots", .bool false)], .null]

/-- The new name stands before the others, the old one behind them. -/
theorem rename_undone_lots :
    Path.Unconditional [.mk "lots" .each] ∧ "qty" ≠ "amount" ∧ (lotsWith "qty").WellFormed
    ∧ (∀ node ∈ (lotsWith "qty").instances,
      ∀ fields ∈ Path.containers [.mk "lots" .each] node, ¬fields.contains "amount")
    ∧ (Edit.rename [.mk "lots" .each, .plain "amount"] [.plain "qty"]).on (lotsWith "qty")
      = ⟨lotsWith "amount", none⟩
    ∧ (Edit.rename [.mk "lots" .each, .plain "qty"] [.plain "amount"]).on (lotsWith "amount")
      = ⟨lotsWith "qty", none⟩ := by
  have hpath : Path.Unconditional [.mk "lots" .each] := Path.unconditional_each "lots"
  have hne : "qty" ≠ "amount" := by decide
  have hdocument : (lotsWith "qty").WellFormed := by decide
  have hfree : ∀ node ∈ (lotsWith "qty").instances,
      ∀ fields ∈ Path.containers [.mk "lots" .each] node, ¬fields.contains "amount" := by
    decide
  have hthere : (Edit.rename [.mk "lots" .each, .plain "amount"] [.plain "qty"]).on
      (lotsWith "qty") = ⟨lotsWith "amount", none⟩ := rfl
  obtain ⟨between, hbetween, hback, -⟩ :=
    rename_undone hpath hne hdocument hfree [] [] .whole .whole .whole .whole
  obtain rfl := congrArg Outcome.document (hbetween.symm.trans hthere)
  exact ⟨hpath, hne, hdocument, hfree, hthere, hback⟩

end Reshape
