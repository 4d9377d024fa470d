import Reshape.Proofs.Narrowing
import Reshape.Proofs.ReadingBack
import Reshape.Proofs.Runs

/-!
# What changes nothing a second time

A statement that is carried out again finds its containers anew, and in a document that it has
changed: predicates on the way may pick other items than before, and the value to be stored may be
another one or none at all. This file says for which statements the second time still changes
nothing.

* Every container that the second walk finds has been changed by the first, so a change is settled
  when it leaves changed containers alone (`Path.modifyContainers_settled`).
* An append leaves a container alone that has the field, and a renaming one that lacks it. What a
  literal comes to is the same for every document.
* A filter narrows what it finds to the first item, or by a read-only predicate, only once: what it
  finds again is as narrow as it gets.
-/

namespace Reshape

/-! ## Settled containers -/

namespace Path

/-- A change that leaves every container as it is leaves the document as it is. -/
theorem modifyContainers_eq_self {path : Path} {f : Fields → Fields} {node : Json}
    (h : ∀ fields ∈ path.containers node, f fields = fields) :
    path.modifyContainers f node = node := by
  -- at the position of each container the change sets what is there already
  obtain ⟨changed, hchange, hnew⟩ := path.modifyContainers_changes f node
  have hsame : changed = path.containers node := by
    have hall := List.forall₂_map_left_iff.2 (hchange.imp fun _ _ => Eq.symm)
    rw [List.forall₂_eq_eq_eq] at hall
    rw [← hall, List.map_congr_left h, List.map_id']
  have hthere : List.Forall₂ (fun p new => node.at? p = some new) (path.containerPositions node)
      ((path.containers node).map Json.object) := by
    have hfound := path.map_at?_containerPositions node
    rw [← List.forall₂_eq_eq_eq, List.forall₂_map_left_iff, List.forall₂_map_right_iff] at hfound
    rw [List.forall₂_map_right_iff]
    exact hfound
  rw [hnew, hsame]
  exact Json.setAll_of_at? fun change hin => List.forall₂_zip hthere hin

/--
A change is settled after another if it leaves alone what the other makes of the containers. Those
that it finds are among them, even if predicates on the way now pick other items.
-/
theorem modifyContainers_settled {path : Path} {f g : Fields → Fields} {node : Json}
    (h : ∀ fields ∈ path.containers node, g (f fields) = f fields) :
    path.modifyContainers g (path.modifyContainers f node) = path.modifyContainers f node := by
  refine modifyContainers_eq_self fun fields hfields => ?_
  obtain ⟨old, hold, rfl⟩ := List.mem_map.1 ((path.containers_modify f node).1.subset hfields)
  exact h old hold

end Path

/-! ## Settled instances -/

theorem Json.kind_mapObjects (f : Fields → Fields) (value : Json) :
    (value.mapObjects f).kind = value.kind := by
  cases value with
  | array items =>
    rw [mapObjects_array]
    rfl
  | null | bool | number | string | object => rfl

theorem Path.kind_modifyContainers (path : Path) (f : Fields → Fields) (node : Json) :
    (path.modifyContainers f node).kind = node.kind := by
  cases path with
  | nil => exact node.kind_mapObjects f
  | cons step path => exact node.kind_mapObjects _

/-- If a changed instance is not changed any further, neither is a changed document. -/
theorem Json.EachInstance.settled {change : Json → Json → Prop} {document after last : Json}
    (hkind : ∀ old new, change old new → new.kind = old.kind)
    (hsettled : ∀ old new newer, change old new → change new newer → newer = new)
    (h : document.EachInstance change after) (h' : after.EachInstance change last) :
    last = after := by
  cases document with
  | array items =>
    obtain ⟨items', rfl, hitems⟩ := h
    obtain ⟨items'', rfl, hitems'⟩ := h'
    congr 1
    induction hitems generalizing items'' with
    | nil =>
      cases hitems'
      rfl
    | cons hitem _ ih =>
      cases hitems' with
      | cons hitem' hitems' => rw [hsettled _ _ _ hitem hitem', ih _ hitems']
  | null | bool | number | string | object =>
    -- the document is an instance itself, and stays one
    have hsame := hkind _ _ h
    cases after with
    | array items => exact absurd hsame (by simp [Json.kind])
    | null | bool | number | string | object => exact hsettled _ _ _ h h'

/-! ## Settled fields -/

namespace Fields

theorem insert_insert (fields : Fields) (key : String) (value : Json) :
    (fields.insert key value).insert key value = fields.insert key value := by
  induction fields with
  | nil => simp [insert]
  | cons field rest ih =>
    obtain ⟨k, v⟩ := field
    simp only [insert]
    split
    · simp [insert]
    · split
      · simp [insert]
      · next hlt hne => rw [insert, if_neg hlt, if_neg hne, ih]

theorem assign_assign (key : String) (value : Option Json) (fields : Fields) :
    (fields.assign key value).assign key value = fields.assign key value := by
  cases value with
  | none => simp [assign, erase]
  | some v => exact fields.insert_insert key v

/-- A field that is there after an append stays as it is, whatever is appended next. -/
theorem append_append (key : String) (value : Json) (next : Option Json) (fields : Fields) :
    (fields.append key (some value)).append key next = fields.append key (some value) := by
  have hthere : (fields.append key (some value)).contains key = true := by
    rw [append]
    split
    · assumption
    · rw [contains, get?_insert, if_pos rfl]
      rfl
  cases next with
  | none => rfl
  | some v => exact if_pos hthere

/-- There is nothing left to be moved. -/
theorem rename_rename {source target : String} (h : source ≠ target) (fields : Fields) :
    (fields.rename source target).rename source target = fields.rename source target := by
  have hmoved := renamed_rename source target fields
  have hgone : (fields.rename source target).get? source = none := by
    cases hsource : fields.get? source with
    | none => rw [hmoved.kept (by simp [contains, hsource]), hsource]
    | some v => rw [hmoved.moved v hsource, if_neg h, if_pos rfl]
  rw [rename, hgone]

end Fields

/-! ## Statements that write -/

/-- What is stored for two instances is the same if the expression comes to the same. -/
theorem Expression.Stores.eq_of_eval_eq {policy : NonFinite} {value : Expression}
    {node node' : Json} {v v' : Option Json} (h : value.Stores policy node v)
    (h' : value.Stores policy node' v') (heval : value.eval node = value.eval node') : v = v' := by
  unfold Stores at h h'
  cases v with
  | none =>
    cases v' with
    | none => rfl
    | some stored' => exact absurd (heval ▸ h) h'.1
  | some stored =>
    cases v' with
    | none => exact absurd (heval ▸ h') h.1
    | some stored' =>
      rw [heval, h'.2] at h
      rw [Except.ok.inj h.2]

namespace Edit

/-- Carried out a second time, the edit changes nothing more, even if it is refused then. -/
def Idempotent (edit : Edit Unit) : Prop :=
  ∀ document, (edit.on (edit.on document).document).document = (edit.on document).document

/-- What is refused changes nothing, so only edits count that come to an end both times. -/
theorem Atomic.idempotent {edit : Edit Unit} (hatomic : edit.Atomic)
    (h : ∀ document after last, edit.on document = ⟨after, none⟩ → edit.on after = ⟨last, none⟩ →
      last = after) : edit.Idempotent := by
  intro document
  rcases hfirst : edit.on document with ⟨after, _ | refusal⟩
  · rcases hsecond : edit.on after with ⟨last, _ | refusal⟩
    · exact h document after last hfirst hsecond
    · exact hatomic after last refusal hsecond
  · obtain rfl := hatomic document after refusal hfirst
    rw [hfirst]

/--
A write is idempotent if no instance is changed further by the value that is computed for it once it
is changed.
-/
theorem write_idempotent {change : String → Option Json → Fields → Fields} {policy : NonFinite}
    {value : Expression}
    (h : ∀ (path : Path) (key : String) (node : Json) (v v' : Option Json),
      value.Stores policy node v →
      value.Stores policy (path.modifyContainers (change key v) node) v' →
      path.modifyContainers (change key v') (path.modifyContainers (change key v) node)
        = path.modifyContainers (change key v) node)
    (target : Path) : (write change policy target value).Idempotent := by
  refine (write_atomic change policy target value).idempotent fun document after last => ?_
  rcases List.eq_nil_or_concat' target with rfl | ⟨path, field, rfl⟩
  · intro hfirst hsecond
    exact (Outcome.mk.inj hsecond).1.symm
  · intro hfirst hsecond
    refine (write_eachInstance hfirst).settled ?_ ?_ (write_eachInstance hsecond)
    · rintro old new ⟨v, -, rfl⟩
      exact Path.kind_modifyContainers path _ old
    · rintro old new newer ⟨v, hv, rfl⟩ ⟨v', hv', rfl⟩
      exact h path field.name old v v' hv hv'

theorem append_idempotent (policy : NonFinite) (target : Path) (value : Expression) :
    (append policy target value).Idempotent := by
  refine write_idempotent (fun path key node v v' hv hv' => ?_) target
  cases v with
  | none =>
    -- nothing was stored, so the value is computed from the same instance again
    have hsame : path.modifyContainers (Fields.append key none) node = node :=
      Path.modifyContainers_eq_self fun fields _ => rfl
    rw [hsame] at hv' ⊢
    obtain rfl := hv.eq_of_eval_eq hv' rfl
    exact hsame
  | some stored =>
    exact Path.modifyContainers_settled fun fields _ => Fields.append_append key stored v' fields

theorem assign_literal_idempotent (policy : NonFinite) (target : Path) (literal : Literal) :
    (assign policy target (.literal literal)).Idempotent := by
  refine write_idempotent (fun path key node v v' hv hv' => ?_) target
  obtain rfl := hv.eq_of_eval_eq hv' rfl
  exact Path.modifyContainers_settled fun fields _ => Fields.assign_assign key v fields

theorem rename_idempotent (target source : Path) : (rename target source).Idempotent := by
  intro document
  rcases rename_cases target source with hon | ⟨old, new, hne, hon⟩
  · rw [hon, hon]
  · rw [hon, hon]
    have hfirst := document.mapInstances_eachInstance
      (Path.modifyContainers target.dropLast (Fields.rename old new))
    refine hfirst.settled ?_ ?_ (Json.mapInstances_eachInstance _ _)
    · rintro before after rfl
      exact Path.kind_modifyContainers target.dropLast _ before
    · rintro before after last rfl rfl
      exact Path.modifyContainers_settled fun fields _ => Fields.rename_rename hne fields

end Edit

/--
**Writing a second time changes nothing more.** This holds of every append, whatever its value has
become by then, and even if it is refused; of every renaming; and of every assignment of a literal,
a removal among them. Predicates on the way may ask for the very field that is written.
-/
theorem writing_again_changes_nothing (policy : NonFinite) (target : Path) :
    (∀ value, ((Statement.append target value).apply policy).Idempotent)
    ∧ (∀ source, ((Statement.rename target source).apply policy).Idempotent)
    ∧ ∀ literal, ((Statement.assign target (.literal literal)).apply policy).Idempotent :=
  ⟨Edit.append_idempotent policy target, Edit.rename_idempotent target,
    Edit.assign_literal_idempotent policy target⟩

/-- An append may be refused the second time, as `1 / (1 - a)` is once it is stored in `a`. -/
example :
    let one : Expression := .literal (.number (.int 1))
    let edit := Edit.append .reject [.plain "a"]
      (.arithmetic .divide one (.arithmetic .subtract one (.path [.plain "a"])))
    (edit.on (.object [])).document = .object [("a", .number (.double 1))]
      ∧ (edit.on (.object [("a", .number (.double 1))])).refusal.isSome :=
  ⟨rfl, rfl⟩

/-! ## Filters -/

/--
Of what the selector leaves of an array, it leaves everything again: the first item, or the items
for which a read-only predicate holds.
-/
inductive Selector.Lasting : Selector → Prop where
  | first : Lasting (.at 0)
  | matching {predicate : Predicate} : predicate.ReadOnly → Lasting (.matching predicate)

theorem Selector.Lasting.narrow_narrow {selector : Selector} (h : selector.Lasting)
    (value : Json) : selector.narrow (selector.narrow value) = selector.narrow value := by
  cases value with
  | array items =>
    cases h with
    | first =>
      rw [Selector.narrow, Selector.narrow]
      cases items <;> rfl
    | matching h =>
      simp only [Selector.narrow_matching, Predicate.siftAll_of_readOnly h, List.filter_filter,
        Bool.and_self]
  | null | bool | number | string | object => cases h <;> rfl

theorem Path.narrow_narrow {selector : Selector} (h : selector.Lasting) (path : Path)
    (name : String) (node : Json) :
    Path.narrow (path ++ [.mk name selector]) (Path.narrow (path ++ [.mk name selector]) node)
      = Path.narrow (path ++ [.mk name selector]) node := by
  rw [narrow_concat, narrow_concat]
  refine modifyContainers_settled fun fields _ => ?_
  rw [Fields.modify_modify]
  exact Fields.modify_congr fun value _ => h.narrow_narrow value

/--
The predicate narrows along one path at most, and what is left there is left again. Whatever else it
asks is read-only, and if that is another way for an item to be kept, it is asked first.
-/
inductive Predicate.Lasting : Predicate → Prop where
  | readOnly {predicate : Predicate} : predicate.ReadOnly → Lasting predicate
  | prune (path : Path) (name : String) {selector : Selector} :
      selector.Lasting → Lasting (.prune (path ++ [.mk name selector]))
  | and {left right : Predicate} : Lasting left → right.ReadOnly → Lasting (.and left right)
  | or {left right : Predicate} : left.ReadOnly → Lasting right → Lasting (.or left right)
  | group {inner : Predicate} : Lasting inner → Lasting (.group inner)

namespace Predicate

theorem sift_prune (path : Path) (node : Json) :
    (prune path).sift node = (true, path.narrow node) := by
  rw [sift, Path.narrow]

/-- What is left of an item that is kept is kept again, as it is. -/
theorem Lasting.sift_again {predicate : Predicate} (h : predicate.Lasting) {node kept : Json}
    (hsift : predicate.sift node = (true, kept)) : predicate.sift kept = (true, kept) := by
  induction h with
  | readOnly h =>
    rw [sift_of_readOnly h] at hsift ⊢
    obtain ⟨hholds, rfl⟩ := Prod.mk.inj hsift
    rw [hholds]
  | prune path name h =>
    rw [sift_prune] at hsift ⊢
    obtain ⟨-, rfl⟩ := Prod.mk.inj hsift
    rw [Path.narrow_narrow h]
  | @and left right _ hright ih =>
    rw [sift] at hsift ⊢
    rcases hleft : left.sift node with ⟨_ | _, between⟩
    · rw [hleft] at hsift
      exact absurd hsift (by simp)
    · -- the right side changes nothing, so the left one has left all that is kept
      rw [hleft] at hsift
      simp only [sift_of_readOnly hright] at hsift
      obtain ⟨hholds, rfl⟩ := Prod.mk.inj hsift
      simp only [ih hleft, sift_of_readOnly hright, hholds]
  | @or left right hleft _ ih =>
    rw [sift, sift_of_readOnly hleft] at hsift ⊢
    cases hkept : left.holds kept with
    | true => rfl
    | false =>
      cases hnode : left.holds node with
      | true =>
        rw [hnode] at hsift
        obtain ⟨-, rfl⟩ := Prod.mk.inj hsift
        exact absurd hnode (by simp [hkept])
      | false =>
        rw [hnode] at hsift
        exact ih hsift
  | group _ ih =>
    rw [sift] at hsift ⊢
    exact ih hsift

theorem Lasting.siftAll_siftAll {predicate : Predicate} (h : predicate.Lasting)
    (items : List Json) :
    predicate.siftAll (predicate.siftAll items) = predicate.siftAll items := by
  rw [siftAll, siftAll, List.filterMap_filterMap]
  congr 1
  funext item
  rcases hsift : predicate.sift item with ⟨_ | _, left⟩
  · rfl
  · rw [Option.bind_some, h.sift_again hsift]

end Predicate

/--
**Filtering a second time changes nothing more**, if the predicate narrows nothing, or if it narrows
along one path, to the first item or by a read-only predicate, and then asks what is left for more.
The predicates on that path may look into the very arrays that are narrowed.
-/
theorem filtering_again_changes_nothing {predicate : Predicate} (h : predicate.Lasting)
    (items : List Json) :
    ∃ after, (Edit.filter predicate).on (.array items) = ⟨after, none⟩
      ∧ (Edit.filter predicate).on after = ⟨after, none⟩ := by
  refine ⟨_, Edit.on_filter_array predicate items, ?_⟩
  rw [Edit.on_filter_array, h.siftAll_siftAll]

/--
Narrows the orders with a new line to their first line, and then asks whether an order is open.
-/
def firstOfNew : Predicate :=
  .and
    (.prune ([.mk "orders" (.matching (.comparison (.path [.plain "lines", .plain "state"])
      .strictEqual (.literal (.string "new"))))] ++ [.mk "lines" (.at 0)]))
    (.comparison (.path [.plain "orders", .plain "state"]) .strictEqual
      (.literal (.string "open")))

/-- The order that has lost its new line is not picked the second time, and needs not be. -/
theorem filtering_again_orders :
    firstOfNew.Lasting
    ∧ (Edit.filter firstOfNew).on
        (.array [withOrders [orderOf "open" ["old", "new"], orderOf "done" ["new", "old"]],
          withOrders []])
      = ⟨.array [withOrders [orderOf "open" ["old"], orderOf "done" ["new"]]], none⟩
    ∧ (Edit.filter firstOfNew).on
        (.array [withOrders [orderOf "open" ["old"], orderOf "done" ["new"]]])
      = ⟨.array [withOrders [orderOf "open" ["old"], orderOf "done" ["new"]]], none⟩ := by
  have h : firstOfNew.Lasting := .and (.prune _ _ .first) (.comparison _ _ _)
  have hfirst : (Edit.filter firstOfNew).on
      (.array [withOrders [orderOf "open" ["old", "new"], orderOf "done" ["new", "old"]],
        withOrders []])
      = ⟨.array [withOrders [orderOf "open" ["old"], orderOf "done" ["new"]]], none⟩ := rfl
  obtain ⟨after, hafter, hagain⟩ := filtering_again_changes_nothing h
    [withOrders [orderOf "open" ["old", "new"], orderOf "done" ["new", "old"]], withOrders []]
  obtain rfl := congrArg Outcome.document (hafter.symm.trans hfirst)
  exact ⟨h, hfirst, hagain⟩

end Reshape
