import Mathlib.Data.List.Forall2
import Reshape.Change
import Reshape.Proofs.Visit

/-!
# What writing changes

Assigning, appending and renaming walk to containers and change their fields. This file says which
containers these are, in terms of what `Path.select` finds in the instance as it was, what becomes
of the fields of each, and that nothing else changes.

* `Path.ChangesContainers` is the frame: the old instance with other fields in its containers, which
  are where `Path.containerPositions` says;
* `Fields.Assigned`, `Fields.Appended` and `Fields.Renamed` are the effects, entry by entry;
* `Json.EachInstance` takes a relation from instances to documents.
-/

namespace Reshape

/-! ## Containers -/

namespace Path

/--
The containers at the end of the path have become others, each related to what it was, and each at
the position where it was. All else is as it was.
-/
def ChangesContainers (path : Path) (change : Fields → Fields → Prop) (old new : Json) : Prop :=
  ∃ changed : List Fields,
    List.Forall₂ change (path.containers old) changed
      ∧ new = old.setAll ((path.containerPositions old).zip (changed.map .object))

theorem ChangesContainers.mono {path : Path} {change change' : Fields → Fields → Prop}
    {old new : Json} (h : path.ChangesContainers change old new)
    (himp : ∀ fields fields', change fields fields' → change' fields fields') :
    path.ChangesContainers change' old new := by
  obtain ⟨changed, hchange, hnew⟩ := h
  exact ⟨changed, hchange.imp himp, hnew⟩

/-- A walk to containers changes these and nothing else. -/
theorem modifyContainers_changes (path : Path) (f : Fields → Fields) (node : Json) :
    path.ChangesContainers (fun old new => new = f old) node (path.modifyContainers f node) := by
  refine ⟨(path.containers node).map f, ?_, ?_⟩
  · rw [List.forall₂_map_right_iff, List.forall₂_same]
    exact fun _ _ => rfl
  · -- a change without effects is a visit in the identity monad
    have hrun := covers_path (covers_objects (covers_here Json.object)) path node Id
      fun fields => pure (f fields)
    simp only [Places.bind_here] at hrun
    rw [Places.visitM_eq, ← containerPlaces, map_snd_containerPlaces, List.mapM_pure] at hrun
    exact hrun

end Path

/-! ## Entries -/

namespace Fields

/-- The old fields with one entry set to the value, or without it if there is none. -/
structure Assigned (key : String) (value : Option Json) (old new : Fields) : Prop where
  get? : ∀ k, new.get? k = if k = key then value else old.get? k
  sorted : old.Sorted → new.Sorted

/-- The old fields, with the entry set to the value if it was missing and there is one. -/
structure Appended (key : String) (value : Option Json) (old new : Fields) : Prop where
  kept : old.contains key ∨ value = none → new = old
  added : ∀ v, ¬old.contains key → value = some v → Assigned key (some v) old new

/-- The old fields, with the value of the one entry moved to the other if there was one. -/
structure Renamed (source target : String) (old new : Fields) : Prop where
  kept : ¬old.contains source → new = old
  moved : ∀ v, old.get? source = some v →
    ∀ k, new.get? k = if k = target then some v else if k = source then none else old.get? k
  sorted : old.Sorted → new.Sorted

theorem assigned_assign (key : String) (value : Option Json) (fields : Fields) :
    Assigned key value fields (fields.assign key value) := by
  cases value with
  | none => exact ⟨get?_erase fields key, fun h => h.erase key⟩
  | some v => exact ⟨fun k => get?_insert fields key k v, fun h => h.insert key v⟩

theorem appended_append (key : String) (value : Option Json) (fields : Fields) :
    Appended key value fields (fields.append key value) := by
  cases value with
  | none => exact ⟨fun _ => rfl, fun v _ h => absurd h (by simp)⟩
  | some v =>
    refine ⟨fun h => if_pos (h.resolve_right (by simp)), fun v' hmissing h => ?_⟩
    obtain rfl := Option.some.inj h
    rw [append, if_neg hmissing]
    exact assigned_assign key (some v) fields

theorem renamed_rename (source target : String) (fields : Fields) :
    Renamed source target fields (fields.rename source target) := by
  unfold rename
  cases hget : fields.get? source with
  | none => exact ⟨fun _ => rfl, fun v h => absurd (hget.symm.trans h) (by simp), id⟩
  | some v =>
    refine ⟨fun h => absurd ?_ h, fun v' h k => ?_, fun h => (h.erase source).insert target v⟩
    · simp [contains, hget]
    · obtain rfl := Option.some.inj (hget.symm.trans h)
      rw [get?_insert, get?_erase]

end Fields

/-! ## Instances -/

/-- What an expression comes to for an instance when it is stored: nothing when it is `null`. -/
def Expression.Stores (policy : NonFinite) (value : Expression) (node : Json) :
    Option Json → Prop
  | none => value.eval node = .null
  | some stored => value.eval node ≠ .null ∧ (value.eval node).toJson policy = .ok stored

/-- What is computed for an instance is what the expression comes to there. -/
theorem Expression.stores_of_valueFor {policy : NonFinite} {target : Path} {value : Expression}
    {node : Json} {stored : Option Json} (h : value.valueFor policy target node = .ok stored) :
    value.Stores policy node stored := by
  unfold valueFor at h
  split at h
  · next hnull =>
    obtain rfl := Except.ok.inj h
    exact hnull
  · next operand hnull =>
    cases hjson : (value.eval node).toJson policy with
    | error x => rw [hjson] at h; exact absurd h (by simp [Except.map, Except.mapError])
    | ok v =>
      rw [hjson] at h
      obtain rfl := Except.ok.inj h
      exact ⟨hnull, hjson⟩

namespace Json

/-- The relation holds between the instances of the documents, which are as many on both sides. -/
def EachInstance (change : Json → Json → Prop) : Json → Json → Prop
  | .array items, new => ∃ items', new = .array items' ∧ List.Forall₂ change items items'
  | old, new => change old new

theorem mapInstances_eachInstance (f : Json → Json) (document : Json) :
    document.EachInstance (fun old new => new = f old) (document.mapInstances f) := by
  cases document with
  | array items =>
    refine ⟨items.map f, rfl, ?_⟩
    rw [List.forall₂_map_right_iff, List.forall₂_same]
    exact fun _ _ => rfl
  | _ => rfl

/-- Values are computed for all items or for none. -/
theorem mapM_ok_iff {α : Type} {compute : Json → Except Refusal α} {items : List Json}
    {values : List α} :
    items.mapM compute = .ok values
      ↔ List.Forall₂ (fun item value => compute item = .ok value) items values := by
  induction items generalizing values with
  | nil => cases values <;> simp [pure, Except.pure]
  | cons item items ih =>
    rw [List.mapM_cons]
    -- one error is enough to have no values
    cases hitem : compute item with
    | error e => cases values <;> simp [bind, Except.bind, hitem]
    | ok v =>
      cases hitems : items.mapM compute with
      | error e => cases values <;> simp [bind, Except.bind, ← ih, hitem, hitems]
      | ok vs =>
        cases values <;> simp [bind, Except.bind, pure, Except.pure, ← ih, hitem, hitems]

/-- Items are changed by the values computed from them, not by those of others. -/
theorem forall₂_changeItems {α : Type} {compute : Json → Except Refusal α} {items : List Json}
    {values : List α}
    (h : List.Forall₂ (fun item value => compute item = .ok value) items values)
    (f : α → Json → Json) :
    List.Forall₂ (fun old new => ∃ v, compute old = .ok v ∧ new = f v old) items
      (changeItems f values items) := by
  induction h with
  | nil => exact .nil
  | cons hitem _ ih => exact .cons ⟨_, hitem, rfl⟩ ih

/-- Every instance is changed by the value that was computed from it. -/
theorem changeInstances_eachInstance {α : Type} {compute : Json → Except Refusal α}
    {document : Json} {values : List α} (h : document.instances.mapM compute = .ok values)
    (f : α → Json → Json) :
    document.EachInstance (fun old new => ∃ v, compute old = .ok v ∧ new = f v old)
      (document.changeInstances f values) := by
  rw [mapM_ok_iff] at h
  cases document with
  | array items => exact ⟨_, rfl, forall₂_changeItems h f⟩
  | _ =>
    cases h with
    | cons hdocument hrest =>
      cases hrest
      exact ⟨_, hdocument, rfl⟩

/-- What follows for single instances follows for all of them. -/
theorem EachInstance.mono {change change' : Json → Json → Prop} {old new : Json}
    (h : old.EachInstance change new) (himp : ∀ old new, change old new → change' old new) :
    old.EachInstance change' new := by
  cases old with
  | array items =>
    obtain ⟨items', hnew, hitems⟩ := h
    exact ⟨items', hnew, hitems.imp himp⟩
  | _ => exact himp _ _ h

end Json

/-! ## Statements -/

/-- A write that is not refused changes the containers of each instance by its stored value. -/
theorem write_eachInstance {change : String → Option Json → Fields → Fields}
    {policy : NonFinite} {path : Path} {last : Segment} {value : Expression}
    {document after : Json}
    (h : (Edit.write change policy (path ++ [last]) value).on document = ⟨after, none⟩) :
    document.EachInstance
      (fun old new => ∃ v, value.Stores policy old v
        ∧ new = path.modifyContainers (change last.name v) old) after := by
  rw [Edit.on_write, List.getLast?_concat, List.dropLast_concat] at h
  simp only at h
  split at h
  · next stored hstored =>
    obtain rfl := (Outcome.mk.inj h).1
    -- `hstored` speaks of the document before the change, and so do the stored values
    refine (Json.changeInstances_eachInstance hstored _).mono fun old new => ?_
    rintro ⟨v, hv, hnew⟩
    exact ⟨v, Expression.stores_of_valueFor hv, hnew⟩
  · exact absurd (Outcome.mk.inj h).2 (by simp)

/-- What a write that is not refused does to each instance. -/
theorem write_changes {change : String → Option Json → Fields → Fields}
    {effect : String → Option Json → Fields → Fields → Prop}
    (heffect : ∀ key value fields, effect key value fields (change key value fields))
    {policy : NonFinite} {path : Path} {last : Segment} {value : Expression}
    {document after : Json}
    (h : (Edit.write change policy (path ++ [last]) value).on document = ⟨after, none⟩) :
    document.EachInstance
      (fun old new => ∃ v, value.Stores policy old v
        ∧ path.ChangesContainers (effect last.name v) old new) after := by
  refine (write_eachInstance h).mono fun old new => ?_
  rintro ⟨v, hv, rfl⟩
  refine ⟨v, hv, ?_⟩
  refine (path.modifyContainers_changes _ old).mono fun fields fields' h => ?_
  exact h ▸ heffect last.name v fields

theorem Outcome.eq_of_result_eq_ok {outcome : Outcome} {after : Json}
    (h : outcome.result = .ok after) : outcome = ⟨after, none⟩ := by
  obtain ⟨document, refusal⟩ := outcome
  cases refusal with
  | none =>
    obtain rfl : document = after := Except.ok.inj h
    rfl
  | some r => exact absurd h (by simp [result])

/--
**Writing changes the entries it names, in the containers its target leads to, and nothing else.**
The containers and the stored value are those of each instance as it was before. No container lies
inside another, and each is changed where it is. An assignment sets the entry or removes it, an
append sets it where it was missing, and a renaming moves a value to it from the entry that ends the
source.
-/
theorem writing_changes_containers (policy : NonFinite) (path : Path) (last : Segment)
    (document : Json) :
    (∀ node : Json,
      (path.containerPositions node).map node.at?
          = (path.containers node).map (fun fields => some (.object fields))
        ∧ (path.containerPositions node).Pairwise Position.Apart)
    ∧ (∀ value after, document.assign policy (path ++ [last]) value = .ok after →
      document.EachInstance
        (fun old new => ∃ v, value.Stores policy old v
          ∧ path.ChangesContainers (Fields.Assigned last.name v) old new) after)
    ∧ (∀ value after, document.append policy (path ++ [last]) value = .ok after →
      document.EachInstance
        (fun old new => ∃ v, value.Stores policy old v
          ∧ path.ChangesContainers (Fields.Appended last.name v) old new) after)
    ∧ ∀ (sourcePath : Path) (source : Segment),
      (source.name ≠ last.name →
        document.EachInstance (path.ChangesContainers (Fields.Renamed source.name last.name))
          (document.rename (path ++ [last]) (sourcePath ++ [source])))
      ∧ (source.name = last.name →
        document.rename (path ++ [last]) (sourcePath ++ [source]) = document) := by
  refine ⟨fun node => ?_, fun value after h => ?_, fun value after h => ?_,
    fun sourcePath source => ?_⟩
  · exact ⟨path.map_at?_containerPositions node, path.pairwise_apart_containerPositions node⟩
  · exact write_changes Fields.assigned_assign (Outcome.eq_of_result_eq_ok h)
  · exact write_changes Fields.appended_append (Outcome.eq_of_result_eq_ok h)
  · simp only [Json.rename, Edit.on_rename, List.getLast?_concat, List.dropLast_concat]
    refine ⟨fun hne => ?_, fun heq => by rw [if_pos heq.symm]⟩
    rw [if_neg (Ne.symm hne)]
    refine (Json.mapInstances_eachInstance _ document).mono fun old new hnew => ?_
    obtain rfl := hnew
    refine (path.modifyContainers_changes _ old).mono fun fields fields' h => ?_
    exact h ▸ Fields.renamed_rename source.name last.name fields

/-- An object with a count, under some name. -/
def countAs (name : String) (count : Int) : Fields := [(name, .number (.int count))]

/-- Two crates, of which the second is an array of two more. -/
def cratesWith (first second third : Fields) : Json :=
  .object [("crates", .array [.object first, .array [.object second, .object third]])]

/--
The second crate stands for two containers. A crate that is equal to one of these, or to both, is
none itself and stays as it is.
-/
theorem writing_changes_second_crate :
    Path.containerPositions [.mk "crates" (.at 1)] (cratesWith [] [] (countAs "n" 1))
      = [[.key "crates", .index 1, .index 0], [.key "crates", .index 1, .index 1]]
    ∧ (cratesWith [] [] (countAs "n" 1)).assign .reject [.mk "crates" (.at 1), .plain "n"]
        (.literal (.number (.int 2)))
      = .ok (cratesWith [] (countAs "n" 2) (countAs "n" 2))
    ∧ (∃ v, Expression.Stores .reject (.literal (.number (.int 2)))
          (cratesWith [] [] (countAs "n" 1)) v
        ∧ Path.ChangesContainers [.mk "crates" (.at 1)] (Fields.Assigned "n" v)
          (cratesWith [] [] (countAs "n" 1)) (cratesWith [] (countAs "n" 2) (countAs "n" 2)))
    ∧ (cratesWith [] [] (countAs "n" 1)).append .reject [.mk "crates" (.at 1), .plain "n"]
        (.literal (.number (.int 2)))
      = .ok (cratesWith [] (countAs "n" 2) (countAs "n" 1))
    ∧ (∃ v, Expression.Stores .reject (.literal (.number (.int 2)))
          (cratesWith [] [] (countAs "n" 1)) v
        ∧ Path.ChangesContainers [.mk "crates" (.at 1)] (Fields.Appended "n" v)
          (cratesWith [] [] (countAs "n" 1)) (cratesWith [] (countAs "n" 2) (countAs "n" 1)))
    ∧ "n" ≠ "m"
    ∧ (cratesWith (countAs "n" 1) [] (countAs "n" 1)).rename [.mk "crates" (.at 1), .plain "m"]
        [.plain "n"]
      = cratesWith (countAs "n" 1) [] (countAs "m" 1)
    ∧ Path.ChangesContainers [.mk "crates" (.at 1)] (Fields.Renamed "n" "m")
        (cratesWith (countAs "n" 1) [] (countAs "n" 1))
        (cratesWith (countAs "n" 1) [] (countAs "m" 1))
    ∧ (cratesWith (countAs "n" 1) [] (countAs "n" 1)).rename [.mk "crates" (.at 1), .plain "n"]
        [.plain "n"]
      = cratesWith (countAs "n" 1) [] (countAs "n" 1) := by
  have hassigned : (cratesWith [] [] (countAs "n" 1)).assign .reject
      [.mk "crates" (.at 1), .plain "n"] (.literal (.number (.int 2)))
      = .ok (cratesWith [] (countAs "n" 2) (countAs "n" 2)) := rfl
  have happended : (cratesWith [] [] (countAs "n" 1)).append .reject
      [.mk "crates" (.at 1), .plain "n"] (.literal (.number (.int 2)))
      = .ok (cratesWith [] (countAs "n" 2) (countAs "n" 1)) := rfl
  have hne : "n" ≠ "m" := by decide
  obtain ⟨-, hassign, happend, -⟩ := writing_changes_containers .reject [.mk "crates" (.at 1)]
    (.plain "n") (cratesWith [] [] (countAs "n" 1))
  obtain ⟨-, -, -, hrename⟩ := writing_changes_containers .reject [.mk "crates" (.at 1)]
    (.plain "m") (cratesWith (countAs "n" 1) [] (countAs "n" 1))
  obtain ⟨-, -, -, hsame⟩ := writing_changes_containers .reject [.mk "crates" (.at 1)]
    (.plain "n") (cratesWith (countAs "n" 1) [] (countAs "n" 1))
  exact ⟨rfl, hassigned, hassign _ _ hassigned, happended, happend _ _ happended, hne, rfl,
    (hrename [] (.plain "n")).1 hne, (hsame [] (.plain "n")).2 rfl⟩

end Reshape
