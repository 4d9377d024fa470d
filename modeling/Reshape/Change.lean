import Reshape.Narrowing
import Reshape.Refusal

/-!
# Changes

What the four statements do to a document. They change it in place, and one that is refused leaves
the document as it is by then. A filter works on the items of an array. The others work on each
instance of the document: the values for all instances are computed first, and then the containers
at the end of the target's path are changed, instance by instance.
-/

namespace Reshape

/-! ## Fields -/

namespace Fields

/-- Sets a field, or removes it when there is no value. -/
def assign (key : String) (value : Option Json) (fields : Fields) : Fields :=
  match value with
  | none => fields.erase key
  | some v => fields.insert key v

/-- Sets a field that is missing, when there is a value. -/
def append (key : String) (value : Option Json) (fields : Fields) : Fields :=
  match value with
  | none => fields
  | some v => if fields.contains key then fields else fields.insert key v

/-- Moves a value from one field to another. -/
def rename (source target : String) (fields : Fields) : Fields :=
  match fields.get? source with
  | none => fields
  | some v => (fields.erase source).insert target v

end Fields

/-! ## Edits -/

/-- A change of a document in place. If it is refused, the document stays as it is by then. -/
abbrev Edit := ExceptT Refusal (StateM Json)

/-- What a change leaves behind: the document, and the refusal that ended the change, if any. -/
structure Outcome where
  document : Json
  refusal : Option Refusal

namespace Outcome

/-- The outcome of a change that either comes to an end or leaves the document as it was. -/
def ofStep (document : Json) : Except Refusal Json → Outcome
  | .ok changed => ⟨changed, none⟩
  | .error refusal => ⟨document, some refusal⟩

/-- The changed document, or the refusal. -/
def result (outcome : Outcome) : Except Refusal Json :=
  match outcome.refusal with
  | none => .ok outcome.document
  | some refusal => .error refusal

end Outcome

/--
The value to be stored for an instance; nothing when it is `null`. The target is named in the
refusal, whether or not it leads anywhere.
-/
def Expression.valueFor (policy : NonFinite) (target : Path) (value : Expression)
    (node : Json) : Except Refusal (Option Json) :=
  match value.eval node with
  | .null => .ok none
  | operand => ((operand.toJson policy).map some).mapError (.notFinite target)

namespace Edit

/-- What the edit leaves of a document. -/
def on (edit : Edit Unit) (document : Json) : Outcome :=
  match edit.run.run document with
  | (.ok (), document) => ⟨document, none⟩
  | (.error refusal, document) => ⟨document, some refusal⟩

/-- Keeps the items of an array for which the predicate holds, narrowed. -/
def filter (predicate : Predicate) : Edit Unit := do
  match ← get with
  | .array items => set (Json.array (predicate.siftAll items))
  | document => throw (.notAnArray document.kind)

/--
Changes the containers of every instance by the value computed for it. Of the last step of the
target only the name counts.
-/
def write (change : String → Option Json → Fields → Fields) (policy : NonFinite) (target : Path)
    (value : Expression) : Edit Unit :=
  match target.getLast? with
  | none => return
  | some field => do
    let stored ← ofExcept ((← get).instances.mapM (value.valueFor policy target))
    modify (Json.changeInstances
      (fun v => Path.modifyContainers target.dropLast (change field.name v)) stored)

/-- Sets the target to the value in every container, or removes it. -/
def assign : NonFinite → Path → Expression → Edit Unit := write Fields.assign

/-- Sets the target to the value in every container that lacks it. -/
def append : NonFinite → Path → Expression → Edit Unit := write Fields.append

/--
Moves the field that ends the source to the one that ends the target, in every container that the
target leads to.
-/
def rename (target source : Path) : Edit Unit :=
  match target.getLast?, source.getLast? with
  | some new, some old =>
    if new.name = old.name then return
    else modify (Json.mapInstances
      (Path.modifyContainers target.dropLast (Fields.rename old.name new.name)))
  | _, _ => return

end Edit

/-! ## What edits leave -/

namespace Edit

@[simp] theorem on_pure (document : Json) : (pure () : Edit Unit).on document = ⟨document, none⟩ :=
  rfl

/-- An edit after another is carried out on what the first leaves, unless that was refused. -/
theorem on_bind (first : Edit Unit) (next : Unit → Edit Unit) (document : Json) :
    (first >>= next).on document =
      match first.on document with
      | ⟨document, none⟩ => (next ()).on document
      | ⟨document, some refusal⟩ => ⟨document, some refusal⟩ := by
  unfold on
  rw [ExceptT.run_bind, StateT.run_bind]
  rcases first.run.run document with ⟨_ | _, after⟩ <;> rfl

theorem on_get_bind (next : Json → Edit Unit) (document : Json) :
    (get >>= next).on document = (next document).on document := rfl

/-- What has to be known first is found out before anything is changed. -/
theorem on_ofExcept_bind {α : Type} (r : Except Refusal α) (next : α → Edit Unit)
    (document : Json) :
    (ofExcept r >>= next).on document =
      match r with
      | .ok a => (next a).on document
      | .error refusal => ⟨document, some refusal⟩ := by
  cases r <;> rfl

theorem on_filter (predicate : Predicate) (document : Json) :
    (filter predicate).on document =
      match document with
      | .array items => ⟨.array (predicate.siftAll items), none⟩
      | document => ⟨document, some (.notAnArray document.kind)⟩ := by
  cases document <;> rfl

theorem on_write (change : String → Option Json → Fields → Fields) (policy : NonFinite)
    (target : Path) (value : Expression) (document : Json) :
    (write change policy target value).on document =
      match target.getLast? with
      | none => ⟨document, none⟩
      | some field =>
        match document.instances.mapM (value.valueFor policy target) with
        | .ok stored =>
          ⟨document.changeInstances
            (fun v => Path.modifyContainers target.dropLast (change field.name v)) stored, none⟩
        | .error refusal => ⟨document, some refusal⟩ := by
  unfold write
  cases target.getLast? with
  | none => rfl
  | some field =>
    simp only
    rw [on_get_bind, on_ofExcept_bind]
    cases document.instances.mapM (value.valueFor policy target) <;> rfl

theorem on_rename (target source : Path) (document : Json) :
    (rename target source).on document =
      match target.getLast?, source.getLast? with
      | some new, some old =>
        if new.name = old.name then ⟨document, none⟩
        else ⟨document.mapInstances
          (Path.modifyContainers target.dropLast (Fields.rename old.name new.name)), none⟩
      | _, _ => ⟨document, none⟩ := by
  unfold rename
  cases target.getLast? <;> cases source.getLast? <;> try rfl
  simp only
  split <;> rfl

end Edit

/-- Carries out a statement. -/
def Statement.apply (policy : NonFinite) : Statement → Edit Unit
  | .filter predicate => Edit.filter predicate
  | .assign target value => Edit.assign policy target value
  | .append target value => Edit.append policy target value
  | .rename target source => Edit.rename target source

/-! ## Changed documents -/

namespace Json

/-- The document with only the items for which the predicate holds, narrowed. -/
def filter (predicate : Predicate) (document : Json) : Except Refusal Json :=
  ((Edit.filter predicate).on document).result

/-- The document with the target set to the value, or removed. -/
def assign (policy : NonFinite) (target : Path) (value : Expression) (document : Json) :
    Except Refusal Json :=
  ((Edit.assign policy target value).on document).result

/-- The document with the target set to the value where it was missing. -/
def append (policy : NonFinite) (target : Path) (value : Expression) (document : Json) :
    Except Refusal Json :=
  ((Edit.append policy target value).on document).result

/-- The document with the field that ends the source moved to the one that ends the target. -/
def rename (target source : Path) (document : Json) : Json :=
  ((Edit.rename target source).on document).document

end Json

end Reshape
