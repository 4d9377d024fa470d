import Reshape.Json.Fields

/-!
# Arrays are transparent

Asked for a field, an array answers for each of its items, and so on down through arrays of arrays.
`Json.objects` lists the objects that a document stands for in this sense, and `Json.mapObjects`
changes the fields of exactly these. A change may have an effect of its own, such as a count or a
record of what was seen; the effects happen in the order of the objects.
-/

namespace Reshape

namespace Json

mutual

/-- The objects that a value stands for: itself, or those of its items. -/
def objects : Json → List Fields
  | .array items => objectsOfAll items
  | .object fields => [fields]
  | _ => []

/-- The objects that the items stand for, in order. -/
def objectsOfAll : List Json → List Fields
  | [] => []
  | item :: items => objects item ++ objectsOfAll items

end

/-- The values that the objects have under a key. -/
def valuesAt (value : Json) (key : String) : List Json :=
  value.objects.filterMap fun fields => fields.get? key

mutual

/-- Changes the fields of the objects that a value stands for. -/
def mapObjectsM {m : Type → Type} [Monad m] (f : Fields → m Fields) : Json → m Json
  | .array items => return .array (← mapObjectsOfAllM f items)
  | .object fields => return .object (← f fields)
  | value => pure value

/-- Changes the fields of the objects that the items stand for, in order. -/
def mapObjectsOfAllM {m : Type → Type} [Monad m] (f : Fields → m Fields) :
    List Json → m (List Json)
  | [] => pure []
  | item :: items => do
    let item ← mapObjectsM f item
    let items ← mapObjectsOfAllM f items
    return item :: items

end

/-- Changes the fields of the objects that a value stands for, without other effects. -/
def mapObjects (f : Fields → Fields) (value : Json) : Json :=
  Id.run (value.mapObjectsM fun fields => pure (f fields))

/-! ## Instances -/

/-- The units that a change of a document applies to: the items of an array, or the document. -/
def instances : Json → List Json
  | .array items => items
  | document => [document]

/-- Changes each instance of a document. -/
def mapInstances (f : Json → Json) : Json → Json
  | .array items => .array (items.map f)
  | document => f document

/-- Changes the items, each by the value that belongs to it. Items without a value stay. -/
def changeItems {α : Type} (f : α → Json → Json) : List α → List Json → List Json
  | value :: values, item :: items => f value item :: changeItems f values items
  | _, items => items

/-- Changes the instances of a document, each by the value that belongs to it. -/
def changeInstances {α : Type} (f : α → Json → Json) (values : List α) : Json → Json
  | .array items => .array (changeItems f values items)
  | document =>
    match values with
    | value :: _ => f value document
    | [] => document

/-! ## Equations -/

@[simp] theorem objects_array (items : List Json) :
    (array items).objects = items.flatMap objects := by
  have hall (items : List Json) : objectsOfAll items = items.flatMap objects := by
    induction items with
    | nil => rfl
    | cons item items ih => simp [objectsOfAll, ih]
  rw [objects, hall]

@[simp] theorem objects_object (fields : Fields) : (object fields).objects = [fields] := rfl

@[simp] theorem mapObjects_array (f : Fields → Fields) (items : List Json) :
    (array items).mapObjects f = .array (items.map (mapObjects f)) := by
  have hall (items : List Json) :
      Id.run (mapObjectsOfAllM (fun fields => pure (f fields)) items)
        = items.map (mapObjects f) := by
    induction items with
    | nil => rfl
    | cons item items ih => rw [List.map_cons, ← ih]; rfl
  rw [← hall]
  rfl

@[simp] theorem mapObjects_object (f : Fields → Fields) (fields : Fields) :
    (object fields).mapObjects f = .object (f fields) := rfl

end Json

end Reshape
