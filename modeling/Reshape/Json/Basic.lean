import Reshape.Decimal.Layout

/-!
# Documents

A document is a JSON value. Its numbers are exact integers or doubles, and the fields of an object
come in the order of their keys.
-/

namespace Reshape

/-- A number of a document. -/
inductive Number where
  /-- An integer, kept exactly. -/
  | int (n : Int)
  /-- A double. -/
  | double (x : Float)

namespace Number

/-- The integers that are kept exactly: those of 64 bits, signed or unsigned. -/
def exactRange (n : Int) : Bool := -9223372036854775808 ≤ n && n ≤ 18446744073709551615

/-- The double nearest to the number. -/
def toFloat : Number → Float
  | .int n => Float.ofInt n
  | .double x => x

/-- The text of the number, in documents and wherever it is rendered. -/
def write : Number → List Char
  | .int n => Decimal.writeInt n
  | .double x => Decimal.writeFloat x

end Number

/-- A JSON value. -/
inductive Json where
  | null
  | bool (b : Bool)
  | number (n : Number)
  | string (s : String)
  | array (items : List Json)
  | object (fields : List (String × Json))

instance : Inhabited Json := ⟨.null⟩

/-- The six kinds of JSON values. -/
inductive Kind where
  | null
  | boolean
  | number
  | string
  | array
  | object
deriving DecidableEq

/-- The name of the kind in messages. -/
def Kind.name : Kind → String
  | .null => "null"
  | .boolean => "boolean"
  | .number => "number"
  | .string => "string"
  | .array => "array"
  | .object => "object"

namespace Json

/-- The kind of a document. -/
def kind : Json → Kind
  | .null => .null
  | .bool _ => .boolean
  | .number _ => .number
  | .string _ => .string
  | .array _ => .array
  | .object _ => .object

/-- Only arrays have the kind of arrays. -/
theorem kind_eq_array_iff {value : Json} : value.kind = .array ↔ ∃ items, value = .array items := by
  cases value with
  | array items => exact iff_of_true rfl ⟨items, rfl⟩
  | null | bool | number | string | object => exact iff_of_false nofun nofun

mutual

/-- How many arrays and objects lie around the innermost value, themselves included. -/
def depth : Json → Nat
  | .array items => depthOfAll items + 1
  | .object fields => depthOfFields fields + 1
  | _ => 0

/-- The greatest depth of the items. -/
def depthOfAll : List Json → Nat
  | [] => 0
  | item :: items => max (depth item) (depthOfAll items)

/-- The greatest depth of the values of the fields. -/
def depthOfFields : List (String × Json) → Nat
  | [] => 0
  | (_, value) :: fields => max (depth value) (depthOfFields fields)

end

theorem depth_le_depthOfAll {item : Json} {items : List Json} (h : item ∈ items) :
    item.depth ≤ depthOfAll items := by
  induction items with
  | nil => simp at h
  | cons other items ih =>
    rw [depthOfAll]
    rcases List.mem_cons.1 h with rfl | h
    · exact Nat.le_max_left _ _
    · exact Nat.le_trans (ih h) (Nat.le_max_right _ _)

theorem depth_le_depthOfFields {field : String × Json} {fields : List (String × Json)}
    (h : field ∈ fields) : field.2.depth ≤ depthOfFields fields := by
  induction fields with
  | nil => simp at h
  | cons other fields ih =>
    rw [depthOfFields]
    rcases List.mem_cons.1 h with rfl | h
    · exact Nat.le_max_left _ _
    · exact Nat.le_trans (ih h) (Nat.le_max_right _ _)

/-! ## Induction -/

/-- A property of documents holds of all if arrays and objects inherit it from what they hold. -/
@[elab_as_elim, induction_eliminator]
theorem induction {motive : Json → Prop} (null : motive .null) (bool : ∀ b, motive (.bool b))
    (number : ∀ n, motive (.number n)) (string : ∀ s, motive (.string s))
    (array : ∀ items, (∀ item ∈ items, motive item) → motive (.array items))
    (object : ∀ fields, (∀ field ∈ fields, motive field.2) → motive (.object fields)) :
    ∀ value, motive value
  | .null => null
  | .bool b => bool b
  | .number n => number n
  | .string s => string s
  | .array items =>
    array items fun item _ => Json.induction null bool number string array object item
  | .object fields =>
    object fields fun field _ => Json.induction null bool number string array object field.2
termination_by value => sizeOf value
decreasing_by
  · next h => have := List.sizeOf_lt_of_mem h; simp; omega
  · next h =>
    have := List.sizeOf_lt_of_mem h
    obtain ⟨key, value⟩ := field
    simp at this ⊢
    omega

end Json

end Reshape
