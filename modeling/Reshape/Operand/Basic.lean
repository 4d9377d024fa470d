import Reshape.Json.Fields
import Reshape.Json.Writer
import Reshape.Text.Blank

/-!
# Operands

What an expression computes. An operand is a document, except that results of arithmetic are kept
apart: they may be infinite or not a number, and what becomes of those when they are stored is a
matter of policy.
-/

namespace Reshape

/-- What becomes of a number that no document can hold. -/
inductive NonFinite where
  /-- It is stored as `null`. -/
  | storeNull
  /-- It is refused. -/
  | reject
deriving DecidableEq

/-- What an expression computes. -/
inductive Operand where
  /-- A `null`, or nothing found. -/
  | null
  | bool (b : Bool)
  /-- A number of a document or an expression. -/
  | number (n : Number)
  /-- A result of arithmetic. -/
  | float (x : Float)
  | text (s : String)
  /-- An array, or several values found. -/
  | list (items : List Operand)
  | object (fields : Fields)

namespace Operand

/-- A property of operands holds of all if lists inherit it from their items. -/
@[elab_as_elim, induction_eliminator]
theorem induction {motive : Operand → Prop} (null : motive .null) (bool : ∀ b, motive (.bool b))
    (number : ∀ n, motive (.number n)) (float : ∀ x, motive (.float x))
    (text : ∀ s, motive (.text s))
    (list : ∀ items, (∀ item ∈ items, motive item) → motive (.list items))
    (object : ∀ fields, motive (.object fields)) : ∀ operand, motive operand
  | .null => null
  | .bool b => bool b
  | .number n => number n
  | .float x => float x
  | .text s => text s
  | .list items =>
    list items fun item _ => Operand.induction null bool number float text list object item
  | .object fields => object fields
termination_by operand => sizeOf operand
decreasing_by
  next h => have := List.sizeOf_lt_of_mem h; simp; omega

/-! ## From and to documents -/

mutual

/-- A value of a document as an operand. -/
def ofJson : Json → Operand
  | .null => .null
  | .bool b => .bool b
  | .number n => .number n
  | .string s => .text s
  | .array items => .list (ofJsonAll items)
  | .object fields => .object fields

/-- Values of a document as operands. -/
def ofJsonAll : List Json → List Operand
  | [] => []
  | item :: items => ofJson item :: ofJsonAll items

end

/-- The operand for the values found at a path: nothing, one value, or a list. -/
def ofNodes : List Json → Operand
  | [] => .null
  | [node] => ofJson node
  | nodes => .list (ofJsonAll nodes)

mutual

/-- The operand as a value of a document. What cannot be stored under the policy is the error. -/
def toJson (policy : NonFinite) : Operand → Except Float Json
  | .null => .ok .null
  | .bool b => .ok (.bool b)
  | .number n => .ok (.number n)
  | .float x =>
    if x.isFinite then .ok (.number (.double x))
    else
      match policy with
      | .storeNull => .ok .null
      | .reject => .error x
  | .text s => .ok (.string s)
  | .list items => return .array (← toJsonAll policy items)
  | .object fields => .ok (.object fields)

/-- The operands as values of a document; the first that cannot be stored is the error. -/
def toJsonAll (policy : NonFinite) : List Operand → Except Float (List Json)
  | [] => .ok []
  | item :: items => do
    let item ← toJson policy item
    let items ← toJsonAll policy items
    return item :: items

end

/-! ## As text and as number -/

/-- Whether the operand is `null`. -/
def isNull : Operand → Bool
  | .null => true
  | _ => false

/-- Whether the operand is a text. -/
def isText : Operand → Bool
  | .text _ => true
  | _ => false

/-- The text of a double, be it finite or not. -/
def renderFloat (x : Float) : String :=
  if x.isFinite then String.ofList (Decimal.writeFloat x)
  else if x.isNaN then "NaN"
  else if 0 < x then "Infinity"
  else "-Infinity"

/-- The text of the operand. A `null` has none, and arrays and objects have their compact text. -/
def render : Operand → String
  | .null => ""
  | .bool b => if b then "true" else "false"
  | .number n => String.ofList n.write
  | .float x => renderFloat x
  | .text s => s
  | operand =>
    match operand.toJson .storeNull with
    | .ok value => value.compact
    | .error _ => Json.null.compact

/-- The number that the operand is, if it is one. -/
def asFloat? : Operand → Option Float
  | .number n => some n.toFloat
  | .float x => some x
  | _ => none

/--
The number that the operand counts as in arithmetic. A text that writes a finite number counts as
that number, and whatever is no number counts as zero.
-/
def toFloat : Operand → Float
  | .text s => ((Decimal.readFloat? (Text.trim s.toList)).filter Float.isFinite).getD 0
  | operand => operand.asFloat?.getD 0

end Operand

end Reshape
