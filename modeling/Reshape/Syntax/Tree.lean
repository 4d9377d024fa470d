import Reshape.Json.Basic
import Reshape.Text.Case
import Reshape.Text.Letter

/-!
# Syntax trees

The language in which documents are queried and changed. Paths, expressions and predicates contain
each other: a path may select the items of an array by a predicate, a predicate compares
expressions, and an expression may be a path.
-/

namespace Reshape

/-- A value written in an expression. -/
inductive Literal where
  | null
  | bool (b : Bool)
  | number (n : Number)
  | string (s : String)

/-- The operators of arithmetic. -/
inductive ArithmeticOp where
  | add
  | subtract
  | multiply
  | divide
deriving DecidableEq

/-- The operators of comparison. -/
inductive Comparator where
  /-- Equal, texts regardless of case. -/
  | equal
  /-- Exactly equal. -/
  | strictEqual
  /-- The negation of `equal`. -/
  | notEqual
  /-- The negation of `strictEqual`. -/
  | strictNotEqual
  | greater
  | greaterOrEqual
  | less
  | lessOrEqual
  /-- Contains the other text, regardless of case. -/
  | includes
  /-- The negation of `includes`. -/
  | excludes
deriving DecidableEq

mutual

/-- What computes a value from a document. -/
inductive Expression where
  | literal (value : Literal)
  /-- The value or values found at a path. -/
  | path (path : List Segment)
  | arithmetic (op : ArithmeticOp) (left right : Expression)
  /-- The texts of two values, joined. -/
  | concat (left right : Expression)
  /-- An expression in parentheses. -/
  | group (inner : Expression)

/-- A condition on a document. -/
inductive Predicate where
  | comparison (left : Expression) (op : Comparator) (right : Expression)
  | and (left right : Predicate)
  | or (left right : Predicate)
  /-- A predicate in parentheses. -/
  | group (inner : Predicate)
  /-- A path that stands alone. It holds; in a filter it also narrows the arrays it leads to. -/
  | prune (path : List Segment)

/-- One step of a path: the name of a field, and which part of its value is meant. -/
inductive Segment where
  | mk (name : String) (selector : Selector)

/-- Which part of the value of a field is meant. -/
inductive Selector where
  /-- The value itself: `name`. -/
  | whole
  /-- Every item of an array: `name[]`. -/
  | each
  /-- One item of an array: `name[n]`. -/
  | at (index : Nat)
  /-- The items of an array for which the predicate holds: `name[predicate]`. -/
  | matching (predicate : Predicate)

end

/-- A path from a document to some of its parts, step by step. The empty path stays where it is. -/
abbrev Path := List Segment

namespace Segment

/-- The name of the field. -/
def name : Segment → String
  | mk name _ => name

/-- Which part of its value is meant. -/
def selector : Segment → Selector
  | mk _ selector => selector

/-- The field itself. -/
def plain (name : String) : Segment := mk name .whole

end Segment

/-- Indexes are numbers of 64 bits: they lie below this one. -/
def Selector.indexBound : Nat := 18446744073709551616

/-- A selector that picks some items of an array, and so can narrow it. -/
def Selector.narrows : Selector → Bool
  | .at _ => true
  | .matching _ => true
  | _ => false

/-- Whether the expression is a path. -/
def Expression.isPath : Expression → Bool
  | .path _ => true
  | _ => false

/-- Whether the last step of the path can narrow an array. -/
def Path.narrows (path : Path) : Bool := path.getLast?.any (·.selector.narrows)

/-- The path whose steps are the names between dots. -/
def Path.ofDotted (text : String) : Path :=
  let names := (text.toList.splitOn '.').filter (!·.isEmpty)
  names.map fun name => .plain (String.ofList name)

/-- One change of a document. -/
inductive Statement where
  /-- Keeps the items of an array for which the predicate holds. -/
  | filter (predicate : Predicate)
  /-- Sets a field to a value, or removes it when there is none. -/
  | assign (target : Path) (value : Expression)
  /-- Sets a field that is missing. -/
  | append (target : Path) (value : Expression)
  /-- Gives the value of one field to another and removes the first. -/
  | rename (target source : Path)

/-- Changes made one after the other. -/
abbrev Program := List Statement

/-! ## Words and signs -/

/-- The words that introduce statements. The middle two are other spellings of `map`. -/
inductive Verb where
  | filter
  | map
  | mute
  | replace
  | append
  | rename
deriving DecidableEq

namespace Verb

/-- How the verb is written. -/
def word : Verb → String
  | filter => "filter"
  | map => "map"
  | mute => "mute"
  | replace => "replace"
  | append => "append"
  | rename => "rename"

/-- Every verb. -/
def all : List Verb := [filter, map, mute, replace, append, rename]

/-- The verbs of assignments. -/
def assigning : List Verb := [map, mute, replace]

end Verb

/-- The verb that introduces the statement. -/
def Statement.verb : Statement → Verb
  | .filter _ => .filter
  | .assign _ _ => .map
  | .append _ _ => .append
  | .rename _ _ => .rename

/-- How the operator is written. -/
def ArithmeticOp.symbol : ArithmeticOp → Char
  | .add => '+'
  | .subtract => '-'
  | .multiply => '*'
  | .divide => '/'

/-- How the operator is written. -/
def Comparator.symbol : Comparator → String
  | .equal => "="
  | .strictEqual => "=="
  | .notEqual => "!="
  | .strictNotEqual => "!=="
  | .greater => ">"
  | .greaterOrEqual => ">="
  | .less => "<"
  | .lessOrEqual => "<="
  | .includes => "~"
  | .excludes => "!~"

/-- Every operator of comparison, longer signs before those that begin them. -/
def Comparator.all : List Comparator :=
  [.strictNotEqual, .strictEqual, .notEqual, .excludes, .greaterOrEqual, .lessOrEqual,
   .equal, .greater, .less, .includes]

/-- Words that are no names. -/
def reservedWords : List String := ["and", "or", "null", "true", "false"]

/-- A character that may start a name. -/
def isNameStart (c : Char) : Bool := Text.isAlphabetic c || c == '_' || c == '$'

/-- A character that may stand in a name. -/
def isNameChar (c : Char) : Bool :=
  Text.isAlphabetic c || Text.isNumeric c || c == '_' || c == '$'

/-- Whether the text is a reserved word, in either case. -/
def isReserved (name : List Char) : Bool := reservedWords.any fun w => Text.sameWord w.toList name

end Reshape
