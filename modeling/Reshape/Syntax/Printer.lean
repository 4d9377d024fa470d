import Reshape.Syntax.Tree
import Reshape.Json.Writer

/-!
# Written form of syntax trees

Two written forms: `Path.display` names a path in messages and leaves its predicates out, and
`Statement.print` writes a statement in full, so that it can be read again.
-/

namespace Reshape

/-! ## Paths in messages -/

/-- A selector in messages, where a predicate is only hinted at. -/
def Selector.display : Selector → List Char
  | .whole => []
  | .each => ['[', ']']
  | .at n => '[' :: Nat.toDigits 10 n ++ [']']
  | .matching _ => ['[', '.', '.', ']']

/-- A step of a path in messages. -/
def Segment.display (s : Segment) : List Char := s.name.toList ++ s.selector.display

/-- A path in messages. -/
def Path.display (path : Path) : String :=
  String.ofList (['.'].intercalate (path.map Segment.display))

/-! ## Full text -/

/-- A literal. A text with a double quote in it is written between single quotes. -/
def Literal.print : Literal → List Char
  | .null => "null".toList
  | .bool true => "true".toList
  | .bool false => "false".toList
  | .number n => n.write
  | .string s =>
    let quote := if '"' ∈ s.toList then '\'' else '"'
    quote :: s.toList ++ [quote]

mutual

/-- The text of an expression. -/
def Expression.print : Expression → List Char
  | .literal value => value.print
  | .path path => printPath path
  | .arithmetic op left right => left.print ++ ' ' :: op.symbol :: ' ' :: right.print
  | .concat left right => left.print ++ " || ".toList ++ right.print
  | .group inner => '(' :: inner.print ++ [')']

/-- The text of a predicate. -/
def Predicate.print : Predicate → List Char
  | .comparison left op right => left.print ++ ' ' :: op.symbol.toList ++ ' ' :: right.print
  | .and left right => left.print ++ " and ".toList ++ right.print
  | .or left right => left.print ++ " or ".toList ++ right.print
  | .group inner => '(' :: inner.print ++ [')']
  | .prune path => printPath path

/-- The text of a step of a path. -/
def Segment.print : Segment → List Char
  | .mk name selector => name.toList ++ selector.print

/-- The text of a selector. -/
def Selector.print : Selector → List Char
  | .whole => []
  | .each => ['[', ']']
  | .at n => '[' :: Nat.toDigits 10 n ++ [']']
  | .matching predicate => '[' :: predicate.print ++ [']']

/-- The text of a path. -/
def printPath : List Segment → List Char
  | [] => []
  | s :: path => s.print ++ if path.isEmpty then [] else '.' :: printPath path

end

/-- The text of a path. -/
def Path.print (path : Path) : List Char := printPath path

/-- The text of a statement, with its marker. -/
def Statement.print (s : Statement) : List Char :=
  s.verb.word.toList ++ " -> ".toList ++
    match s with
    | .filter predicate => predicate.print
    | .assign target value => target.print ++ " = ".toList ++ value.print
    | .append target value => target.print ++ " = ".toList ++ value.print
    | .rename target source => target.print ++ " = ".toList ++ source.print

end Reshape
