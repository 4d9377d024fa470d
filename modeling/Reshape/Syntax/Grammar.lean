import Reshape.Numeral
import Reshape.Syntax.Tree

/-!
# Grammar

The text form of paths, expressions, predicates, statements and programs. Operators of one strength
group to the left; from loosest to tightest they are `or`, `and`, the comparisons, `||`, `+` and
`-`, `*` and `/`.

The levels are built upon one another, except that brackets and parentheses lead back to the
loosest level. What applies inside them is handed down as an `Inner`, and `inner depth` admits
`depth` of them around one another. A text has at most as many brackets as characters, so its
length is depth enough.
-/

namespace Reshape.Grammar

open Reshape.Parser

/-- The parsers that apply inside brackets and parentheses. -/
structure Inner where
  predicate : Parser Predicate
  expression : Parser Expression

/-! ## Names and literals -/

/-- A word that no longer name begins with. -/
def keyword (w : String) : Parser Unit := do
  word w
  absent (satisfy .charClass isNameChar)

/-- The name of a field. -/
def name : Parser String :=
  String.ofList <$> accepting
    (do
      let first ← satisfy .charClass isNameStart
      return first :: (← takeWhile isNameChar))
    (!isReserved ·)

/--
An integer of 64 bits is kept exactly. Any other number becomes the nearest double, if there is one.
-/
def numberOf? (n : Numeral) : Option Number :=
  if n.isInteger && Number.exactRange n.integer then some (.int n.integer)
  else
    let x := (Decimal.ofParts n.whole (n.fraction.getD []) (n.exponent.getD 0)).toFloat
    if x.isFinite then some (.double (n.withSign x)) else none

/-- A number, with an optional minus sign. -/
def number : Parser Number := converting (Numeral.parser digits) numberOf?

/-- A text between two quotes of one kind. There are no escapes. -/
def quoted (quote : Char) : Parser String := do
  let _ ← char quote
  let cs ← takeWhile (· != quote)
  let _ ← char quote
  return String.ofList cs

/-- A value written as such. -/
def literal : Parser Literal :=
  (do keyword "null"; return .null)
    <|> (do keyword "true"; return .bool true)
    <|> (do keyword "false"; return .bool false)
    <|> (.number <$> number)
    <|> (.string <$> (quoted '"' <|> quoted '\''))

/-! ## Paths -/

/-- The index of an item. -/
def index : Parser Nat := fun text =>
  match digits text with
  | .ok (ds, rest) =>
    let n := Nat.ofDigitChars 10 ds 0
    if n < Selector.indexBound then .ok (n, rest) else .error ⟨text, .digits⟩
  | .error e => .error e

/-- What stands in brackets after a name. -/
def selector (inner : Inner) : Parser Selector := do
  let _ ← char '['
  (do spaces; let _ ← char ']'; return .each)
    <|> (do let n ← spaced index; let _ ← char ']'; return .at n)
    <|> (do let p ← inner.predicate; let _ ← char ']'; return .matching p)

/-- One step of a path. -/
def segment (inner : Inner) : Parser Segment := do
  let n ← name
  let s ← Parser.optional (selector inner)
  return .mk n (s.getD .whole)

/-- Steps between dots. A pair of brackets in front, with or without a dot, means nothing. -/
def path (inner : Inner) : Parser Path := do
  let _ ← Parser.optional (do sign "[]"; Parser.optional (char '.'))
  sepBy1 (segment inner) (char '.')

/-! ## Expressions -/

/-- Something in parentheses. -/
def parenthesized {α : Type} (p : Parser α) : Parser α := do
  let _ ← spaced (char '(')
  let a ← p
  let _ ← spaced (char ')')
  return a

/-- An operand of the tightest operators. -/
def primary (inner : Inner) : Parser Expression :=
  spaced
    ((.literal <$> literal)
      <|> (.group <$> parenthesized inner.expression)
      <|> (.path <$> path inner))

/-- An operator of arithmetic. -/
def arithmeticOp (op : ArithmeticOp) : Parser (Expression → Expression → Expression) := do
  let _ ← char op.symbol
  return .arithmetic op

/-- Products and quotients. -/
def product (inner : Inner) : Parser Expression :=
  leftAssoc (primary inner) (arithmeticOp .multiply <|> arithmeticOp .divide)

/-- Sums and differences. -/
def sum (inner : Inner) : Parser Expression :=
  leftAssoc (product inner) (arithmeticOp .add <|> arithmeticOp .subtract)

/-- Expressions. -/
def expression (inner : Inner) : Parser Expression :=
  leftAssoc (sum inner) (do sign "||"; return .concat)

/-! ## Predicates -/

/-- One of the operators, tried in turn. -/
def comparatorOf : List Comparator → Parser Comparator
  | [] => fail .word
  | [op] => do sign op.symbol; return op
  | op :: ops => (do sign op.symbol; return op) <|> comparatorOf ops

/-- An operator of comparison. -/
def comparator : Parser Comparator := comparatorOf Comparator.all

/-- A comparison of two expressions. -/
def comparison (inner : Inner) : Parser Predicate := do
  let left ← expression inner
  let op ← spaced comparator
  let right ← expression inner
  return .comparison left op right

/-- An operand of `and`. -/
def clause (inner : Inner) : Parser Predicate :=
  spaced
    (comparison inner
      <|> (.group <$> parenthesized inner.predicate)
      <|> (.prune <$> accepting (path inner) Path.narrows))

/-- Clauses joined by `and`. -/
def conjunction (inner : Inner) : Parser Predicate :=
  leftAssoc (clause inner) (do keyword "and"; return .and)

/-- Predicates. -/
def predicate (inner : Inner) : Parser Predicate :=
  leftAssoc (conjunction inner) (do keyword "or"; return .or)

/-! ## Statements -/

/-- The word and the arrow in front of a statement. -/
def marker (verb : Verb) : Parser Unit := do
  spaced (word verb.word)
  spaced (sign "->")

/-- A target and a value. -/
def assignment (inner : Inner) : Parser (Path × Expression) := do
  let target ← spaced (path inner)
  let _ ← spaced (char '=')
  return (target, ← expression inner)

/-- A statement with its marker. -/
def statement (inner : Inner) : Parser Statement :=
  (do marker .filter; return .filter (← predicate inner))
    <|> (do
      marker .map <|> marker .mute <|> marker .replace
      let (target, value) ← assignment inner
      return .assign target value)
    <|> (do
      marker .append
      let (target, value) ← assignment inner
      return .append target value)
    <|> (do
      marker .rename
      let target ← spaced (path inner)
      let _ ← spaced (char '=')
      return .rename target (← spaced (path inner)))

/-- Statements, each with an optional separator after it. -/
def program (inner : Inner) : Parser Program :=
  many1 do
    let s ← statement inner
    let _ ← Parser.optional (spaced (oneOf [';', '|']))
    return s

/-! ## Nesting -/

/-- What applies inside brackets, with at most `depth` of them around one another. -/
def inner : Nat → Inner
  | 0 => ⟨fail .charClass, fail .charClass⟩
  | depth + 1 => ⟨predicate (inner depth), expression (inner depth)⟩

/-- A parser with room for all brackets of the text. -/
def nested {α : Type} (p : Inner → Parser α) : Parser α := fun text => p (inner text.length) text

end Reshape.Grammar
