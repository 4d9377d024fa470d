import Reshape.Decimal.Basic
import Reshape.Parsing

/-!
# Written numbers

The parts of a number as it is written: a minus sign, digits, a fraction, and a power of ten.
Documents and expressions share this form. They differ in the digits they admit before the point,
and in the number that the parts stand for.
-/

namespace Reshape

/-- The parts of a written number. -/
structure Numeral where
  negative : Bool
  whole : List Char
  fraction : Option (List Char)
  exponent : Option Int

namespace Numeral

open Reshape.Parser

/-- Neither fraction nor power of ten is written. -/
def isInteger (n : Numeral) : Bool := n.fraction.isNone && n.exponent.isNone

/-- The integer before the point, with its sign. -/
def integer (n : Numeral) : Int := Decimal.signed n.negative n.whole

/-- The value of the double, with the sign. -/
def withSign (n : Numeral) (x : Float) : Float := if n.negative then -x else x

/-- A power of ten. -/
def exponentParser : Parser Int := do
  let _ ← oneOf ['e', 'E']
  let sign ← Parser.optional (oneOf ['+', '-'])
  return Decimal.signed (sign == some '-') (← digits)

/-- A number whose digits before the point are read by `whole`. -/
def parser (whole : Parser (List Char)) : Parser Numeral := do
  let minus ← Parser.optional (char '-')
  let whole ← whole
  let fraction ← Parser.optional (char '.' *> digits)
  let exponent ← Parser.optional exponentParser
  return ⟨minus.isSome, whole, fraction, exponent⟩

end Numeral

end Reshape
