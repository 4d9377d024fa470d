/-!
# Decimal numbers and their doubles

A decimal is a significand times a power of ten. This file says which double a decimal stands for
(the nearest one) and which decimal a text writes.
-/

namespace Reshape

/-- The number `significand * 10 ^ exponent`. -/
structure Decimal where
  significand : Nat
  exponent : Int

namespace Decimal

/--
The nearest double, of two equally near ones the one with the even significand, and infinity for a
number beyond the doubles. The number lies below `10 ^ size` and, unless it is zero, not below
`10 ^ (size - 1)`, which decides the extreme cases without any computation.
-/
def toFloat (d : Decimal) : Float :=
  let size := (Nat.toDigits 10 d.significand).length + d.exponent
  if d.significand = 0 ∨ size < -323 then 0
  else if 309 < size then 1 / 0
  else Float.ofScientific d.significand (d.exponent < 0) d.exponent.natAbs

/-! ## Reading -/

/-- Whether the text starts with a minus sign, and what follows the sign if there is one. -/
def splitSign : List Char → Bool × List Char
  | '-' :: rest => (true, rest)
  | '+' :: rest => (false, rest)
  | text => (false, text)

/-- The digits at the start of the text, and what follows them. -/
def splitDigits (text : List Char) : List Char × List Char :=
  (text.takeWhile Char.isDigit, text.dropWhile Char.isDigit)

/-- The digits after a point at the start of the text, and what follows them. -/
def splitFraction : List Char → List Char × List Char
  | '.' :: rest => splitDigits rest
  | text => ([], text)

/-- The number that the digits write after the sign. -/
def signed (negative : Bool) (digits : List Char) : Int :=
  if negative then -Nat.ofDigitChars 10 digits 0 else Nat.ofDigitChars 10 digits 0

/-- The power of ten that the whole text stands for: none at all, or an `e` and an integer. -/
def readExponent? : List Char → Option Int
  | [] => some 0
  | c :: rest =>
    if c = 'e' ∨ c = 'E' then
      let (negative, digits) := splitSign rest
      if digits.isEmpty || !digits.all Char.isDigit then none else some (signed negative digits)
    else none

/-- The decimal with these digits before and after the point, times a power of ten. -/
def ofParts (whole fraction : List Char) (exponent : Int) : Decimal :=
  ⟨Nat.ofDigitChars 10 (whole ++ fraction) 0, exponent - fraction.length⟩

/--
The double that a text writes: a sign, digits with a point anywhere among them, and a power of ten,
where only the digits are needed. Words are not numbers.
-/
def readFloat? (text : List Char) : Option Float := do
  let (negative, unsigned) := splitSign text
  let (whole, rest) := splitDigits unsigned
  let (fraction, rest) := splitFraction rest
  if whole.isEmpty && fraction.isEmpty then none
  let exponent ← readExponent? rest
  let x := (ofParts whole fraction exponent).toFloat
  return if negative then -x else x

end Decimal

end Reshape
