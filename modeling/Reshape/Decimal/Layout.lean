import Reshape.Decimal.Shortest

/-!
# The text of a double

A layout holds the choices that a format leaves open once the digits are known. There is one
layout here, that of documents and of all texts computed from them.
-/

namespace Reshape.Decimal

/-- The digits of a number without the zeros at their end, and the exponent of the first of them. -/
structure Scientific where
  digits : List Char
  exponent : Int

/-- The digits of a decimal. Zero has the one digit `0`. -/
def toScientific (d : Decimal) : Scientific :=
  let digits := Nat.toDigits 10 d.significand
  let kept := (digits.reverse.dropWhile (· == '0')).reverse
  ⟨if kept.isEmpty then ['0'] else kept, d.exponent + digits.length - 1⟩

/-- The choices of a number format. -/
structure Layout where
  /-- The least exponent that is written with a point only. -/
  least : Int
  /-- The least exponent above that is written with a power of ten again. -/
  bound : Int

/-- Numbers from 0.00001 up to, not including, 10000000000000000 are written with a point only. -/
def Layout.document : Layout := ⟨-5, 16⟩

/-- The text of an integer. -/
def writeInt : Int → List Char
  | .ofNat n => Nat.toDigits 10 n
  | .negSucc n => '-' :: Nat.toDigits 10 (n + 1)

/-- The number with a point and at least one digit on either side of it. -/
def Scientific.positional (s : Scientific) : List Char :=
  if s.exponent < 0 then
    '0' :: '.' :: List.replicate (-s.exponent - 1).toNat '0' ++ s.digits
  else
    let places := s.exponent.toNat + 1
    let whole := s.digits.take places ++ List.replicate (places - s.digits.length) '0'
    let fraction := s.digits.drop places
    whole ++ '.' :: if fraction.isEmpty then ['0'] else fraction

/-- The number with one digit before the point, and a signed power of ten. -/
def Scientific.exponential (s : Scientific) : List Char :=
  let power := if s.exponent < 0 then writeInt s.exponent else '+' :: writeInt s.exponent
  match s.digits with
  | [] => 'e' :: power
  | [d] => d :: 'e' :: power
  | d :: more => d :: '.' :: more ++ 'e' :: power

/-- The number in the form that the layout chooses for its size. -/
def Layout.write (layout : Layout) (s : Scientific) : List Char :=
  if layout.least ≤ s.exponent ∧ s.exponent < layout.bound then s.positional else s.exponential

/-- The text of a finite double. Zero keeps its sign. -/
def writeFloat (x : Float) : List Char :=
  let negative := x.toBits.toNat / Nat.pow 2 63 = 1
  let size := Dyadic.ofFloat x
  let s := if size.mantissa = 0 then ⟨['0'], 0⟩ else size.shortest.toScientific
  if negative then '-' :: Layout.document.write s else Layout.document.write s

end Reshape.Decimal
