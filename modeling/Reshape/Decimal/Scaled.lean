import Reshape.Decimal.Basic

/-!
# Doubles by scaling

Documents are read by a quicker rule than the nearest double: as many digits as fit into 64 bits
are taken as an integer, the integer is rounded to a double, and the double is multiplied or
divided by a power of ten in double arithmetic. Powers of ten up to 308 are used in one step,
larger divisors in several.
-/

namespace Reshape.Decimal

/-- The double nearest to a power of ten. -/
def powerOfTen (n : Nat) : Float := Float.ofScientific 1 false n

/-- Takes digits onto a number as long as the result fits into 64 bits; the rest is left over. -/
def absorb (n : Nat) : List Char → Nat × List Char
  | [] => (n, [])
  | c :: digits =>
    let next := 10 * n + (c.toNat - '0'.toNat)
    if next < Nat.pow 2 64 then absorb next digits else (n, c :: digits)

/-- Divides by `10 ^ k`, in steps of at most 308 powers. -/
def shrink (x : Float) (k : Nat) : Float :=
  if k ≤ 308 then x / powerOfTen k
  else if x == 0 then x
  else shrink (x / powerOfTen 308) (k - 308)
termination_by k

/-- The integer times a power of ten; nothing when the result is beyond the doubles. -/
def scale? (significand : Nat) (exponent : Int) : Option Float :=
  let x := Float.ofNat significand
  if exponent < 0 then some (shrink x exponent.natAbs)
  else if exponent ≤ 308 then
    let y := x * powerOfTen exponent.natAbs
    if y.isFinite then some y else none
  else if x == 0 then some x
  else none

/--
The double for digits before and after the point, and a power of ten. Digits before the point that
are not taken count as powers of ten, those after the point do not count. Powers beyond 32 bits are
out of reach, whatever the digits.
-/
def scaleParts? (whole fraction : List Char) (exponent : Int) : Option Float :=
  let (n, left) := absorb 0 whole
  let (significand, unused) := absorb n fraction
  if exponent.natAbs < Nat.pow 2 31 then
    scale? significand (exponent + left.length - (fraction.length - unused.length))
  else if significand ≠ 0 ∧ 0 < exponent then none
  else some 0

end Reshape.Decimal
