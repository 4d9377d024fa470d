import Reshape.Decimal.Basic

/-!
# Shortest digits

The fewest decimal digits that read back as a given double, and of those the nearest to it. The
double is taken as an exact integer times a power of two; the numbers that round to it form an
interval around it, which contains its ends iff the integer is even. The grids of decimals with
1, 2, … 17 digits are tried in turn. Only the two grid points next to the double need a look: when
a point of the grid lies in the interval, so does one of these two.
-/

namespace Reshape

/-- The number `mantissa * 2 ^ exponent`. -/
structure Dyadic where
  mantissa : Nat
  exponent : Int
  /-- The next smaller double is only half as far away as the next larger one. -/
  narrow : Bool

namespace Dyadic

/-- The absolute value of a finite double. -/
def ofFloat (x : Float) : Dyadic :=
  let bits := x.toBits.toNat
  let fraction := bits % Nat.pow 2 52
  let biased : Nat := bits / Nat.pow 2 52 % Nat.pow 2 11
  if biased = 0 then ⟨fraction, -1074, false⟩
  else ⟨Nat.pow 2 52 + fraction, (biased : Int) - 1075, fraction = 0 && 1 < biased⟩

/--
The quotients `(lower, value, upper) / unit` are the ends of the interval that rounds to the double
and the double itself, counted in steps of a decimal grid.
-/
structure OnGrid where
  lower : Nat
  value : Nat
  upper : Nat
  unit : Nat

/-- The double on the grid of the multiples of `10 ^ k`, counted in quarters of its last place. -/
def onGrid (x : Dyadic) (k : Int) : OnGrid :=
  let quarter := x.exponent - 2
  let scale := Nat.pow 2 quarter.toNat * Nat.pow 10 (-k).toNat
  { lower := (4 * x.mantissa - if x.narrow then 1 else 2) * scale
    value := 4 * x.mantissa * scale
    upper := (4 * x.mantissa + 2) * scale
    unit := Nat.pow 2 (-quarter).toNat * Nat.pow 10 k.toNat }

/-- Whether the grid point `d` rounds to the double; `closed` says whether the ends do. -/
def OnGrid.holds (g : OnGrid) (closed : Bool) (d : Nat) : Bool :=
  if closed then g.lower ≤ d * g.unit && d * g.unit ≤ g.upper
  else g.lower < d * g.unit && d * g.unit < g.upper

/--
The grid point next to the double that rounds to it: of two the nearer, of two equally near the
even one.
-/
def OnGrid.nearest? (g : OnGrid) (closed : Bool) : Option Nat :=
  let below := g.value / g.unit
  let above := below + 1
  match g.holds closed below, g.holds closed above with
  | true, true =>
    match compare (2 * g.value) ((below + above) * g.unit) with
    | .lt => some below
    | .gt => some above
    | .eq => some (if below % 2 = 0 then below else above)
  | true, false => some below
  | false, true => some above
  | false, false => none

/-- The exponent `e` with `10 ^ e ≤ x < 10 ^ (e + 1)`, for a number that is not zero. -/
def leadingExponent (x : Dyadic) : Int :=
  let num := x.mantissa * Nat.pow 2 x.exponent.toNat
  let den := Nat.pow 2 (-x.exponent).toNat
  let e : Int := (Nat.toDigits 10 num).length - (Nat.toDigits 10 den).length
  if den * Nat.pow 10 e.toNat ≤ num * Nat.pow 10 (-e).toNat then e else e - 1

/-- The shortest decimal that reads back as the double, for a double that is not zero. -/
def shortest (x : Dyadic) : Decimal :=
  let closed := x.mantissa % 2 = 0
  let top := x.leadingExponent
  let onPlaces (places : Nat) : Option Decimal :=
    let k := top - places
    ((x.onGrid k).nearest? closed).map (Decimal.mk · k)
  ((List.range 17).findSome? onPlaces).getD ⟨0, 0⟩

end Dyadic

end Reshape
