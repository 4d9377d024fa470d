/-!
# Sets of characters

Properties of characters come as long lists of ranges. A set is kept as an inversion list:
the increasing code points at which membership changes, so that `[a, b, c, d]` stands for
the two ranges `a ≤ n < b` and `c ≤ n < d`. The sets of this library follow Unicode 17.0.
-/

namespace Reshape.Text

/-- A set of characters, given by the increasing code points at which membership changes. -/
structure CharSet where
  changes : List Nat

namespace CharSet

/-- Whether `n` is in the set that starts `inside` and then follows the changes. -/
def coversFrom (inside : Bool) : List Nat → Nat → Bool
  | [], _ => inside
  | c :: changes, n => if n < c then inside else coversFrom (!inside) changes n

/-- Whether the character is in the set. -/
def contains (set : CharSet) (c : Char) : Bool := coversFrom false set.changes c.toNat

end CharSet

end Reshape.Text
