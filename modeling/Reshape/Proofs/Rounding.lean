import Mathlib.Algebra.Order.Group.Nat

/-!
# Integers with 53 digits

A double has a mantissa of 53 binary digits, so an integer with more digits is rounded when it is
made a double. This file has the integers to which it is rounded, with no doubles yet.

* `roundShift` drops digits, and `nearest` drops all but 53 and puts zeros in their place.
* Nothing is nearer (`nearestNat_nearest`), and zeros at the end do not matter
  (`nearestNat_mul_two_pow`).
* An integer that has no more than 53 digits is its own nearest integer, and that of no other one
  (`nearest_eq_iff`). Beyond that, different integers are rounded to the same.
-/

namespace Reshape

/-! ## Digits dropped from a natural number -/

/-- A number divided by a power of two and rounded, with a half to the even side. -/
def roundShift (m k : Nat) : Nat :=
  if 2 * (m % 2 ^ k) < 2 ^ k then m / 2 ^ k
  else if 2 * (m % 2 ^ k) = 2 ^ k then m / 2 ^ k + m / 2 ^ k % 2
  else m / 2 ^ k + 1

/-- The natural number with at most 53 binary digits before its zeros that is nearest. -/
def nearestNat (m : Nat) : Nat := roundShift m (m.log2 - 52) * 2 ^ (m.log2 - 52)

/-- The integer with at most 53 binary digits before its zeros that is nearest. -/
def nearest (n : Int) : Int := n.sign * nearestNat n.natAbs

/-- Nothing is rounded if only zeros are dropped. -/
theorem roundShift_mul (m k : Nat) : roundShift (m * 2 ^ k) k = m := by
  have hpos : 0 < 2 ^ k := Nat.two_pow_pos k
  unfold roundShift
  rw [Nat.mul_mod_left, Nat.mul_div_cancel m hpos, if_pos (by omega)]

theorem roundShift_zero (m : Nat) : roundShift m 0 = m := by
  simpa using roundShift_mul m 0

/-- A common factor of both sides does not matter. -/
theorem roundShift_mul_two_pow (m k j : Nat) :
    roundShift (m * 2 ^ j) (k + j) = roundShift m k := by
  have hpos : 0 < 2 ^ j := Nat.two_pow_pos j
  have hlt {a b : Nat} : a * 2 ^ j < b * 2 ^ j ↔ a < b := Nat.mul_lt_mul_right hpos
  have heq {a b : Nat} : a * 2 ^ j = b * 2 ^ j ↔ a = b := Nat.mul_left_inj (Nat.ne_of_gt hpos)
  unfold roundShift
  rw [Nat.pow_add, Nat.mul_mod_mul_right, Nat.mul_div_mul_right m _ hpos, ← Nat.mul_assoc]
  -- the comparisons that decide are between multiples of the factor
  simp only [hlt, heq]

/-- What is rounded goes to the side that is nearer. -/
theorem roundShift_cases (m k : Nat) :
    (roundShift m k = m / 2 ^ k ∧ 2 * (m % 2 ^ k) ≤ 2 ^ k)
      ∨ (roundShift m k = m / 2 ^ k + 1 ∧ 2 ^ k ≤ 2 * (m % 2 ^ k)) := by
  unfold roundShift
  split
  · next hless => exact .inl ⟨rfl, Nat.le_of_lt hless⟩
  · split
    · next hhalf =>
      rcases Nat.mod_two_eq_zero_or_one (m / 2 ^ k) with heven | hodd
      · exact .inl ⟨by rw [heven, Nat.add_zero], Nat.le_of_eq hhalf⟩
      · exact .inr ⟨by rw [hodd], Nat.le_of_eq hhalf.symm⟩
    · exact .inr ⟨rfl, by omega⟩

/-- What does not lie between a number and its rounding is not nearer to the number. -/
theorem roundShift_nearest {m k x : Nat}
    (hx : x ≤ m / 2 ^ k * 2 ^ k ∨ (m / 2 ^ k + 1) * 2 ^ k ≤ x) :
    ((m : Int) - (roundShift m k * 2 ^ k : Nat)).natAbs ≤ ((m : Int) - x).natAbs := by
  have hdiv : m / 2 ^ k * 2 ^ k + m % 2 ^ k = m := Nat.div_add_mod' m (2 ^ k)
  have hlt : m % 2 ^ k < 2 ^ k := Nat.mod_lt m (Nat.two_pow_pos k)
  rw [Nat.succ_mul] at hx
  -- the rounding is the multiple below or the one above
  rcases roundShift_cases m k with ⟨h, hr⟩ | ⟨h, hr⟩
  · rw [h]
    omega
  · rw [h, Nat.succ_mul]
    omega

/-! ## 53 digits -/

/-- Zeros at the end add to the number of digits. -/
theorem log2_mul_two_pow {m : Nat} (hm : m ≠ 0) (j : Nat) : (m * 2 ^ j).log2 = m.log2 + j := by
  rw [Nat.log2_eq_iff (Nat.mul_ne_zero hm (Nat.ne_of_gt (Nat.two_pow_pos j)))]
  constructor
  · rw [Nat.pow_add]
    exact Nat.mul_le_mul_right _ (Nat.log2_self_le hm)
  · rw [Nat.add_right_comm, Nat.pow_add]
    exact Nat.mul_lt_mul_of_pos_right Nat.lt_log2_self (Nat.two_pow_pos j)

/-- When all digits but 53 are dropped, the number that is left has 53 digits. -/
theorem div_two_pow_bounds {m : Nat} (hm : 2 ^ 52 ≤ m) :
    2 ^ 52 ≤ m / 2 ^ (m.log2 - 52) ∧ m / 2 ^ (m.log2 - 52) < 2 ^ 53 := by
  have hne : m ≠ 0 := by omega
  have hlog : 52 ≤ m.log2 := (Nat.le_log2 hne).2 hm
  constructor
  · rw [Nat.le_div_iff_mul_le (Nat.two_pow_pos _), ← Nat.pow_add, Nat.add_sub_cancel' hlog]
    exact Nat.log2_self_le hne
  · have hsum : 53 + (m.log2 - 52) = m.log2 + 1 := by omega
    rw [Nat.div_lt_iff_lt_mul (Nat.two_pow_pos _), ← Nat.pow_add, hsum]
    exact Nat.lt_log2_self

/-- Rounding may lead to the next power of two, but not beyond. -/
theorem roundShift_bounds {m : Nat} (hm : 2 ^ 52 ≤ m) :
    2 ^ 52 ≤ roundShift m (m.log2 - 52) ∧ roundShift m (m.log2 - 52) ≤ 2 ^ 53 := by
  obtain ⟨hlow, hhigh⟩ := div_two_pow_bounds hm
  rcases roundShift_cases m (m.log2 - 52) with ⟨h, -⟩ | ⟨h, -⟩ <;> omega

theorem nearestNat_of_lt {m : Nat} (h : m < 2 ^ 53) : nearestNat m = m := by
  have hlog : m.log2 - 52 = 0 := by
    by_cases hm : m = 0
    · rw [hm, Nat.log2_zero]
    · have hlt : m.log2 < 53 := (Nat.log2_lt hm).2 h
      omega
  unfold nearestNat
  rw [hlog, roundShift_zero, Nat.pow_zero, Nat.mul_one]

/-- No number with at most 53 digits before its zeros is nearer. -/
theorem nearestNat_nearest (m : Nat) {a : Nat} (ha : a < 2 ^ 53) (k : Nat) :
    ((m : Int) - nearestNat m).natAbs ≤ ((m : Int) - (a * 2 ^ k : Nat)).natAbs := by
  by_cases hm : m < 2 ^ 53
  · rw [nearestNat_of_lt hm, Int.sub_self]
    exact Nat.zero_le _
  · refine roundShift_nearest ?_
    by_cases hk : m.log2 - 52 ≤ k
    · -- both are multiples of the same power of two
      have hmul : a * 2 ^ k = a * 2 ^ (k - (m.log2 - 52)) * 2 ^ (m.log2 - 52) := by
        rw [Nat.mul_assoc, ← Nat.pow_add, Nat.sub_add_cancel hk]
      rw [hmul]
      rcases Nat.lt_or_ge (m / 2 ^ (m.log2 - 52)) (a * 2 ^ (k - (m.log2 - 52))) with h | h
      · exact .inr (Nat.mul_le_mul_right _ h)
      · exact .inl (Nat.mul_le_mul_right _ h)
    · -- with a smaller power of two, 53 digits do not suffice to come near
      refine .inl (Nat.le_of_lt ?_)
      have hsum : 53 + k ≤ 52 + (m.log2 - 52) := by omega
      calc a * 2 ^ k < 2 ^ 53 * 2 ^ k := Nat.mul_lt_mul_of_pos_right ha (Nat.two_pow_pos k)
        _ = 2 ^ (53 + k) := (Nat.pow_add 2 53 k).symm
        _ ≤ 2 ^ (52 + (m.log2 - 52)) := Nat.pow_le_pow_right Nat.two_pos hsum
        _ = 2 ^ 52 * 2 ^ (m.log2 - 52) := Nat.pow_add 2 52 _
        _ ≤ m / 2 ^ (m.log2 - 52) * 2 ^ (m.log2 - 52) :=
          Nat.mul_le_mul_right _ (div_two_pow_bounds (by omega)).1

/-- Zeros at the end stay at the end. -/
theorem nearestNat_mul_two_pow {m : Nat} (hm : m ≠ 0) (j : Nat) :
    nearestNat (m * 2 ^ j) = nearestNat m * 2 ^ j := by
  unfold nearestNat
  rw [log2_mul_two_pow hm]
  by_cases hlarge : 52 ≤ m.log2
  · have hsub : m.log2 + j - 52 = m.log2 - 52 + j := by omega
    rw [hsub, roundShift_mul_two_pow, Nat.pow_add, Nat.mul_assoc]
  · -- no digit is lost, so the number is a multiple of what it is divided by
    have hzero : m.log2 - 52 = 0 := by omega
    obtain ⟨i, hi⟩ : ∃ i, j = i + (m.log2 + j - 52) := ⟨j - (m.log2 + j - 52), by omega⟩
    have hmul : m * 2 ^ j = m * 2 ^ i * 2 ^ (m.log2 + j - 52) := by
      rw [Nat.mul_assoc, ← Nat.pow_add, ← hi]
    rw [hzero, roundShift_zero, Nat.pow_zero, Nat.mul_one]
    generalize m.log2 + j - 52 = t at hmul
    rw [hmul, roundShift_mul]

/-- The nearest of a machine word is at most the next power of two. -/
theorem nearestNat_le {n : Nat} (hn : n < 2 ^ 64) : nearestNat n ≤ 2 ^ 64 := by
  by_cases hsmall : n < 2 ^ 53
  · rw [nearestNat_of_lt hsmall]
    omega
  · have hlog : n.log2 < 64 := (Nat.log2_lt (by omega)).2 hn
    calc nearestNat n ≤ 2 ^ 53 * 2 ^ (n.log2 - 52) :=
          Nat.mul_le_mul_right _ (roundShift_bounds (by omega)).2
      _ ≤ 2 ^ 53 * 2 ^ 11 := Nat.mul_le_mul_left _ (Nat.pow_le_pow_right Nat.two_pos (by omega))
      _ = 2 ^ 64 := (Nat.pow_add 2 53 11).symm

/-- A number with more than 53 digits is not rounded to one with fewer. -/
theorem le_nearestNat {n : Nat} (hn : 2 ^ 53 ≤ n) : 2 ^ 53 ≤ nearestNat n := by
  have hlog : 53 ≤ n.log2 := (Nat.le_log2 (by omega)).2 hn
  calc 2 ^ 53 = 2 ^ 52 * 2 ^ 1 := Nat.pow_add 2 52 1
    _ ≤ 2 ^ 52 * 2 ^ (n.log2 - 52) :=
      Nat.mul_le_mul_left _ (Nat.pow_le_pow_right Nat.two_pos (by omega))
    _ ≤ nearestNat n := Nat.mul_le_mul_right _ (roundShift_bounds (by omega)).1

theorem nearestNat_ne_zero {n : Nat} (hn : n ≠ 0) : nearestNat n ≠ 0 := by
  by_cases hsmall : n < 2 ^ 53
  · rwa [nearestNat_of_lt hsmall]
  · have hlarge := le_nearestNat (Nat.le_of_not_lt hsmall)
    omega

theorem natAbs_nearest (n : Int) : (nearest n).natAbs = nearestNat n.natAbs := by
  unfold nearest
  rw [Int.natAbs_mul]
  by_cases hn : n = 0
  · subst hn
    rfl
  · rw [Int.natAbs_sign_of_ne_zero hn, Nat.one_mul]
    rfl

theorem nearest_of_lt {n : Int} (h : n.natAbs < 2 ^ 53) : nearest n = n := by
  unfold nearest
  rw [nearestNat_of_lt h, Int.sign_mul_natAbs]

/-- An integer with at most 53 digits shares its double with no other integer. -/
theorem nearest_eq_iff {m n : Int} (h : m.natAbs < 2 ^ 53 ∨ n.natAbs < 2 ^ 53) :
    nearest m = nearest n ↔ m = n := by
  have hsmall {m n : Int} (hm : m.natAbs < 2 ^ 53) (heq : nearest m = nearest n) : m = n := by
    -- the other one cannot have more digits, since its nearest would have them too
    have hn : n.natAbs < 2 ^ 53 := by
      by_contra hlarge
      have hle := le_nearestNat (Nat.le_of_not_lt hlarge)
      rw [← natAbs_nearest, ← heq, nearest_of_lt hm] at hle
      omega
    rwa [nearest_of_lt hm, nearest_of_lt hn] at heq
  refine ⟨fun heq => ?_, fun heq => heq ▸ rfl⟩
  rcases h with hm | hn
  · exact hsmall hm heq
  · exact (hsmall hn heq.symm).symm

end Reshape
