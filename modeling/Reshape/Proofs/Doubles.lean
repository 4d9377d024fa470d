import Reshape.Proofs.Rounding

/-!
# Integers among the doubles

Two integers are compared as the doubles that are made of them. For integers of a machine word this
file says which doubles these are, and with that when they are equal: if and only if the two
integers have the same nearest one with 53 digits (`ofInt_beq_iff`).

* When digits of a mantissa are dropped, two bits are kept of them. They suffice to round as
  `roundShift` does (`Represents`).
* `Denotes` relates an unpacked double to the integer that it is. A mantissa with all of its 53
  digits leaves one way only to write a number, so doubles that denote integers are equal when the
  integers are (`Denotes.beq_iff`).
* Negation, packing and a multiplication by one keep what is denoted. That carries the relation from
  the rounding of a mantissa to `Float.ofInt`.
-/

namespace Reshape

open Float.Model Float.Model.UnpackedFloat

/-! ## Rounding of mantissas -/

/-- The mantissa is a quotient by a power of two, and the two bits tell where the rest lies. -/
structure Represents (em : ExtendedMantissa) (m k : Nat) : Prop where
  /-- Digits are dropped at the end. -/
  mantissa : em.mantissa = m / 2 ^ k
  /-- What was dropped is at least a half. -/
  roundBit : em.roundBit ↔ 2 ^ k ≤ 2 * (m % 2 ^ k)
  /-- It is neither nothing nor a half. -/
  stickyBit : em.stickyBit ↔ m % 2 ^ k ≠ 0 ∧ 2 * (m % 2 ^ k) ≠ 2 ^ k

/-- As long as no digit is dropped, both bits are unset. -/
theorem represents_exact (m : Nat) : Represents ⟨m, false, false⟩ m 0 := by
  refine ⟨?_, ?_, ?_⟩ <;> simp [Nat.mod_one]

/-- One more digit is dropped, and what was dropped before no longer makes up a half. -/
theorem Represents.shiftRightOne {em : ExtendedMantissa} {m k : Nat} (h : Represents em m k) :
    Represents em.shiftRightOne m (k + 1) := by
  -- the digit that is dropped comes before those that were
  have hmod : m % 2 ^ (k + 1) = m % 2 ^ k + 2 ^ k * (m / 2 ^ k % 2) := by
    rw [Nat.pow_succ, Nat.mod_mul]
  have hpow : 2 ^ (k + 1) = 2 * 2 ^ k := by rw [Nat.pow_succ, Nat.mul_comm]
  have hlt : m % 2 ^ k < 2 ^ k := Nat.mod_lt m (Nat.two_pow_pos k)
  have hdigit : m / 2 ^ k % 2 = 0 ∨ m / 2 ^ k % 2 = 1 := Nat.mod_two_eq_zero_or_one _
  obtain ⟨hm, hr, hs⟩ := h
  refine ⟨?_, ?_, ?_⟩
  · unfold ExtendedMantissa.shiftRightOne
    rw [hm, Nat.div_div_eq_div_mul, ← Nat.pow_succ]
  · unfold ExtendedMantissa.shiftRightOne
    rw [hmod, hpow, hm]
    rcases hdigit with hdigit | hdigit
    · rw [hdigit]
      exact iff_of_false Bool.false_ne_true (by omega)
    · rw [hdigit]
      exact iff_of_true rfl (by omega)
  · unfold ExtendedMantissa.shiftRightOne
    rw [hmod, hpow]
    simp only [Bool.or_eq_true, hr, hs]
    rcases hdigit with hdigit | hdigit
    · rw [hdigit]
      omega
    · rw [hdigit]
      omega

theorem represents_shiftRight (m k : Nat) :
    Represents ((⟨m, false, false⟩ : ExtendedMantissa) >>> k) m k := by
  induction k with
  | zero => exact represents_exact m
  | succ k ih => exact ih.shiftRightOne

/-- The two bits are enough to round. -/
theorem Represents.roundedMantissa {em : ExtendedMantissa} {m k : Nat} (h : Represents em m k) :
    em.roundedMantissa = roundShift m k := by
  obtain ⟨mantissa, roundBit, stickyBit⟩ := em
  obtain ⟨hm, hr, hs⟩ := h
  obtain rfl : mantissa = m / 2 ^ k := hm
  have hpos : 0 < 2 ^ k := Nat.two_pow_pos k
  unfold roundShift
  cases roundBit with
  | false =>
    have hless : 2 * (m % 2 ^ k) < 2 ^ k := by simpa using hr
    rw [if_pos hless]
    cases stickyBit <;> rfl
  | true =>
    have hmore : 2 ^ k ≤ 2 * (m % 2 ^ k) := hr.1 rfl
    rw [if_neg (Nat.not_lt.2 hmore)]
    -- just a half goes to the even side
    cases stickyBit with
    | false =>
      have hhalf : 2 * (m % 2 ^ k) = 2 ^ k := by
        by_contra hne
        exact Bool.false_ne_true (hs.2 ⟨by omega, hne⟩)
      rw [if_pos hhalf]
      rfl
    | true =>
      rw [if_neg (hs.1 rfl).2]
      rfl

/-- The last of 53 digits, unless the number is too small for them. -/
theorem targetExponent_binary64 {e : Int} (h : -1021 ≤ e) :
    Format.binary64.targetExponent e = e - 53 := by
  have hmin : Format.binary64.minExponent = -1074 := by decide
  have hbits : Format.binary64.mantissaBits = 53 := rfl
  unfold Format.targetExponent
  rw [hmin, hbits]
  omega

/-- Digits are dropped until 53 are left. -/
theorem shiftToTargetExponent_binary64 {m : Nat} {e : Int} (h : -1074 ≤ m.log2 + e - 52) :
    shiftToTargetExponent Format.binary64 m e .exact
      = ((⟨m, false, false⟩ : ExtendedMantissa) >>> (m.log2 - 52), e + (m.log2 - 52 : Nat)) := by
  have hshift : ((m.log2 : Int) + 1 + e - 53 - e).toNat = m.log2 - 52 := by omega
  unfold shiftToTargetExponent shiftToExponent totalExponent
  dsimp only
  rw [targetExponent_binary64 (by omega), hshift]
  rfl

/-- If rounding has led to the next power of two, one more digit is dropped, which is a zero. -/
theorem drop_of_rounded {r : Nat} (hlow : 2 ^ 52 ≤ r) (hhigh : r ≤ 2 ^ 53) :
    2 ^ 52 ≤ r / 2 ^ (r.log2 - 52) ∧ r / 2 ^ (r.log2 - 52) < 2 ^ 53
      ∧ r / 2 ^ (r.log2 - 52) * 2 ^ (r.log2 - 52) = r := by
  rcases Nat.lt_or_eq_of_le hhigh with hlt | rfl
  · have hlog : r.log2 < 53 := (Nat.log2_lt (by omega)).2 hlt
    have hzero : r.log2 - 52 = 0 := by omega
    rw [hzero, Nat.pow_zero, Nat.div_one, Nat.mul_one]
    exact ⟨hlow, hlt, rfl⟩
  · rw [Nat.log2_two_pow]
    decide

/-- A mantissa with 53 digits or more is rounded to the nearest number with 53 digits. -/
theorem roundWithAccuracy_binary64 (s : Sign) {m : Nat} {e : Int} (hm : 2 ^ 52 ≤ m)
    (he : -1074 ≤ e) :
    ∃ (mantissa k : Nat) (hmantissa : 0 < mantissa),
      roundWithAccuracy Format.binary64 s m e .exact = .finite s mantissa (e + k) hmantissa
      ∧ 2 ^ 52 ≤ mantissa ∧ mantissa < 2 ^ 53 ∧ mantissa * 2 ^ k = nearestNat m := by
  have hlog : 52 ≤ m.log2 := (Nat.le_log2 (by omega)).2 hm
  obtain ⟨hlow, hhigh⟩ := roundShift_bounds hm
  unfold roundWithAccuracy nearestNat
  rw [shiftToTargetExponent_binary64 (by omega)]
  dsimp only
  rw [(represents_shiftRight m (m.log2 - 52)).roundedMantissa]
  generalize roundShift m (m.log2 - 52) = r at hlow hhigh
  have hlogr : 52 ≤ r.log2 := (Nat.le_log2 (by omega)).2 hlow
  -- digits are dropped twice, for the number and for what rounding has made of it
  obtain ⟨hlow', hhigh', hmul⟩ := drop_of_rounded hlow hhigh
  have hfinal := (represents_shiftRight r (r.log2 - 52)).mantissa
  rw [shiftToTargetExponent_binary64 (by omega)]
  dsimp only
  rw [dif_neg (by rw [hfinal]; omega)]
  refine ⟨r / 2 ^ (r.log2 - 52), (r.log2 - 52) + (m.log2 - 52), by omega, ?_, hlow', hhigh', ?_⟩
  · rw [finite.injEq]
    exact ⟨rfl, hfinal, by omega⟩
  · rw [Nat.pow_add, ← Nat.mul_assoc, hmul]

/-! ## Numbers with all of their digits -/

/-- The natural number `n` has a mantissa with all of its 53 digits, and the exponent `k - j`. -/
structure Normal (mantissa k j n : Nat) : Prop where
  /-- The first digit is no zero. -/
  low : 2 ^ 52 ≤ mantissa
  /-- There are not more than 53 digits. -/
  high : mantissa < 2 ^ 53
  /-- With the exponent, the mantissa is the number. -/
  value : mantissa * 2 ^ k = n * 2 ^ j

namespace Normal

variable {m m' k k' j j' n n' : Nat}

theorem pos (h : Normal m k j n) : 0 < m := Nat.lt_of_lt_of_le (Nat.two_pow_pos 52) h.low

theorem ne_zero (h : Normal m k j n) : n ≠ 0 := by
  rintro rfl
  have hzero : m * 2 ^ k = 0 := by rw [h.value, Nat.zero_mul]
  exact absurd hzero (Nat.mul_ne_zero (Nat.ne_of_gt h.pos) (Nat.ne_of_gt (Nat.two_pow_pos k)))

theorem log2_mantissa (h : Normal m k j n) : m.log2 = 52 :=
  (Nat.log2_eq_iff (Nat.ne_of_gt h.pos)).2 ⟨h.low, h.high⟩

/-- Two such numbers are equal only if they have the same mantissa and the same exponent. -/
theorem eq_iff (h : Normal m k j n) (h' : Normal m' k' j' n') :
    ((k : Int) - j = k' - j' ∧ m = m') ↔ n = n' := by
  -- with the same power of two on both sides, there are no exponents below zero
  have hvalue : m * 2 ^ (k + j') = n * 2 ^ (j + j') := by
    rw [Nat.pow_add, Nat.pow_add, ← Nat.mul_assoc, h.value, Nat.mul_assoc]
  have hvalue' : m' * 2 ^ (k' + j) = n' * 2 ^ (j + j') := by
    rw [Nat.add_comm j j', Nat.pow_add, Nat.pow_add, ← Nat.mul_assoc, h'.value, Nat.mul_assoc]
  constructor
  · rintro ⟨hexponent, rfl⟩
    have hk : k + j' = k' + j := by omega
    refine Nat.eq_of_mul_eq_mul_right (Nat.two_pow_pos (j + j')) ?_
    rw [← hvalue, ← hvalue', hk]
  · rintro rfl
    have hsame : m * 2 ^ (k + j') = m' * 2 ^ (k' + j) := hvalue.trans hvalue'.symm
    have hk : k + j' = k' + j := by
      have hlog := congrArg Nat.log2 hsame
      rw [log2_mul_two_pow (Nat.ne_of_gt h.pos), log2_mul_two_pow (Nat.ne_of_gt h'.pos),
        h.log2_mantissa, h'.log2_mantissa] at hlog
      omega
    rw [hk] at hsame
    exact ⟨by omega, Nat.eq_of_mul_eq_mul_right (Nat.two_pow_pos _) hsame⟩

/-- The exponent of a number of a machine word is neither too small nor too large. -/
theorem exponent_bounds (h : Normal m k j n) (hn : n ≤ 2 ^ 64) : j < 53 + k ∧ k ≤ 12 + j := by
  constructor
  · refine (Nat.pow_lt_pow_iff_right Nat.one_lt_two).1 ?_
    calc 2 ^ j ≤ n * 2 ^ j := Nat.le_mul_of_pos_left _ (Nat.pos_of_ne_zero h.ne_zero)
      _ = m * 2 ^ k := h.value.symm
      _ < 2 ^ 53 * 2 ^ k := Nat.mul_lt_mul_of_pos_right h.high (Nat.two_pow_pos k)
      _ = 2 ^ (53 + k) := (Nat.pow_add 2 53 k).symm
  · have hpow : 52 + k ≤ 64 + j := by
      refine (Nat.pow_le_pow_iff_right Nat.one_lt_two).1 ?_
      calc 2 ^ (52 + k) = 2 ^ 52 * 2 ^ k := Nat.pow_add 2 52 k
        _ ≤ m * 2 ^ k := Nat.mul_le_mul_right _ h.low
        _ = n * 2 ^ j := h.value
        _ ≤ 2 ^ 64 * 2 ^ j := Nat.mul_le_mul_right _ hn
        _ = 2 ^ (64 + j) := (Nat.pow_add 2 64 j).symm
    omega

end Normal

/-! ## What a double denotes -/

/-- The number is the integer, which is zero or has a mantissa with all of its digits. -/
inductive Denotes : UnpackedFloat → Int → Prop where
  | zero : Denotes (.zero .positive) 0
  | finite (s : Sign) {mantissa k j n : Nat} (hmantissa : 0 < mantissa) :
      Normal mantissa k j n → Denotes (.finite s mantissa (k - j) hmantissa) (s.apply n)

theorem natAbs_apply (s : Sign) (n : Nat) : (s.apply n).natAbs = n := by
  cases s with
  | positive => exact Int.natAbs_natCast n
  | negative => exact (Int.natAbs_neg n).trans (Int.natAbs_natCast n)

theorem apply_ne_zero (s : Sign) {n : Nat} (hn : n ≠ 0) : s.apply n ≠ 0 := by
  rwa [← Int.natAbs_ne_zero, natAbs_apply]

/-- A sign and a number other than zero make one integer. -/
theorem apply_eq_apply_iff {s s' : Sign} {n n' : Nat} (hn : n ≠ 0) :
    s.apply n = s'.apply n' ↔ s = s' ∧ n = n' := by
  constructor
  · intro h
    have habs : n = n' := by rw [← natAbs_apply s n, h, natAbs_apply]
    refine ⟨?_, habs⟩
    subst habs
    cases s with
    | positive =>
      cases s' with
      | positive => rfl
      | negative =>
        have hneg : (n : Int) = -n := h
        omega
    | negative =>
      cases s' with
      | positive =>
        have hneg : -(n : Int) = n := h
        omega
      | negative => rfl
  · rintro ⟨rfl, rfl⟩
    rfl

/-- Finite doubles are equal if all of their parts are. -/
theorem beq_finite_iff {s s' : Sign} {m m' : Nat} {e e' : Int} {hm : 0 < m} {hm' : 0 < m'} :
    (UnpackedFloat.finite s m e hm).beq (.finite s' m' e' hm') ↔ s = s' ∧ e = e' ∧ m = m' := by
  have hcompare : (compare e e').then (compare m m') = .eq ↔ e = e' ∧ m = m' := by
    rw [Ordering.then_eq_eq, Std.compare_eq_iff_eq, Std.compare_eq_iff_eq]
  have hswap : ((compare e e').then (compare m m')).swap = .eq ↔ e = e' ∧ m = m' := by
    rw [← hcompare, Ordering.swap_eq_eq]
  cases s with
  | positive =>
    cases s' with
    | positive =>
      change (some ((compare e e').then (compare m m')) == some .eq) = true ↔ _
      rw [beq_iff_eq, Option.some_inj, hcompare]
      exact (and_iff_right rfl).symm
    | negative => exact iff_of_false Bool.false_ne_true nofun
  | negative =>
    cases s' with
    | positive => exact iff_of_false Bool.false_ne_true nofun
    | negative =>
      change (some ((compare e e').then (compare m m')).swap == some .eq) = true ↔ _
      rw [beq_iff_eq, Option.some_inj, hswap]
      exact (and_iff_right rfl).symm

namespace Denotes

variable {u u' : UnpackedFloat} {n n' : Int}

/-- Doubles that denote integers are equal when these are. -/
theorem beq_iff (h : Denotes u n) (h' : Denotes u' n') : u.beq u' ↔ n = n' := by
  cases h with
  | zero =>
    cases h' with
    | zero => exact iff_of_true rfl rfl
    | finite s' _ hnormal' =>
      refine iff_of_false ?_ (Ne.symm (apply_ne_zero s' hnormal'.ne_zero))
      cases s' <;> exact Bool.false_ne_true
  | finite s _ hnormal =>
    cases h' with
    | zero =>
      refine iff_of_false ?_ (apply_ne_zero s hnormal.ne_zero)
      cases s <;> exact Bool.false_ne_true
    | finite s' _ hnormal' =>
      rw [beq_finite_iff, apply_eq_apply_iff hnormal.ne_zero, hnormal.eq_iff hnormal']

theorem neg (h : Denotes u n) (hn : n ≠ 0) : Denotes u.neg (-n) := by
  cases h with
  | zero => exact absurd rfl hn
  | @finite s mantissa k j n hmantissa hnormal =>
    have hsign : -s.apply n = (-s).apply n := by
      cases s with
      | positive => rfl
      | negative => exact Int.neg_neg _
    rw [hsign]
    exact .finite (-s) hmantissa hnormal

/-- A multiplication by one rounds once more, but there is nothing left to round. -/
theorem mul_one (h : Denotes u n) (hn : n.natAbs ≤ 2 ^ 64) :
    Denotes (UnpackedFloat.mul Format.binary64 u
      (.finite .positive (2 ^ 52) (-52) (Nat.two_pow_pos 52))) n := by
  cases h with
  | zero => exact .zero
  | @finite s m k j n hm hnormal =>
    have hlow := hnormal.low
    rw [natAbs_apply] at hn
    obtain ⟨hbelow, -⟩ := hnormal.exponent_bounds hn
    have hsign : s * .positive = s := by cases s <;> rfl
    change Denotes (roundWithAccuracy Format.binary64 (s * .positive) (m * 2 ^ 52)
      ((k : Int) - j + -52) .exact) _
    obtain ⟨m', k', hm', hround, hlow', hhigh', hvalue'⟩ :=
      roundWithAccuracy_binary64 (s * .positive) (m := m * 2 ^ 52) (e := (k : Int) - j + -52)
        (by omega) (by omega)
    have hexponent : (k : Int) - j + -52 + k' = (k + k' : Nat) - (j + 52 : Nat) := by omega
    rw [nearestNat_mul_two_pow (Nat.ne_of_gt hm), nearestNat_of_lt hnormal.high] at hvalue'
    rw [hround, hexponent, hsign]
    refine .finite s hm' ⟨hlow', hhigh', ?_⟩
    rw [Nat.add_comm k k', Nat.pow_add, ← Nat.mul_assoc, hvalue', Nat.mul_right_comm, hnormal.value,
      Nat.mul_assoc, ← Nat.pow_add]

end Denotes

/-- What is rounded to a double is the nearest integer. -/
theorem denotes_round {n j : Nat} (hn : n ≠ 0) (hlow : 2 ^ 52 ≤ n * 2 ^ j) (hj : j ≤ 1074) :
    Denotes (roundWithAccuracy Format.binary64 .positive (n * 2 ^ j) (-j) .exact)
      (nearestNat n : Nat) := by
  obtain ⟨m, k, hm, hround, hlow, hhigh, hvalue⟩ :=
    roundWithAccuracy_binary64 .positive (e := -j) hlow (by omega)
  have hexponent : -(j : Int) + k = k - j := by omega
  rw [nearestNat_mul_two_pow hn] at hvalue
  rw [hround, hexponent]
  exact .finite .positive hm ⟨hlow, hhigh, hvalue⟩

/-! ## Packing -/

theorem unpackSign_packComponents {spec : Format} {s : Sign} {e : BitVec spec.exponentBits}
    {m : BitVec spec.mantissaBitsWithoutImplicit} :
    unpackSign (packComponents spec s e m) = s.toBitVec := by
  unfold unpackSign packComponents
  ext i hi
  obtain rfl : i = 0 := by omega
  simp [BitVec.getLsbD_append, BitVec.getElem_append]

/-- The first digit of the mantissa is not stored, and comes back as a one. -/
theorem toNat_one_append (m : BitVec Format.binary64.mantissaBitsWithoutImplicit) :
    (1#1 ++ m).toNat = 2 ^ 52 + m.toNat := by
  rw [BitVec.toNat_append]
  change 1 <<< 52 ||| m.toNat = _
  rw [← Nat.shiftLeft_add_eq_or_of_lt m.isLt, Nat.one_shiftLeft]

/-- An exponent whose digits are neither all zeros nor all ones leaves one way to unpack. -/
theorem unpack_of_normal {b : BitVec Format.binary64.numBits}
    (hones : @unpackExponent Format.binary64 b ≠ -1#_)
    (hzero : @unpackExponent Format.binary64 b ≠ 0#_) :
    ∃ hmantissa, UnpackedFloat.unpack Format.binary64 b
      = .finite (Sign.ofBitVec (@unpackSign Format.binary64 b))
        (1#1 ++ @unpackMantissa Format.binary64 b).toNat
        ((@unpackExponent Format.binary64 b).toNat - 1075) hmantissa := by
  have hpos : 0 < (1#1 ++ @unpackMantissa Format.binary64 b).toNat := by
    rw [toNat_one_append]
    omega
  have hbias : (Format.binary64.exponentBias : Int) + (52 : Nat) = 1075 := rfl
  unfold UnpackedFloat.unpack
  dsimp only
  rw [if_neg hones, if_neg hzero, hbias]
  exact ⟨hpos, rfl⟩

/-- A mantissa with all of its digits and an exponent of a double are packed without loss. -/
theorem unpack_pack_finite {s : Sign} {m : Nat} {e : Int} {hm : 0 < m} (hlow : 2 ^ 52 ≤ m)
    (hhigh : m < 2 ^ 53) (he : -1074 ≤ e) (he' : e ≤ 971) :
    UnpackedFloat.unpack Format.binary64 (UnpackedFloat.pack Format.binary64 (.finite s m e hm))
      = .finite s m e hm := by
  have hlog : m.log2 = 52 := (Nat.log2_eq_iff (Nat.ne_of_gt hm)).2 ⟨hlow, hhigh⟩
  have hbias : Format.binary64.exponentBias = 1023 := rfl
  obtain ⟨b, hb⟩ : ∃ b : Nat, (e + (1023 : Nat) + (52 : Nat)).toNat = b := ⟨_, rfl⟩
  have hpack : UnpackedFloat.pack Format.binary64 (.finite s m e hm)
      = packComponents Format.binary64 s (BitVec.ofNat _ b) (BitVec.ofNat _ m) := by
    unfold UnpackedFloat.pack
    dsimp only
    rw [hbias, hb, if_neg (by change ¬2048 ≤ _; omega), if_pos (by rw [hlog]; rfl)]
  have hexponent : (BitVec.ofNat Format.binary64.exponentBits b).toNat = b := by
    rw [BitVec.toNat_ofNat]
    change b % 2048 = b
    omega
  -- the exponent is that of a normal double, neither all ones nor all zeros
  have hones : unpackExponent (UnpackedFloat.pack Format.binary64 (.finite s m e hm)) ≠ -1#_ := by
    rw [hpack, unpackExponent_packComponents]
    intro h
    have hnat : b = 2047 := hexponent.symm.trans (congrArg BitVec.toNat h)
    omega
  have hzero : unpackExponent (UnpackedFloat.pack Format.binary64 (.finite s m e hm)) ≠ 0#_ := by
    rw [hpack, unpackExponent_packComponents]
    intro h
    have hnat : b = 0 := hexponent.symm.trans (congrArg BitVec.toNat h)
    omega
  obtain ⟨_, hunpack⟩ := unpack_of_normal hones hzero
  rw [hunpack, finite.injEq, hpack, unpackSign_packComponents, unpackMantissa_packComponents,
    unpackExponent_packComponents, hexponent]
  refine ⟨?_, ?_, by omega⟩
  · cases s <;> rfl
  · rw [toNat_one_append, BitVec.toNat_ofNat]
    change 2 ^ 52 + m % 2 ^ 52 = m
    omega

/-- An integer of a machine word is packed without loss. -/
theorem Denotes.unpack_pack {u : UnpackedFloat} {n : Int} (h : Denotes u n)
    (hn : n.natAbs ≤ 2 ^ 64) : (Float.Model.pack u).unpack = u := by
  cases h with
  | zero => rfl
  | finite s hm hnormal =>
    rw [natAbs_apply] at hn
    obtain ⟨hbelow, habove⟩ := hnormal.exponent_bounds hn
    exact unpack_pack_finite hnormal.low hnormal.high (by omega) (by omega)

/-! ## Integers made doubles -/

/-- A word with at most 53 digits is a double. -/
theorem denotes_of_lt {n : Nat} (hn : n < 2 ^ 53) :
    Denotes (UnpackedFloat.ofNat Format.binary64 n) n := by
  by_cases hzero : n = 0
  · subst hzero
    exact .zero
  · have hlog : n.log2 < 53 := (Nat.log2_lt hzero).2 hn
    -- the digits are moved to the front first, so that there are 53 of them
    have hlow : 2 ^ 52 ≤ n * 2 ^ (52 - n.log2) := by
      calc 2 ^ 52 = 2 ^ n.log2 * 2 ^ (52 - n.log2) := by
            rw [← Nat.pow_add, Nat.add_sub_cancel' (by omega)]
        _ ≤ n * 2 ^ (52 - n.log2) := Nat.mul_le_mul_right _ (Nat.log2_self_le hzero)
    have hround := denotes_round hzero hlow (by omega)
    have hcompare : compare (n : Int) 0 = .gt := Int.compare_eq_gt.2 (by omega)
    have hshift : ((0 : Int) - ((n.log2 : Int) + 1 + 0 - 53)).toNat = 52 - n.log2 := by omega
    rw [nearestNat_of_lt hn] at hround
    unfold UnpackedFloat.ofNat UnpackedFloat.ofInt UnpackedFloat.normalize
    rw [hcompare]
    dsimp only
    unfold UnpackedFloat.round totalExponent decreaseExponent
    dsimp only
    rw [Int.toNat_natCast, targetExponent_binary64 (by omega), hshift, Nat.shiftLeft_eq,
      Int.zero_sub]
    exact hround

/-- Without a power of ten, a number in scientific notation is a mantissa to be rounded. -/
theorem ofScientific_zero {n : Nat} (hn : n ≠ 0) :
    UnpackedFloat.ofScientific Format.binary64 n 0
      = roundWithAccuracy Format.binary64 .positive (n * 2 ^ 53) (-(53 : Nat)) .exact := by
  have hpow : (0 : Int) ≤ 2 ^ Format.binary64.exponentBits := Int.pow_nonneg (by decide)
  have hbits : Format.binary64.mantissaBits = 53 := rfl
  have hmul {m m' : Nat} {e e' : Int} {hm : 0 < m} {hm' : 0 < m'} :
      UnpackedFloat.mul Format.binary64 (.finite .positive m e hm) (.finite .positive m' e' hm')
        = roundWithAccuracy Format.binary64 .positive (m * m') (e + e') .exact := rfl
  unfold UnpackedFloat.ofScientific
  rw [dif_neg hn, if_neg (by omega), if_neg (by omega), if_pos (Int.le_refl 0), hmul, hbits,
    Nat.shiftLeft_eq, Int.toNat_zero, Nat.pow_zero, Nat.mul_one, Int.add_zero]

/-- A word is made the double that is nearest. -/
theorem denotes_ofNat {n : Nat} (hn : n < 2 ^ 64) :
    Denotes (Float.ofNat n).toModel.unpack (nearestNat n : Nat) := by
  change Denotes (Float.ofScientific n false 0).toModel.unpack _
  unfold Float.ofScientific
  by_cases hsmall : n < 2 ^ 53
  · -- a word is made a double and multiplied by one
    have hword : n.toUInt64.toNat = n := Nat.mod_eq_of_lt hn
    have hone : (Float.Model.ofBits 0x3FF0000000000000).unpack
        = .finite .positive (2 ^ 52) (-52) (Nat.two_pow_pos 52) := rfl
    have hexact : Denotes (UnpackedFloat.ofNat Format.binary64 n.toUInt64.toNat) (n : Nat) := by
      rw [hword]
      exact denotes_of_lt hsmall
    have habs : (n : Int).natAbs ≤ 2 ^ 64 := Nat.le_of_lt hn
    rw [dif_pos ⟨hsmall, by omega⟩, nearestNat_of_lt hsmall]
    change Denotes (Float.Model.pack (UnpackedFloat.mul Format.binary64
      (Float.Model.pack (UnpackedFloat.ofNat Format.binary64 n.toUInt64.toNat)).unpack
      (Float.Model.ofBits 0x3FF0000000000000).unpack)).unpack _
    rw [hexact.unpack_pack habs, hone, (hexact.mul_one habs).unpack_pack habs]
    exact hexact.mul_one habs
  · have hzero : n ≠ 0 := by omega
    have hround := denotes_round (j := 53) hzero (by omega) (by omega)
    rw [dif_neg (fun h => hsmall h.1)]
    change Denotes (Float.Model.pack (UnpackedFloat.ofScientific Format.binary64 n 0)).unpack _
    rw [ofScientific_zero hzero, hround.unpack_pack (nearestNat_le hn)]
    exact hround

theorem denotes_ofInt {n : Int} (hn : n.natAbs < 2 ^ 64) :
    Denotes (Float.ofInt n).toModel.unpack (nearest n) := by
  cases n with
  | ofNat m =>
    have hnearest : nearest (.ofNat m) = nearestNat m := by
      cases m with
      | zero => rfl
      | succ m => exact Int.one_mul _
    rw [hnearest]
    exact denotes_ofNat hn
  | negSucc m =>
    have hnearest : nearest (.negSucc m) = -(nearestNat (m + 1) : Int) := Int.neg_one_mul _
    have hdenotes := denotes_ofNat (n := m + 1) hn
    have hneg := hdenotes.neg (Int.natCast_ne_zero.2 (nearestNat_ne_zero (Nat.succ_ne_zero m)))
    have habs : (-(nearestNat (m + 1) : Int)).natAbs ≤ 2 ^ 64 := by
      rw [Int.natAbs_neg]
      exact nearestNat_le hn
    rw [hnearest]
    change Denotes (Float.Model.pack (Float.ofNat (m + 1)).toModel.unpack.neg).unpack _
    rw [hneg.unpack_pack habs]
    exact hneg

/-- Two integers are equal as doubles if and only if they have the same nearest integer. -/
theorem ofInt_beq_iff {m n : Int} (hm : m.natAbs < 2 ^ 64) (hn : n.natAbs < 2 ^ 64) :
    Float.ofInt m == Float.ofInt n ↔ nearest m = nearest n :=
  (denotes_ofInt hm).beq_iff (denotes_ofInt hn)

end Reshape
