import Reshape.Json.WellFormed
import Reshape.Proofs.Progress

/-!
# Numbers that can be stored

A number is read only if a document could hold it: it is an integer of the exact range or a finite
double. The sign of a double is set after it was tested, so finite doubles have to stay finite when
they are negated.

A double is finite unless all bits of its exponent are set. Negation leaves the exponent as it was.
-/

namespace Reshape

/-! ## Finite doubles -/

section

open Float.Model Float.Model.UnpackedFloat

/-- The bits of the exponent. -/
def exponentField (x : Float) : BitVec Format.binary64.exponentBits :=
  @unpackExponent Format.binary64 x.toModel.toBits.toBitVec

/-- The bits of the exponent tell whether a double is finite. -/
theorem isFinite_iff (x : Float) : x.isFinite ↔ exponentField x ≠ -1#_ := by
  unfold Float.isFinite Float.Model.isFinite Float.Model.unpack UnpackedFloat.unpack
  dsimp only
  rw [← exponentField]
  -- all ones: an infinity or no number, as the mantissa says
  by_cases hones : exponentField x = -1#_
  · refine iff_of_false ?_ (not_not_intro hones)
    rw [if_pos hones]
    by_cases hmantissa : @unpackMantissa Format.binary64 x.toModel.toBits.toBitVec = 0#_
    · rw [if_pos hmantissa]
      exact Bool.false_ne_true
    · rw [if_neg hmantissa]
      exact Bool.false_ne_true
  · refine iff_of_true ?_ hones
    rw [if_neg hones]
    -- all zeros: a zero or a subnormal double
    by_cases hexponent : exponentField x = 0#_
    · rw [if_pos hexponent]
      by_cases hmantissa : @unpackMantissa Format.binary64 x.toModel.toBits.toBitVec = 0#_
      · rw [dif_pos hmantissa]
        rfl
      · rw [dif_neg hmantissa]
        rfl
    · rw [if_neg hexponent]
      rfl

/-- A mantissa with an exponent that is not too large is no infinity. -/
theorem exponent_pack {s : Sign} {m : Nat} {e : Int} {hm : 0 < m} (h : (e + 1075).toNat < 2047) :
    unpackExponent (UnpackedFloat.pack Format.binary64 (.finite s m e hm)) ≠ -1#_ := by
  have hbiased : (e + (1023 : Nat) + (52 : Nat)).toNat = (e + 1075).toNat := by omega
  have hbias : Format.binary64.exponentBias = 1023 := rfl
  unfold UnpackedFloat.pack
  dsimp only
  rw [hbias, hbiased]
  split
  · next hover =>
    change 2048 ≤ _ at hover
    omega
  · split
    · rw [unpackExponent_packComponents]
      -- the exponent fits its bits, and has not all of them set
      intro hones
      have hnat : (e + 1075).toNat % 2048 = 2047 := congrArg BitVec.toNat hones
      omega
    · rw [unpackExponent_packComponents]
      decide

/-- The negation of a finite double is finite. -/
theorem isFinite_neg {x : Float} (h : x.isFinite) : (-x).isFinite := by
  rw [isFinite_iff] at h ⊢
  have hbias : Format.binary64.exponentBias = 1023 := rfl
  change unpackExponent (UnpackedFloat.pack Format.binary64
    (UnpackedFloat.unpack Format.binary64 x.toModel.toBits.toBitVec).neg) ≠ -1#_
  unfold UnpackedFloat.unpack
  dsimp only
  rw [← exponentField, if_neg h]
  -- the negation is packed anew, so its exponent is to be found again
  by_cases hexponent : exponentField x = 0#_
  · rw [if_pos hexponent]
    by_cases hmantissa : @unpackMantissa Format.binary64 x.toModel.toBits.toBitVec = 0#_
    · rw [dif_pos hmantissa]
      change unpackExponent (packedZero Format.binary64 _) ≠ -1#_
      rw [packedZero, unpackExponent_packComponents]
      decide
    · rw [dif_neg hmantissa]
      refine exponent_pack ?_
      rw [hexponent, hbias]
      decide
  · rw [if_neg hexponent]
    refine exponent_pack ?_
    have hlt : (exponentField x).toNat < 2048 := (exponentField x).isLt
    have hne : (exponentField x).toNat ≠ 2047 := fun hones => h (BitVec.eq_of_toNat_eq hones)
    rw [hbias]
    omega

/-- A sign keeps a double finite. -/
theorem Numeral.isFinite_withSign (n : Numeral) {x : Float} (h : x.isFinite) :
    (n.withSign x).isFinite := by
  rw [Numeral.withSign]
  split
  · exact isFinite_neg h
  · exact h

end

/-! ## Written numbers -/

namespace Grammar

/-- What a written number stands for can be stored. -/
theorem numberOf?_isStorable {numeral : Numeral} {n : Number} (h : numberOf? numeral = some n) :
    n.IsStorable := by
  unfold numberOf? at h
  dsimp only at h
  split at h
  -- an integer in range is kept, and anything else is a double that was tested
  · next hrange =>
    obtain rfl := Option.some.inj h
    exact (Bool.and_eq_true_iff.1 hrange).2
  · split at h
    · next hfinite =>
      obtain rfl := Option.some.inj h
      exact numeral.isFinite_withSign hfinite
    · exact absurd h (by simp)

end Grammar

end Reshape
