import Mathlib
import Reckoner.Binary64

/-! # The bits of floats

A float is its sign and its magnitude (`ofMagnitude_magnitude`). The finite floats are those below
infinity in magnitude (`magnitude_lt_infinity`), and negation only changes their sign
(`neg_ofMagnitude`). -/

namespace Reckoner.Binary64

open Float.Model UnpackedFloat

/-- A float is its sign and its magnitude. -/
theorem ofMagnitude_magnitude (x : Float) : ofMagnitude (isNegative x) (magnitude x) = x := by
  have bits : (if isNegative x then signBit + magnitude x else magnitude x) = x.toBits.toNat := by
    have bound := x.toBits.toNat_lt
    by_cases negative : signBit ≤ x.toBits.toNat
    · rw [isNegative, if_pos (decide_eq_true negative)]
      unfold magnitude signBit at *
      omega
    · rw [if_neg (by simpa [isNegative] using negative)]
      unfold magnitude signBit at *
      omega
  rw [ofMagnitude, bits, UInt64.ofNat_toNat, Float.ofBits_toBits]

/-- The field of the exponent. -/
theorem toNat_unpackExponent (bits : BitVec 64) :
    (@unpackExponent Format.binary64 bits).toNat = bits.toNat / precision % 2048 := by
  simp [unpackExponent, precision, Nat.shiftRight_eq_div_pow]

/-- The field of the mantissa. -/
theorem toNat_unpackMantissa (bits : BitVec 64) :
    (@unpackMantissa Format.binary64 bits).toNat = bits.toNat % precision := by
  simp [unpackMantissa, precision]

/-- The field of the sign. -/
theorem toNat_unpackSign (bits : BitVec 64) :
    (@unpackSign Format.binary64 bits).toNat = bits.toNat / signBit % 2 := by
  simp [unpackSign, signBit, Nat.shiftRight_eq_div_pow]

/-- The exponent is the greatest one from infinity on. -/
theorem unpackExponent_eq_iff {bits : BitVec 64} :
    @unpackExponent Format.binary64 bits = -1#_ ↔ infinity ≤ bits.toNat % signBit := by
  have greatest : @unpackExponent Format.binary64 bits = -1#_ ↔
      (@unpackExponent Format.binary64 bits).toNat = 2047 := BitVec.toNat_inj.symm
  rw [greatest, toNat_unpackExponent]
  unfold precision signBit infinity precision
  omega

/-- A finite float is below infinity in magnitude. -/
theorem magnitude_lt_infinity {x : Float} (finite : x.isFinite = true) :
    magnitude x < infinity := by
  refine Nat.lt_of_not_le fun above => ?_
  have greatest := (@unpackExponent_eq_iff x.toBits.toBitVec).2 above
  have unpacked : (UnpackedFloat.unpack Format.binary64 x.toBits.toBitVec).isFinite = true := finite
  simp only [UnpackedFloat.unpack, greatest, if_true] at unpacked
  split at unpacked <;> cases unpacked

/-! ## Negation -/

/-- Words that differ in the sign only are unpacked to opposite floats. -/
theorem unpack_neg {bits opposite : BitVec 64} (below : bits.toNat < infinity)
    (same : opposite.toNat = signBit + bits.toNat) :
    UnpackedFloat.unpack Format.binary64 opposite =
      (UnpackedFloat.unpack Format.binary64 bits).neg := by
  have exponent : @unpackExponent Format.binary64 opposite =
      @unpackExponent Format.binary64 bits := by
    refine BitVec.eq_of_toNat_eq ?_
    rw [toNat_unpackExponent, toNat_unpackExponent, same]
    unfold signBit precision
    omega
  have mantissa : @unpackMantissa Format.binary64 opposite =
      @unpackMantissa Format.binary64 bits := by
    refine BitVec.eq_of_toNat_eq ?_
    rw [toNat_unpackMantissa, toNat_unpackMantissa, same]
    unfold signBit precision
    omega
  have sign : @unpackSign Format.binary64 opposite = 1#1 := by
    refine BitVec.eq_of_toNat_eq ?_
    rw [toNat_unpackSign, same]
    unfold infinity precision signBit at *
    have one : (1#1).toNat = 1 := rfl
    omega
  have sign' : @unpackSign Format.binary64 bits = 0#1 := by
    refine BitVec.eq_of_toNat_eq ?_
    rw [toNat_unpackSign]
    unfold infinity precision signBit at *
    have zero : (0#1).toNat = 0 := rfl
    omega
  simp only [UnpackedFloat.unpack, exponent, mantissa, sign, sign']
  split
  · split <;> rfl
  · split
    · split <;> rfl
    · rfl

/-- Below infinity every word is a float. -/
theorem valid_of_lt_infinity {bits : BitVec 64} (below : bits.toNat < infinity) :
    Format.binary64.Valid bits where
  eq_packedNaN := fun greatest _ =>
    absurd (Nat.le_trans (unpackExponent_eq_iff.1 greatest) (Nat.mod_le _ _)) (Nat.not_le.2 below)

/-- A negated float has the other sign. -/
theorem neg_ofMagnitude {bits : Nat} (below : bits < infinity) :
    -ofMagnitude false bits = ofMagnitude true bits := by
  have word : (UInt64.ofNat bits).toBitVec.toNat = bits := by
    simp [infinity, precision] at *
    omega
  have opposite : (UInt64.ofNat (signBit + bits)).toBitVec.toNat = signBit + bits := by
    simp [infinity, precision, signBit] at *
    omega
  -- no float is negated by its bits: it is unpacked, negated and packed again
  have repacked : (ofMagnitude false bits).toModel.unpack =
      UnpackedFloat.unpack Format.binary64 (UInt64.ofNat bits).toBitVec :=
    congrArg (UnpackedFloat.unpack Format.binary64)
      (pack_unpack_of_valid (valid_of_lt_infinity (word.symm ▸ below)))
  have unpacked := unpack_neg (word.symm ▸ below)
    (opposite.trans (congrArg (signBit + ·) word.symm))
  show Float.ofModel (Float.Model.pack (ofMagnitude false bits).toModel.unpack.neg) = _
  rw [repacked, ← unpacked]
  rfl

end Reckoner.Binary64
