/-! # Binary64 magnitudes

The 64-bit floats of one sign, from zero to infinity, are numbered by their bits: `0` is zero, each
next number is the next float, and `infinity` is the last. `value` says which number of units of
`2 ^ -1074` such a float is, and `nearest` which float is nearest to a fraction, a tie going to the
even bits. `nearest_value` says that a float is nearest to its own value. -/

namespace Reckoner.Binary64

/-- How many floats there are between two powers of two. -/
def precision : Nat := 0x10000000000000

/-- The fraction `1 / unitsPerOne` is the smallest positive float, the unit of all of them. -/
def unitsPerOne : Nat := 1 <<< 1074

theorem unitsPerOne_pos : 0 < unitsPerOne := by
  unfold unitsPerOne
  rw [Nat.one_shiftLeft]
  exact Nat.two_pow_pos 1074

/-- The bits of infinity. -/
def infinity : Nat := 2047 * precision

/-- The bit of the sign. -/
def signBit : Nat := 0x8000000000000000

/-- The significand of a finite float: its value is the significand shifted by `scale`, in units. -/
def significand (bits : Nat) : Nat :=
  if bits < precision then bits else bits % precision + precision

/-- How far the significand of a finite float is shifted. -/
def scale (bits : Nat) : Nat := bits / precision - 1

/-- The value of a finite float in units. -/
def value (bits : Nat) : Nat := significand bits <<< scale bits

/-- A quotient rounded to the nearest whole number, a half to the even one. -/
def roundQuotient (dividend divisor : Nat) : Nat :=
  let quotient := dividend / divisor
  let remainder := dividend % divisor
  if 2 * remainder < divisor then quotient
  else if divisor < 2 * remainder then quotient + 1
  else quotient + quotient % 2

/-- The bits of the float nearest to a fraction; from half a step above the greatest finite float on
that is infinity. -/
def nearest (numerator denominator : Nat) : Nat :=
  let units := numerator * unitsPerOne
  -- the shift that leaves a significand of 53 digits, or none where there are fewer
  let shift := (units / denominator).log2 - 52
  min infinity (shift * precision + roundQuotient units (denominator <<< shift))

/-- The magnitude of a float: its bits without the sign. -/
def magnitude (x : Float) : Nat := x.toBits.toNat % signBit

/-- Whether the sign of a float is set. -/
def isNegative (x : Float) : Bool := decide (signBit ≤ x.toBits.toNat)

/-- The float of a sign and a magnitude. -/
def ofMagnitude (negative : Bool) (bits : Nat) : Float :=
  Float.ofBits (UInt64.ofNat (if negative then signBit + bits else bits))

/-! ## Values are represented exactly -/

/-- A multiple of the divisor is divided exactly. -/
theorem roundQuotient_mul (quotient : Nat) {divisor : Nat} (positive : 0 < divisor) :
    roundQuotient (quotient * divisor) divisor = quotient := by
  simp [roundQuotient, Nat.mul_div_cancel _ positive, positive]

/-- The bits of a float are its significand counted from the beginning of its scale. -/
theorem scale_mul_add_significand (bits : Nat) :
    scale bits * precision + significand bits = bits := by
  unfold scale significand
  have split := Nat.div_add_mod bits precision
  split
  · rename_i small
    simp [Nat.div_eq_of_lt small]
  · rename_i large
    have : 1 ≤ bits / precision :=
      (Nat.one_le_div_iff (by decide)).2 (Nat.le_of_not_lt large)
    rw [Nat.sub_mul, Nat.mul_comm]
    have : precision ≤ precision * (bits / precision) := Nat.le_mul_of_pos_right _ this
    omega

/-- A significand has at most 53 bits, and all 53 unless the scale is the smallest. -/
theorem significand_bounds (bits : Nat) :
    significand bits < 2 * precision ∧ (scale bits = 0 ∨ precision ≤ significand bits) := by
  unfold scale significand
  have : bits % precision < precision := Nat.mod_lt _ (by decide)
  split
  · rename_i small
    exact ⟨by omega, .inl (by simp [Nat.div_eq_of_lt small])⟩
  · exact ⟨by omega, .inr (by omega)⟩

/-- The scale of a float can be found from its value. -/
theorem log2_value (bits : Nat) : (value bits).log2 - 52 = scale bits := by
  obtain ⟨upper, lower⟩ := significand_bounds bits
  have pow_pos : 0 < 2 ^ scale bits := Nat.two_pow_pos _
  have below : value bits < 2 ^ (scale bits + 53) := by
    rw [value, Nat.shiftLeft_eq, Nat.pow_add, Nat.mul_comm]
    exact Nat.mul_lt_mul_of_pos_left upper pow_pos
  rcases lower with zero | lower
  -- without a shift the value is the significand and has at most 53 digits
  · have : (value bits).log2 < scale bits + 53 := by
      by_cases h : value bits = 0
      · rw [h, Nat.log2_zero]; omega
      · exact (Nat.log2_lt h).2 below
    omega
  -- otherwise it has exactly `scale bits + 53` digits
  · have above : 2 ^ (scale bits + 52) ≤ value bits := by
      rw [value, Nat.shiftLeft_eq, Nat.pow_add, Nat.mul_comm]
      exact Nat.mul_le_mul_right _ lower
    have nonzero : value bits ≠ 0 := by
      have := Nat.two_pow_pos (scale bits + 52)
      omega
    have upper := (Nat.log2_lt nonzero).2 below
    have lower := (Nat.le_log2 nonzero).2 above
    omega

/-- The float nearest to the value of a float is that float. -/
theorem nearest_value {bits : Nat} (finite : bits ≤ infinity) :
    nearest (value bits) unitsPerOne = bits := by
  have positive := unitsPerOne_pos
  simp only [nearest]
  rw [Nat.mul_div_cancel _ positive, log2_value, value, Nat.shiftLeft_eq, Nat.shiftLeft_eq,
    Nat.mul_comm unitsPerOne, Nat.mul_assoc,
    roundQuotient_mul _ (Nat.mul_pos (Nat.two_pow_pos _) positive), scale_mul_add_significand,
    Nat.min_eq_right finite]

end Reckoner.Binary64
