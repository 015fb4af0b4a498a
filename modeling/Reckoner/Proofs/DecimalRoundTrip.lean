import Reckoner.Decimal.Printer
import Reckoner.Proofs.NumberGrammar

/-! # Written numbers read back

The decimal found for a positive float is nearest to it again: the grids are searched for such
decimals (`magnitude_search`), and if they hold none all the digits of the float are taken, which
are its value (`magnitude_exact`). In positional notation a decimal is a number without an exponent,
so the text of a finite magnitude spells it (`exists_isUnsigned_writeMagnitude`). -/

namespace Reckoner

namespace Binary64

/-! ## Fractions in other terms -/

variable {factor numerator denominator : Nat}

/-- Rounding depends on the quotient only. -/
theorem roundQuotient_mul_mul (positive : 0 < factor) :
    roundQuotient (factor * numerator) (factor * denominator) =
      roundQuotient numerator denominator := by
  have below (a b : Nat) : 2 * (factor * a) < factor * b ↔ 2 * a < b := by
    rw [Nat.mul_left_comm, Nat.mul_lt_mul_left positive]
  have above (a b : Nat) : factor * b < 2 * (factor * a) ↔ b < 2 * a := by
    rw [Nat.mul_left_comm, Nat.mul_lt_mul_left positive]
  simp only [roundQuotient, Nat.mul_div_mul_left _ _ positive, Nat.mul_mod_mul_left, below, above]

/-- The nearest float depends on the quotient only. -/
theorem nearest_mul_mul (positive : 0 < factor) :
    nearest (factor * numerator) (factor * denominator) = nearest numerator denominator := by
  simp only [nearest, Nat.mul_assoc factor, Nat.mul_div_mul_left _ _ positive, Nat.shiftLeft_eq,
    roundQuotient_mul_mul positive]

/-- The smallest positive float is a power of a half. -/
theorem unitsPerOne_eq {power : Nat} (same : power = 1074) : unitsPerOne = 2 ^ power := by
  have shifted (power : Nat) : 1 <<< power = 2 ^ power := Nat.one_shiftLeft power
  rw [← shifted, same]
  rfl

/-- Every float other than zero has a positive value. -/
theorem value_pos {bits : Nat} (positive : 0 < bits) : 0 < value bits := by
  have significand_pos : 0 < significand bits := by
    unfold significand precision
    split <;> omega
  rw [value, Nat.shiftLeft_eq]
  exact Nat.mul_pos significand_pos (Nat.two_pow_pos _)

end Binary64

namespace Decimal

open Binary64

variable {bits : Nat}

/-- The magnitude of a multiple of a power of ten. -/
theorem magnitude_ofNat (digits power : Nat) :
    (⟨digits, .ofNat power⟩ : Decimal).magnitude =
      if digits = 0 then 0 else if 400 < power then infinity
      else nearest (digits * 10 ^ power) 1 := rfl

/-- The magnitude of a number with decimal places. -/
theorem magnitude_negSucc (digits power : Nat) :
    (⟨digits, .negSucc power⟩ : Decimal).magnitude =
      if digits = 0 then 0 else if digits.log2 + 1101 < 3 * (power + 1) then 0
      else nearest digits (10 ^ (power + 1)) := rfl

/-! ## The decimal of a float -/

/-- A multiple of a negative power of two has as many decimal places, and is taken for what it is.
-/
theorem magnitude_mul_pow_five {units power : Nat} (positive : 0 < units) (few : power < 1101) :
    (⟨units * 5 ^ (power + 1), .negSucc power⟩ : Decimal).magnitude =
      nearest units (2 ^ (power + 1)) := by
  have fives : 0 < 5 ^ (power + 1) := Nat.pow_pos (by decide)
  have some : units * 5 ^ (power + 1) ≠ 0 := (Nat.mul_pos positive fives).ne'
  -- five is more than two twice, so the number is not below the smallest float by its length
  have long : 2 * (power + 1) ≤ (units * 5 ^ (power + 1)).log2 := by
    rw [Nat.le_log2 some, Nat.pow_mul]
    calc (2 ^ 2) ^ (power + 1) ≤ 5 ^ (power + 1) := Nat.pow_le_pow_left (by decide) _
      _ ≤ units * 5 ^ (power + 1) := Nat.le_mul_of_pos_left _ positive
  have tens : 10 ^ (power + 1) = 5 ^ (power + 1) * 2 ^ (power + 1) := by
    rw [← Nat.mul_pow]
  rw [magnitude_negSucc, if_neg some, if_neg (by omega), tens, Nat.mul_comm units,
    nearest_mul_mul fives]

/-- All the digits of a float are its value in units. -/
theorem exact_eq (bits : Nat) {power : Nat} (same : power + 1 = 1074) :
    exact bits = ⟨value bits * 5 ^ (power + 1), .negSucc power⟩ := by
  have fives : Nat.pow 5 1074 = 5 ^ (power + 1) := by
    rw [← same]
    rfl
  have places : Int.negSucc power = -1074 := by omega
  rw [exact, fives, places]

/-- All the digits of a float are nearest to it. -/
theorem magnitude_exact (positive : 0 < bits) (finite : bits ≤ infinity) :
    (exact bits).magnitude = bits := by
  obtain ⟨power, same⟩ : ∃ power, power + 1 = 1074 := ⟨1073, rfl⟩
  rw [exact_eq bits same, magnitude_mul_pow_five (value_pos positive) (by omega),
    ← unitsPerOne_eq same, nearest_value finite]

/-- The search ends with a decimal that is nearest to the float. -/
theorem magnitude_search (positive : 0 < bits) (finite : bits ≤ infinity) (grids : Nat)
    (exponent : Int) : (search bits grids exponent).magnitude = bits := by
  induction grids generalizing exponent with
  | zero => exact magnitude_exact positive finite
  | succ grids ih =>
    rw [search]
    cases found : onGrid? bits exponent with
    | some decimal => exact magnitude_onGrid? found
    | none => exact ih (exponent - 1)

/-- The shortest decimal of a float is nearest to it. -/
theorem magnitude_shortest (positive : 0 < bits) (finite : bits ≤ infinity) :
    (shortest bits).magnitude = bits :=
  magnitude_search positive finite 22 (exponentAbove bits)

/-! ## Positional notation -/

/-- Digits, or digits, a point and digits. -/
inductive IsPositional : List Char → Prop
  | whole {digits} : digits ≠ [] → (∀ c ∈ digits, c.isDigit = true) → IsPositional digits
  | pointed {whole fraction} : whole ≠ [] → (∀ c ∈ whole, c.isDigit = true) → fraction ≠ [] →
      (∀ c ∈ fraction, c.isDigit = true) → IsPositional (whole ++ '.' :: fraction)

/-- In positional notation there are only digits and a point. -/
theorem IsPositional.isNumberPart {cs : List Char} (positional : IsPositional cs) :
    ∀ c ∈ cs, Token.isNumberPart c = true := by
  have part {digits : List Char} (each : ∀ c ∈ digits, c.isDigit = true) :
      ∀ c ∈ digits, Token.isNumberPart c = true := by
    intro c member
    rw [Token.isNumberPart, each c member, Bool.or_true]
  cases positional with
  | whole _ each => exact part each
  | pointed _ each _ each' =>
    rw [List.forall_mem_append, List.forall_mem_cons]
    exact ⟨part each, rfl, part each'⟩

/-- Zeros are digits. -/
theorem isDigit_of_mem_zeros {zeros : Nat} {c : Char} (member : c ∈ List.replicate zeros '0') :
    c.isDigit = true := by
  rw [List.eq_of_mem_replicate member]
  rfl

/-- The digits of a number are digits. -/
theorem isDigit_of_mem_digits {digits : Nat} {c : Char} (member : c ∈ Nat.toDigits 10 digits) :
    c.isDigit = true :=
  Nat.isDigit_of_mem_toDigits (by decide) (by decide) member

/-- Digits and zeros after them. -/
theorem isUnsigned_append_zeros (digits zeros : Nat) :
    IsUnsigned (Nat.toDigits 10 digits ++ List.replicate zeros '0') ⟨digits * 10 ^ zeros, 0⟩ := by
  have each : ∀ c ∈ Nat.toDigits 10 digits ++ List.replicate zeros '0', c.isDigit = true :=
    List.forall_mem_append.2 ⟨fun _ => isDigit_of_mem_digits, fun _ => isDigit_of_mem_zeros⟩
  have unsigned := IsUnsigned.mk (.whole each)
    (List.append_ne_nil_of_left_ne_nil Nat.toDigits_ne_nil _) .absent
  rw [Nat.ofDigitChars_append, Nat.ofDigitChars_ten_toDigits, Nat.ofDigitChars_replicate_zero,
    Nat.mul_comm, List.append_nil] at unsigned
  exact unsigned

/-- Digits with a point before the last of them. -/
theorem isUnsigned_point {digits : List Char} (each : ∀ c ∈ digits, c.isDigit = true)
    {whole power : Nat} (length : whole + (power + 1) = digits.length) :
    IsUnsigned (digits.take whole ++ '.' :: digits.drop whole)
      ⟨Nat.ofDigitChars 10 digits 0, .negSucc power⟩ := by
  have isMantissa := IsMantissa.pointed
    (fun c (member : c ∈ digits.take whole) => each c (List.mem_of_mem_take member))
    (fun c (member : c ∈ digits.drop whole) => each c (List.mem_of_mem_drop member))
  have places : (digits.drop whole).length = power + 1 := by
    rw [List.length_drop]
    omega
  rw [List.take_append_drop, places] at isMantissa
  have some : digits ≠ [] := by
    rintro rfl
    rw [List.length_nil] at length
    omega
  have unsigned := IsUnsigned.mk isMantissa some .absent
  rw [List.append_nil, Int.zero_sub] at unsigned
  exact unsigned

/-- Zeros after the digits stand for the power of ten, unless it is too great to be computed. -/
theorem magnitude_mul_pow_ten {digits power : Nat}
    (finite : (⟨digits, .ofNat power⟩ : Decimal).magnitude ≠ infinity) :
    (⟨digits * 10 ^ power, 0⟩ : Decimal).magnitude =
      (⟨digits, .ofNat power⟩ : Decimal).magnitude := by
  have product : (⟨digits * 10 ^ power, 0⟩ : Decimal).magnitude = _ :=
    magnitude_ofNat (digits * 10 ^ power) 0
  rw [magnitude_ofNat] at finite ⊢
  rw [product]
  by_cases zero : digits = 0
  · rw [if_pos zero, if_pos (by rw [zero, Nat.zero_mul])]
  · rw [if_neg zero] at finite ⊢
    have small : ¬ 400 < power := fun great => finite (if_pos great)
    rw [if_neg small, if_neg (Nat.mul_ne_zero zero (Nat.pow_pos (by decide)).ne'),
      if_neg (by decide), Nat.pow_zero, Nat.mul_one]

/-- Decimal places come after a point, with zeros before the digits if there are too few. -/
theorem exists_positional_negSucc (digits power : Nat) : ∃ padded whole,
    positional ⟨digits, .negSucc power⟩ = padded.take whole ++ '.' :: padded.drop whole ∧
      (∀ c ∈ padded, c.isDigit = true) ∧ 0 < whole ∧ whole + (power + 1) = padded.length ∧
      Nat.ofDigitChars 10 padded 0 = digits := by
  refine ⟨List.replicate (power + 1 + 1 - (Nat.toDigits 10 digits).length) '0' ++
    Nat.toDigits 10 digits, _, rfl,
    List.forall_mem_append.2 ⟨fun _ => isDigit_of_mem_zeros, fun _ => isDigit_of_mem_digits⟩,
    ?_, ?_, ?_⟩
  · rw [List.length_append, List.length_replicate]
    omega
  · rw [List.length_append, List.length_replicate]
    omega
  · rw [Nat.ofDigitChars_append, Nat.ofDigitChars_replicate_zero, Nat.mul_zero,
      Nat.ofDigitChars_ten_toDigits]

/-- In positional notation a decimal is digits, or digits, a point and digits. -/
theorem isPositional_positional (decimal : Decimal) : IsPositional (positional decimal) := by
  obtain ⟨digits, exponent⟩ := decimal
  cases exponent with
  | ofNat power =>
    exact .whole (List.append_ne_nil_of_left_ne_nil Nat.toDigits_ne_nil _)
      (List.forall_mem_append.2 ⟨fun _ => isDigit_of_mem_digits, fun _ => isDigit_of_mem_zeros⟩)
  | negSucc power =>
    obtain ⟨padded, whole, text, each, positive, length, -⟩ :=
      exists_positional_negSucc digits power
    rw [text]
    refine .pointed ?_ (fun c member => each c (List.mem_of_mem_take member)) ?_
      (fun c member => each c (List.mem_of_mem_drop member))
    · rw [ne_eq, List.take_eq_nil_iff]
      rintro (none | rfl)
      · omega
      · rw [List.length_nil] at length
        omega
    · rw [ne_eq, List.drop_eq_nil_iff]
      omega

/-- In positional notation a decimal is a number without an exponent, of the same magnitude unless
it is so great that this is infinity. -/
theorem exists_isUnsigned_positional (decimal : Decimal) (finite : decimal.magnitude ≠ infinity) :
    ∃ written, IsUnsigned (positional decimal) written ∧
      written.magnitude = decimal.magnitude := by
  obtain ⟨digits, exponent⟩ := decimal
  cases exponent with
  | ofNat power =>
    exact ⟨_, isUnsigned_append_zeros digits power, magnitude_mul_pow_ten finite⟩
  | negSucc power =>
    obtain ⟨padded, whole, text, each, -, length, rfl⟩ := exists_positional_negSucc digits power
    rw [text]
    exact ⟨_, isUnsigned_point each length, rfl⟩

/-! ## Magnitudes -/

/-- The text of a finite magnitude. -/
theorem exists_writeMagnitude (finite : bits < infinity) : ∃ decimal : Decimal,
    writeMagnitude bits = positional decimal ∧ decimal.magnitude = bits := by
  by_cases zero : bits = 0
  · subst zero
    exact ⟨⟨0, 0⟩, rfl, rfl⟩
  · refine ⟨shortest bits, ?_, magnitude_shortest (Nat.pos_of_ne_zero zero) (Nat.le_of_lt finite)⟩
    rw [writeMagnitude, if_neg zero, if_neg (Nat.ne_of_lt finite)]

/-- The text of a finite magnitude is positional. -/
theorem isPositional_writeMagnitude (finite : bits < infinity) :
    IsPositional (writeMagnitude bits) := by
  obtain ⟨decimal, text, -⟩ := exists_writeMagnitude finite
  exact text ▸ isPositional_positional decimal

/-- The text of a finite magnitude spells it. -/
theorem exists_isUnsigned_writeMagnitude (finite : bits < infinity) :
    ∃ written, IsUnsigned (writeMagnitude bits) written ∧ written.magnitude = bits := by
  obtain ⟨decimal, text, same⟩ := exists_writeMagnitude finite
  obtain ⟨written, unsigned, magnitude⟩ :=
    exists_isUnsigned_positional decimal (same ▸ Nat.ne_of_lt finite)
  exact ⟨written, text ▸ unsigned, magnitude.trans same⟩

end Decimal

end Reckoner
