import Reckoner.Decimal

/-! # Writing numbers

A float is written with the fewest digits from which it can be read back, in positional notation and
without an exponent. The digits are found on decimal grids, the multiples of a power of ten: on the
coarsest grid with a point that reads back as the float, the point nearest to the float is taken,
the upper one of two that are equally near. -/

namespace Reckoner.Decimal

/-- The point of the grid of step `10 ^ exponent` that is nearest to a positive float, of those that
read back as the float. -/
def onGrid? (bits : Nat) (exponent : Int) : Option Decimal :=
  -- one of the two powers is one, as the exponent has one sign
  let numerator := Binary64.value bits * Nat.pow 10 (-exponent).toNat
  let denominator := Binary64.unitsPerOne * Nat.pow 10 exponent.toNat
  let below : Decimal := ⟨numerator / denominator, exponent⟩
  let above : Decimal := ⟨numerator / denominator + 1, exponent⟩
  let nearerBelow := 2 * (numerator % denominator) < denominator
  if below.magnitude = bits ∧ (nearerBelow ∨ above.magnitude ≠ bits) then some below
  else if above.magnitude = bits then some above
  else none

/-- All the digits of a float. -/
def exact (bits : Nat) : Decimal := ⟨Binary64.value bits * Nat.pow 5 1074, -1074⟩

/-- The first decimal found on one of `grids` grids, each ten times finer than the one before. -/
def search (bits : Nat) : (grids : Nat) → (exponent : Int) → Decimal
  | 0, _ => exact bits
  | grids + 1, exponent =>
    match onGrid? bits exponent with
    | some decimal => decimal
    | none => search bits grids (exponent - 1)

/-- A power of ten above a positive float, at most a hundred times as great: `0.30103` is a little
more than the logarithm of two. -/
def exponentAbove (bits : Nat) : Int :=
  ((Binary64.value bits).log2 - 1073 : Int) * 30103 / 100000 + 1

/-- The decimal of the fewest digits that reads back as a positive float. Seventeen digits are
always enough. -/
def shortest (bits : Nat) : Decimal := search bits 22 (exponentAbove bits)

/-- A decimal in positional notation. -/
def positional (decimal : Decimal) : List Char :=
  let digits := Nat.toDigits 10 decimal.digits
  match decimal.exponent with
  | .ofNat power => digits ++ List.replicate power '0'
  | .negSucc power =>
    let places := power + 1
    -- at least one digit stands before the point
    let padded := List.replicate (places + 1 - digits.length) '0' ++ digits
    let whole := padded.length - places
    padded.take whole ++ '.' :: padded.drop whole

/-- A magnitude as text. -/
def writeMagnitude (bits : Nat) : List Char :=
  if bits = 0 then ['0']
  else if bits = Binary64.infinity then ['i', 'n', 'f']
  else positional (shortest bits)

/-- A float as text. -/
def writeFloat (x : Float) : String :=
  if x.isNaN then "NaN"
  else
    let text := writeMagnitude (Binary64.magnitude x)
    String.ofList (if Binary64.isNegative x then '-' :: text else text)

/-- What is found on a grid reads back. -/
theorem magnitude_onGrid? {bits : Nat} {exponent : Int} {decimal : Decimal}
    (found : onGrid? bits exponent = some decimal) : decimal.magnitude = bits := by
  unfold onGrid? at found
  simp only at found
  split at found
  · rename_i h
    exact Option.some.inj found ▸ h.1
  · split at found
    · rename_i h
      exact Option.some.inj found ▸ h
    · cases found

end Reckoner.Decimal
