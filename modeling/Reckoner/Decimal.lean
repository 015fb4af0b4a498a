import Reckoner.Binary64

/-! # Decimals

Numbers with decimal digits and a decimal exponent, and the magnitude of the binary64 float nearest
to each. -/

namespace Reckoner

/-- The number `digits * 10 ^ exponent`. -/
structure Decimal where
  digits : Nat
  exponent : Int
  deriving DecidableEq, Repr

namespace Decimal

/-- The bits of the float nearest to a decimal. Where the exponent alone shows that the number lies
beyond the floats, its power of ten is not computed. -/
def magnitude (decimal : Decimal) : Nat :=
  if decimal.digits = 0 then 0
  else match decimal.exponent with
    | .ofNat power =>
      -- the greatest float is below 10 ^ 309
      if 400 < power then Binary64.infinity
      else Binary64.nearest (decimal.digits * Nat.pow 10 power) 1
    | .negSucc power =>
      -- ten is more than 2 ^ 3, so the number is below 2 ^ -1100
      if decimal.digits.log2 + 1101 < 3 * (power + 1) then 0
      else Binary64.nearest decimal.digits (Nat.pow 10 (power + 1))

end Decimal

end Reckoner
