import Reckoner.Binary64

/-! # Powers

`Power.pow x y` is `x` to the power `y`. The special cases (`atSpecialExponent?`, `atSpecialBase?`)
come first. Otherwise the power is two to the power of `y` times the logarithm of `x` to base two.
The logarithm is kept as the sum of two floats, the first of which has few enough digits for its
products to be exact, so that the result is off by less than one unit in the last place. -/

namespace Reckoner.Power

/-! ## The words of a float

The algorithm compares and builds floats by the upper 32 bits of their encoding, which hold the
sign, the exponent and the first twenty digits of the significand. -/

/-- The upper 32 bits of the encoding. -/
def upperWord (x : Float) : Nat := (x.toBits >>> 32).toNat

/-- The lower 32 bits of the encoding. -/
def lowerWord (x : Float) : Nat := x.toBits.toNat % 0x100000000

/-- The upper word without the sign. -/
def upperMagnitude (x : Float) : Nat := upperWord x % 0x80000000

/-- The float with the given upper and lower words. -/
def ofWords (upper lower : Nat) : Float := Float.ofBits (UInt64.ofNat (upper * 0x100000000 + lower))

/-- The float with the same upper word and a lower word of zero. -/
def leading (x : Float) : Float := ofWords (upperWord x) 0

/-- The upper word of one. -/
def oneWord : Nat := 0x3FF00000

/-- The upper word of infinity and of what is not a number. -/
def infinityWord : Nat := 0x7FF00000

/-! ## Exponents -/

/-- What matters of an exponent where the base is negative. -/
inductive Parity
  | fractional
  | odd
  | even
  deriving DecidableEq, Repr

/-- Whether an exponent is a whole number, and whether that is odd. Floats from `2 ^ 53` on are
even. -/
def parity (y : Float) : Parity :=
  let bits := Binary64.magnitude y
  let exponent := bits / Binary64.precision
  if 0x3FF + 53 ≤ exponent then .even
  else if exponent < 0x3FF then .fractional
  else
    -- the digits below `unit` are those after the point
    let unit := 1 <<< (0x3FF + 52 - exponent)
    let significand := Binary64.significand bits
    if significand % unit ≠ 0 then .fractional
    else if significand / unit % 2 = 1 then .odd
    else .even

/-- The power for exponents with a rule of their own: infinities, `1`, `-1`, `2`, and `0.5` for a
base without a sign. -/
def atSpecialExponent? (x y : Float) : Option Float :=
  if lowerWord y ≠ 0 then none
  else if upperMagnitude y = infinityWord then
    -- the base one has the power one also at an infinite exponent
    if upperMagnitude x = oneWord ∧ lowerWord x = 0 then some 1.0
    else if oneWord ≤ upperMagnitude x then some (if Binary64.isNegative y then 0.0 else y)
    else some (if Binary64.isNegative y then -y else 0.0)
  else if upperMagnitude y = oneWord then some (if Binary64.isNegative y then 1.0 / x else x)
  else if upperWord y = 0x40000000 then some (x * x)
  else if upperWord y = 0x3FE00000 ∧ Binary64.isNegative x = false then some x.sqrt
  else none

/-- The power of a base that is a zero, an infinity, `1` or `-1`. -/
def atSpecialBase? (x y : Float) : Option Float :=
  let magnitude := upperMagnitude x
  if lowerWord x = 0 ∧ (magnitude = infinityWord ∨ magnitude = 0 ∨ magnitude = oneWord) then
    let z := if Binary64.isNegative y then 1.0 / x.abs else x.abs
    if Binary64.isNegative x then
      match parity y with
      | .fractional => some (if magnitude = oneWord then 0.0 / 0.0 else z)
      | .odd => some (-z)
      | .even => some z
    else some z
  else none

/-! ## The logarithm -/

/-- A number as the sum of a float with few digits and a small correction. -/
structure Split where
  high : Float
  low : Float

/-- The natural logarithm of two. -/
def logTwo : Float := Float.ofBits 0x3FE62E42FEFA39EF

/-- The natural logarithm of two, its high part. -/
def logTwoHigh : Float := Float.ofBits 0x3FE62E4300000000

/-- The natural logarithm of two less its high part. -/
def logTwoLow : Float := Float.ofBits 0xBE205C610CA86C39

/-- The inverse of the natural logarithm of two. -/
def perLogTwo : Float := Float.ofBits 0x3FF71547652B82FE

/-- The inverse of the natural logarithm of two, its high part. -/
def perLogTwoHigh : Float := Float.ofBits 0x3FF7154760000000

/-- The inverse of the natural logarithm of two less its high part. -/
def perLogTwoLow : Float := Float.ofBits 0x3E54AE0BF85DDF44

/-- Two thirds of the inverse of the natural logarithm of two. -/
def slope : Float := Float.ofBits 0x3FEEC709DC3A03FD

/-- The high part of `slope`. -/
def slopeHigh : Float := Float.ofBits 0x3FEEC709E0000000

/-- What `slope` is more than its high part. -/
def slopeLow : Float := Float.ofBits 0xBE3E2FE0145B01F5

/-- The logarithm to base two of a number that is within `2 ^ -20` of one. -/
def logNearOne (x : Float) : Split :=
  let t := x - 1.0
  let w := (t * t) * (0.5 - t * (Float.ofBits 0x3FD5555555555555 - t * 0.25))
  let u := perLogTwoHigh * t
  let v := t * perLogTwoLow - w * perLogTwo
  let high := leading (u + v)
  ⟨high, v - (high - u)⟩

/-- A point near which the logarithm is expanded, with its logarithm. -/
structure Centre where
  point : Float
  log : Split

/-- The points are one and three halves. -/
def centres : Centre × Centre :=
  (⟨1.0, 0.0, 0.0⟩,
    ⟨1.5, Float.ofBits 0x3FE2B80340000000, Float.ofBits 0x3E4CFDEB43CFD006⟩)

/-- The series of the logarithm after its first two terms, in the square of the argument. -/
def logSeries (square : Float) : Float :=
  square * square * (Float.ofBits 0x3FE3333333333303 + square * (Float.ofBits 0x3FDB6DB6DB6FABFF
    + square * (Float.ofBits 0x3FD55555518F264D + square * (Float.ofBits 0x3FD17460A91D4101
    + square * (Float.ofBits 0x3FCD864A93C9DB65 + square * Float.ofBits 0x3FCA7E284A454EEF)))))

/-- The logarithm to base two of a positive finite number. The number is scaled into the octave
around one, and the logarithm of the scaled number is expanded in `(x - p) / (x + p)` for the nearer
centre `p`. -/
def logGeneral (x : Float) : Split :=
  -- a subnormal number is first made normal, by a factor of 2 ^ 53
  let subnormal := upperWord x < 0x00100000
  let x := if subnormal then x * 9007199254740992.0 else x
  let word := upperWord x
  let fraction := word % 0x100000
  let octave := (word / 0x100000 : Int) - 0x3FF - (if subnormal then 53 else 0)
  -- from sqrt 3 on, the number is halved, so that it lies between sqrt 3 / 2 and sqrt 3
  let octave := if 0xBB67A ≤ fraction then octave + 1 else octave
  let upper := if 0xBB67A ≤ fraction then fraction + oneWord - 0x100000 else fraction + oneWord
  -- the second centre is the nearer one above sqrt (3 / 2)
  let second := 0x3988E < fraction ∧ fraction < 0xBB67A
  let centre := if second then centres.2 else centres.1
  let x := ofWords upper (lowerWord x)
  -- s = (x - p) / (x + p), as sHigh + sRest
  let u := x - centre.point
  let v := 1.0 / (x + centre.point)
  let s := u * v
  let sHigh := leading s
  let sum := ofWords
    ((upper / 2 ||| 0x20000000) + 0x00080000 + (if second then 0x00040000 else 0)) 0
  let sumRest := x - (sum - centre.point)
  let sRest := v * ((u - sHigh * sum) - sHigh * sumRest)
  -- the logarithm of x / p is slope * s * (3 + s ^ 2 + series), computed in two parts throughout
  let square := s * s
  let series := logSeries square + sRest * (sHigh + s)
  let square := sHigh * sHigh
  let factor := leading (3.0 + square + series)
  let factorRest := series - ((factor - 3.0) - square)
  let u := sHigh * factor
  let v := sRest * factor + factorRest * s
  let product := leading (u + v)
  let productRest := v - (product - u)
  let z := slopeHigh * product
  let zRest := slopeLow * product + productRest * slope + centre.log.low
  -- the logarithm of p and the octave are added at the end
  let t := Float.ofInt octave
  let high := leading (((z + zRest) + centre.log.high) + t)
  ⟨high, zRest - (((high - t) - centre.log.high) - z)⟩

/-! ## The exponential -/

/-- A result too great for a float, with the sign of `s`. -/
def overflow (s : Float) : Float := s * 1e300 * 1e300

/-- A result too small for a float, with the sign of `s`. -/
def underflow (s : Float) : Float := s * 1e-300 * 1e-300

/-- A power of two as a float, for exponents of normal floats. -/
def twoTo (exponent : Int) : Float := ofWords ((exponent + 0x3FF).toNat * 0x100000) 0

/-- Multiplies a number between a half and two by a power of two with at most one rounding, also
where the power or the result is no normal float. -/
def scaleBy (x : Float) (exponent : Int) : Float :=
  if exponent < -1022 then x * twoTo (-969) * twoTo (exponent + 969)
  else if 1023 < exponent then x * twoTo 1023 * twoTo (exponent - 1023)
  else x * twoTo exponent

/-- The upper word as a signed number. -/
def signedUpperWord (x : Float) : Int :=
  if Binary64.isNegative x then (upperWord x : Int) - 0x100000000 else upperWord x

/-- The whole number nearest to `z`, of which `upper` is the upper word, if `z` is more than a half
away from zero; zero otherwise. -/
def nearestWhole (upper : Nat) : Int :=
  let magnitude := upper % 0x80000000
  if magnitude ≤ 0x3FE00000 then 0
  else
    let rounded := upper + (0x00100000 >>> (magnitude / 0x100000 - 0x3FE))
    let places := rounded % 0x80000000 / 0x100000 - 0x3FF
    let whole : Int := ((rounded % 0x100000 ||| 0x00100000) >>> (20 - places) : Nat)
    if 0x80000000 ≤ upper then -whole else whole

/-- Two to the power of a number between minus a half and a half given in two parts. -/
def expSmall (high low : Float) : Float :=
  let t := leading (low + high)
  let u := t * logTwoHigh
  let v := (low - (t - high)) * logTwo + t * logTwoLow
  let z := u + v
  let w := v - (z - u)
  let t := z * z
  let t1 := z - t * (Float.ofBits 0x3FC555555555553E + t * (Float.ofBits 0xBF66C16C16BEBD93
    + t * (Float.ofBits 0x3F11566AAF25DE2C + t * (Float.ofBits 0xBEBBBD41C5D26BF1
    + t * Float.ofBits 0x3E66376972BEA4D0))))
  let r := (z * t1) / (t1 - 2.0) - (w + z * w)
  1.0 - (r - z)

/-- Two to the power `high + low`, with the sign of `s`. -/
def exp (s high low : Float) : Float :=
  let z := low + high
  let upper := signedUpperWord z
  let lower := lowerWord z
  -- above 1024, or rounded to 1024 and not far enough below it
  let tooGreat := 0x40900000 ≤ upper ∧
    (0x40900000 < upper ∨ lower ≠ 0 ∨ low + Float.ofBits 0x3C971547652B82FE > z - high)
  -- below -1075, or rounded to -1075 and not above it
  let tooSmall := 0x4090CC00 ≤ upperMagnitude z ∧ Binary64.isNegative z ∧
    (upperWord z ≠ 0xC090CC00 ∨ lower ≠ 0 ∨ low ≤ z - high)
  if tooGreat then overflow s
  else if tooSmall then underflow s
  else
    let whole := nearestWhole (upperWord z)
    let small := expSmall (high - Float.ofInt whole) low
    s * scaleBy small whole

/-! ## The power -/

/-- The power of an ordinary base and exponent, where the result has the sign of `s`. -/
def general (s x y : Float) : Float :=
  let base := upperMagnitude x
  let exponent := upperMagnitude y
  -- above 2 ^ 64 no base gives a finite power; above 2 ^ 31 only those near one do
  let grows := decide (oneWord ≤ base) != Binary64.isNegative y
  if 0x43F00000 < exponent then if grows then overflow 1.0 else underflow 1.0
  else if 0x41E00000 < exponent ∧ (base < 0x3FEFFFFF ∨ oneWord < base) then
    if grows then overflow s else underflow s
  else
    let log := if 0x41E00000 < exponent then logNearOne x.abs else logGeneral x.abs
    let yHigh := leading y
    exp s (yHigh * log.high) ((y - yHigh) * log.high + y * log.low)

/-- The first number to the power of the second. -/
def pow (x y : Float) : Float :=
  if y == 0.0 then 1.0
  else if x == 1.0 then 1.0
  else if x.isNaN || y.isNaN then x + y
  else match atSpecialExponent? x y with
    | some result => result
    | none => match atSpecialBase? x y with
      | some result => result
      | none =>
        if Binary64.isNegative x then
          match parity y with
          | .fractional => 0.0 / 0.0
          | .odd => general (-1.0) x y
          | .even => general 1.0 x y
        else general 1.0 x y

end Reckoner.Power
