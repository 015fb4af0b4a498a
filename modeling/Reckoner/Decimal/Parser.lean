import Reckoner.Decimal

/-! # Reading numbers

A number is written as an optional sign and either digits, with an optional point among or beside
them and an optional exponent, or one of the words `inf`, `infinity` and `nan` in letters of any
case. The whole text has to be the number, and its value is the nearest float. -/

namespace Reckoner.Decimal

/-- Splits off a sign and tells whether it is a minus. -/
def splitSign : List Char → Bool × List Char
  | '-' :: rest => (true, rest)
  | '+' :: rest => (false, rest)
  | rest => (false, rest)

/-- The exponent that the characters after the digits spell; nothing spells zero. -/
def readExponent? : List Char → Option Int
  | [] => some 0
  | c :: rest =>
    if c = 'e' ∨ c = 'E' then
      let (negative, digits) := splitSign rest
      if digits ≠ [] ∧ digits.all Char.isDigit then
        let power : Int := Nat.ofDigitChars 10 digits 0
        some (if negative then -power else power)
      else none
    else none

/-- Splits off a point and the digits that follow it. -/
def splitFraction : List Char → List Char × List Char
  | '.' :: rest => (rest.takeWhile Char.isDigit, rest.dropWhile Char.isDigit)
  | rest => ([], rest)

/-- The decimal that the characters spell: digits with at most one point and at least one digit, and
an optional exponent. -/
def readUnsigned? (cs : List Char) : Option Decimal :=
  let whole := cs.takeWhile Char.isDigit
  let (fraction, rest) := splitFraction (cs.dropWhile Char.isDigit)
  if whole = [] ∧ fraction = [] then none
  else (readExponent? rest).map fun power =>
    ⟨Nat.ofDigitChars 10 (whole ++ fraction) 0, power - fraction.length⟩

/-- The float that a text spells. -/
def readFloat? (text : String) : Option Float :=
  let (negative, body) := splitSign text.toList
  let word := String.ofList (body.map Char.toLower)
  if word = "inf" ∨ word = "infinity" then
    some (Binary64.ofMagnitude negative Binary64.infinity)
  else if word = "nan" then some (0.0 / 0.0)
  else (readUnsigned? body).map fun decimal =>
    Binary64.ofMagnitude negative decimal.magnitude

end Reckoner.Decimal
