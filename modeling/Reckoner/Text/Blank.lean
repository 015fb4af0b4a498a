import Reckoner.Text.Ranges

/-! # Blanks

The characters with the property White_Space, and text without them: `withoutBlanks` drops every
one, `trim` those at the two ends. -/

namespace Reckoner.Text

/-- The code points with the property White_Space. -/
def blanks : Ranges :=
    [(0x0009, 0x000D), (0x0020, 0x0020), (0x0085, 0x0085), (0x00A0, 0x00A0),
    (0x1680, 0x1680), (0x2000, 0x200A), (0x2028, 0x2029), (0x202F, 0x202F),
    (0x205F, 0x205F), (0x3000, 0x3000)]

/-- Whether a character is white space. -/
def isBlank (c : Char) : Bool := blanks.covers c.toNat

/-- The table of blanks is in ascending order. -/
theorem blanks_ascending : blanks.ascendingFrom 0 = true := by decide +kernel

/-- The characters of a text other than blanks. -/
def withoutBlanks (text : String) : List Char := text.toList.filter fun c => !isBlank c

/-- Characters without the blanks at their beginning and end. -/
def trimmed (cs : List Char) : List Char :=
  ((cs.dropWhile isBlank).reverse.dropWhile isBlank).reverse

/-- A text without the blanks at its beginning and end. -/
def trim (text : String) : String := String.ofList (trimmed text.toList)

@[simp] theorem trim_toList (text : String) : (trim text).toList = trimmed text.toList :=
  String.toList_ofList

end Reckoner.Text
