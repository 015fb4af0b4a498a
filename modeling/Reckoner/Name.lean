import Reckoner.Text.Letter
import Reckoner.Text.Numeral

/-! # Names

A name begins with a letter and goes on with letters and numerals, of any script. Variables and
functions have names. -/

namespace Reckoner.Name

/-- Whether a name can begin with the character. -/
def isStart (c : Char) : Bool := Text.isLetter c

/-- Whether a name can go on with the character. -/
def isPart (c : Char) : Bool := Text.isLetter c || Text.isNumeral c

/-- Whether the characters are a name. -/
def isName : List Char → Bool
  | [] => false
  | c :: rest => isStart c && rest.all isPart

/-- Whether a text is a valid name. -/
def valid (text : String) : Bool := isName text.toList

/-- What can begin a name can go on with it. -/
theorem isPart_of_isStart {c : Char} (start : isStart c = true) : isPart c = true := by
  unfold isStart at start
  simp [isPart, start]

/-- The characters of a name are parts of names. -/
theorem isPart_of_mem {name : List Char} (named : isName name = true) :
    ∀ c ∈ name, isPart c = true := by
  cases name with
  | nil => simp
  | cons first rest =>
    rw [isName, Bool.and_eq_true, List.all_eq_true] at named
    exact List.forall_mem_cons.2 ⟨isPart_of_isStart named.1, named.2⟩

end Reckoner.Name
