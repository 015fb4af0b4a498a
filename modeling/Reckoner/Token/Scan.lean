import Reckoner.Diagnostic
import Reckoner.Name
import Reckoner.Text.Blank

/-! # Scanning tokens

Splits an expression into tokens, each as long as possible. Blanks are dropped first, also those
inside numbers and names, and positions count the characters that remain. `next_text` says that a
token and what follows it are the characters scanned, and `scanFrom_cons` that the tokens of a text
are its first token and those of the rest. -/

namespace Reckoner.Token

/-- Whether a number can hold the character. -/
def isNumberPart (c : Char) : Bool := c == '.' || c.isDigit

/-- The kind of a token that is one character. -/
def symbolKind? (c : Char) : Option Kind :=
  if c = '(' then some .leftParen
  else if c = ')' then some .rightParen
  else if c = ',' then some .comma
  else (Op.ofSymbol? c).map fun _ => .operator

/-- The index of the first point that has a point before it; `seen` tells whether one precedes the
characters. -/
def secondPoint? (seen : Bool) : List Char → Option Nat
  | [] => none
  | c :: rest =>
    if c = '.' ∧ seen then some 0
    else (secondPoint? (seen || c == '.') rest).map (· + 1)

/-- The first token of the characters `c :: cs` and the characters after it, or what is wrong with
it. Numbers and names are as long as possible. -/
def next (isFunction : String → Bool) (position : Nat) (c : Char) (cs : List Char) :
    Except Diagnostic (Token × List Char) :=
  if isNumberPart c then
    let digits := c :: cs.takeWhile isNumberPart
    match secondPoint? false digits with
    | some index => .error ⟨.malformedNumber, position + index⟩
    | none => .ok (⟨.number, String.ofList digits, position⟩, cs.dropWhile isNumberPart)
  else if Name.isStart c then
    let name := String.ofList (c :: cs.takeWhile Name.isPart)
    .ok (⟨if isFunction name then .function else .variable, name, position⟩,
      cs.dropWhile Name.isPart)
  else
    match symbolKind? c with
    | some kind => .ok (⟨kind, String.ofList [c], position⟩, cs)
    | none => .error ⟨.unknownCharacter c, position⟩

variable {isFunction : String → Bool} {position : Nat} {c : Char} {cs rest : List Char}
  {token : Token}

/-- A token's text and the characters after it are the characters it was taken from. -/
theorem next_text (h : next isFunction position c cs = .ok (token, rest)) :
    token.text.toList ++ rest = c :: cs := by
  unfold next at h
  split at h
  · dsimp only at h
    split at h
    · cases h
    · injection h with h
      injection h with token_eq rest_eq
      subst token_eq rest_eq
      simp [List.takeWhile_append_dropWhile]
  · split at h
    · injection h with h
      injection h with token_eq rest_eq
      subst token_eq rest_eq
      simp [List.takeWhile_append_dropWhile]
    · split at h
      · injection h with h
        injection h with token_eq rest_eq
        subst token_eq rest_eq
        simp
      · cases h

/-- What follows a token is no longer than what followed its first character. -/
theorem next_length (h : next isFunction position c cs = .ok (token, rest)) :
    rest.length ≤ cs.length := by
  unfold next at h
  split at h
  · dsimp only at h
    split at h
    · cases h
    · injection h with h
      injection h with _ rest_eq
      exact rest_eq ▸ (List.dropWhile_sublist _).length_le
  · split at h
    · injection h with h
      injection h with _ rest_eq
      exact rest_eq ▸ (List.dropWhile_sublist _).length_le
    · split at h
      · injection h with h
        injection h with _ rest_eq
        exact rest_eq ▸ Nat.le_refl _
      · cases h

/-- The tokens of the characters from a position on, after those of `done`, the last one first. -/
def scanOnto (isFunction : String → Bool) (done : List Token) (position : Nat) :
    List Char → Except Diagnostic (List Token)
  | [] => .ok (done.reverse ++ [finish position])
  | c :: cs =>
    match _h : next isFunction position c cs with
    | .error diagnostic => .error diagnostic
    | .ok (token, rest) => scanOnto isFunction (token :: done) (position + token.text.length) rest
termination_by cs => cs.length
decreasing_by exact Nat.lt_succ_of_le (next_length _h)

/-- The tokens of the characters from a position on, closed by the end of the input. -/
def scanFrom (isFunction : String → Bool) (position : Nat) (cs : List Char) :
    Except Diagnostic (List Token) :=
  scanOnto isFunction [] position cs

/-- The tokens of an expression. A name is a function's if `isFunction` says so, a variable's
otherwise. -/
def scan (isFunction : String → Bool) (expression : String) : Except Diagnostic (List Token) :=
  scanFrom isFunction 0 (Text.withoutBlanks expression)

/-- Tokens scanned already stand before the others. -/
theorem scanOnto_eq (isFunction : String → Bool) (done : List Token) (position : Nat)
    (cs : List Char) :
    scanOnto isFunction done position cs =
      (scanFrom isFunction position cs).map (done.reverse ++ ·) := by
  unfold scanFrom
  induction cs using WellFounded.induction
    (measure fun cs : List Char => cs.length).wf generalizing done position with
  | _ cs ih =>
    cases cs with
    | nil => simp [scanOnto, Except.map]
    | cons c cs =>
      rw [scanOnto, scanOnto]
      split
      · rfl
      · rename_i token rest h
        have shorter : rest.length < (c :: cs).length := Nat.lt_succ_of_le (next_length h)
        rw [ih rest shorter, ih rest shorter [token]]
        cases scanOnto isFunction [] (position + token.text.length) rest <;> simp [Except.map]

@[simp] theorem scanFrom_nil (isFunction : String → Bool) (position : Nat) :
    scanFrom isFunction position [] = .ok [finish position] := by
  simp [scanFrom, scanOnto]

/-- The tokens of a text are its first token and the tokens of the rest. -/
theorem scanFrom_cons (isFunction : String → Bool) (position : Nat) (c : Char) (cs : List Char) :
    scanFrom isFunction position (c :: cs) =
      match next isFunction position c cs with
      | .error diagnostic => .error diagnostic
      | .ok (token, rest) =>
        (scanFrom isFunction (position + token.text.length) rest).map (token :: ·) := by
  rw [scanFrom, scanOnto]
  split
  · rename_i h; rw [h]
  · rename_i token rest h
    rw [h, scanOnto_eq]
    simp

end Reckoner.Token
