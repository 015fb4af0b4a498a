import Reckoner.Proofs.NumberGrammar
import Reckoner.Proofs.Pointing

/-! # The numbers of expressions

There are two grammars of numbers. Scanning takes digits with at most one point
(`Token.WellFormed`). Reading takes signs, exponents and words as well, but it insists on a digit
(`Decimal.Spells`). On what scanning takes the two differ in one text only, the point by itself:
every other number of an expression is read, and read from its digits (`Token.ReadsPlainly`). So an
expression with a value has no bare point, and a number that is reported as malformed is the first
bare point of its expression (`Calculator.calculate_barePoints`). -/

namespace Reckoner

/-! ## Plain numbers -/

namespace Decimal

/-- Digits with a point or without, and the float nearest to them. -/
inductive SpellsPlainly : List Char → Float → Prop
  | mk {mantissa digits places} : IsMantissa mantissa digits places → digits ≠ [] →
      SpellsPlainly mantissa (Binary64.ofMagnitude false
        (⟨Nat.ofDigitChars 10 digits 0, -(places : Int)⟩ : Decimal).magnitude)

/-- No piece of the characters is a sign, an exponent or a word. -/
structure Unadorned (cs : List Char) : Prop where
  sign : ∀ {piece negative}, piece <:+: cs → IsSign piece negative → piece = []
  exponent : ∀ {piece power}, piece <:+: cs → IsExponent piece power → piece = []
  word : ∀ {piece text}, piece <:+: cs → text ∈ words → piece.map Char.toLower ≠ text.toList

variable {cs : List Char} {x : Float}

/-- Digits and points are no sign. -/
theorem IsSign.eq_nil_of_parts {negative : Bool} (signed : IsSign cs negative)
    (parts : ∀ c ∈ cs, Token.isNumberPart c = true) : cs = [] := by
  cases signed with
  | absent => rfl
  | plus => exact absurd (parts '+' (List.mem_singleton.2 rfl)) (by decide)
  | minus => exact absurd (parts '-' (List.mem_singleton.2 rfl)) (by decide)

/-- Digits and points are no exponent. -/
theorem IsExponent.eq_nil_of_parts {power : Int} (exponent : IsExponent cs power)
    (parts : ∀ c ∈ cs, Token.isNumberPart c = true) : cs = [] := by
  cases exponent with
  | absent => rfl
  | written mark =>
    have part := parts _ (List.mem_cons_self ..)
    rcases mark with rfl | rfl <;> exact absurd part (by decide)

/-- Digits and points are no word. -/
theorem not_word_of_parts {text : String} (parts : ∀ c ∈ cs, Token.isNumberPart c = true)
    (listed : text ∈ words) : cs.map Char.toLower ≠ text.toList := by
  intro spelled
  obtain ⟨c, rest, rfl⟩ := List.exists_cons_of_ne_nil (isAlpha_of_word listed spelled).1
  exact not_word_of_isNumberPart listed (parts c (List.mem_cons_self ..)) spelled

/-- Digits and points are plain in all their pieces. -/
theorem unadorned_of_parts (parts : ∀ c ∈ cs, Token.isNumberPart c = true) : Unadorned cs where
  sign within signed := signed.eq_nil_of_parts fun c member => parts c (within.subset member)
  exponent within exponent :=
    exponent.eq_nil_of_parts fun c member => parts c (within.subset member)
  word within listed := not_word_of_parts (fun c member => parts c (within.subset member)) listed

/-- Where there is neither a sign nor an exponent nor a word, numbers are spelled by digits. -/
theorem Unadorned.spells_iff (unadorned : Unadorned cs) : Spells cs x ↔ SpellsPlainly cs x := by
  constructor
  · intro spells
    cases spells with
    | @infinite sign _ word _ spelled =>
      have within : word <:+: sign ++ word := (List.suffix_append ..).isInfix
      rcases spelled with spelled | spelled <;>
        exact absurd spelled (unadorned.word within (by decide))
    | notNumber _ spelled =>
      exact absurd spelled (unadorned.word (List.suffix_append ..).isInfix (by decide))
    | decimal signed unsigned =>
      obtain rfl := unadorned.sign (List.prefix_append ..).isInfix signed
      obtain ⟨isMantissa, some, exponent⟩ := unsigned
      rw [List.nil_append] at unadorned ⊢
      obtain rfl := unadorned.exponent (List.suffix_append ..).isInfix exponent
      -- what is left is the sign and the exponent of nothing
      cases signed
      cases exponent
      rw [List.append_nil, Int.zero_sub]
      exact .mk isMantissa some
  · rintro ⟨isMantissa, some⟩
    have spells := Spells.decimal .absent (.mk isMantissa some .absent)
    rwa [List.nil_append, List.append_nil, Int.zero_sub] at spells

end Decimal

/-! ## Numbers that are scanned -/

namespace Token

/-- The token is a number that is a point without digits. -/
def IsBarePoint (token : Token) : Prop := token.kind = .number ∧ token.text = "."

/-- The text of the token is read as a float exactly if it is not a point by itself, and always from
its digits. -/
structure ReadsPlainly (token : Token) : Prop where
  /-- All but a point by itself is read. -/
  read : (∃ x, Decimal.readFloat? token.text = some x) ↔ token.text ≠ "."
  /-- What is read is what the digits spell. -/
  digits : ∀ x, Decimal.readFloat? token.text = some x ↔
    Decimal.SpellsPlainly token.text.toList x
  /-- There is neither a sign nor an exponent nor a word. -/
  unadorned : Decimal.Unadorned token.text.toList

variable {isFunction : String → Bool} {token : Token}

/-- What has the form of a number is read plainly. -/
theorem WellFormed.readsPlainly (formed : token.WellFormed isFunction)
    (kind : token.kind = .number) : token.ReadsPlainly := by
  have parts : ∀ c ∈ token.text.toList, isNumberPart c = true := by
    rw [WellFormed, kind] at formed
    exact formed.2.1
  have unadorned := Decimal.unadorned_of_parts parts
  refine ⟨⟨?_, fun other => ?_⟩,
    fun x => Decimal.readFloat?_eq_some_iff.trans unadorned.spells_iff, unadorned⟩
  · rintro ⟨x, read⟩ point
    rw [point] at read
    cases read
  · cases read : Decimal.readFloat? token.text with
    | some x => exact ⟨x, rfl⟩
    | none => exact absurd (String.toList_inj.1 (formed.eq_point kind read)) other

/-- The first bare point among the tokens is at the position. -/
def IsFirstBarePoint (tokens : List Token) (position : Nat) : Prop :=
  ∃ before token after, tokens = before ++ token :: after ∧ token.IsBarePoint ∧
    token.position = position ∧ ∀ earlier ∈ before, ¬ earlier.IsBarePoint

end Token

/-! ## Expressions -/

/-- What has a value is no bare point. -/
theorem Scope.not_isBarePoint_of_atom {σ : Type} {scope : Scope σ} {token : Token} {v : Float}
    (found : scope.atom token = .ok v) : ¬ token.IsBarePoint := by
  rintro ⟨kind, text⟩
  rw [scope.atom_number kind, Scope.literal, text] at found
  cases found

namespace Calculator

variable {σ : Type} {calculator : Calculator σ} {text : String} {bindings : Bindings}
  {tokens : List Token} {memory memory' : σ}

/-- The numbers of an expression are read plainly. -/
theorem readsPlainly_of_tokens (scanned : calculator.tokens text = .ok tokens) {token : Token}
    (member : token ∈ tokens) (kind : token.kind = .number) : token.ReadsPlainly :=
  (wellFormed_of_tokens scanned member (by simp [kind])).readsPlainly kind

/-- An expression with a value has no bare point. -/
theorem not_isBarePoint_of_value {v : Float}
    (run : (calculator.calculate text bindings).run.run memory = (.ok v, memory')) :
    ∃ tokens, calculator.tokens text = .ok tokens ∧ ∀ token ∈ tokens, ¬ token.IsBarePoint := by
  cases scanned : calculator.tokens text with
  | error d =>
    rw [calculate_of_error scanned] at run
    cases run
  | ok tokens =>
    rw [calculate_of_tokens scanned] at run
    refine ⟨tokens, rfl, fun token member bare => ?_⟩
    have inside := mem_beforeEnd_of_tokens scanned member (by simp [bare.1])
    have atom : token ∈ Token.atoms (Token.beforeEnd tokens) :=
      List.mem_filter.2 ⟨inside, by simp [Token.isAtom, bare.1]⟩
    obtain ⟨v, found⟩ := evaluateWithin_atoms run token atom
    exact Scope.not_isBarePoint_of_atom found bare

/-- The malformed number that is reported among tokens is the first bare point. -/
theorem isFirstBarePoint_of_malformedNumber {position : Nat}
    (scanned : calculator.tokens text = .ok tokens)
    (run : (calculator.calculate text bindings).run.run memory =
      (.error ⟨.malformedNumber, position⟩, memory')) :
    Token.IsFirstBarePoint tokens position := by
  rw [calculate_of_tokens scanned] at run
  obtain ⟨taken, rest, rfl, _, _, first⟩ :=
    evaluateWithin_firstFailing ⟨memory, memory', run⟩ (.inl rfl)
  obtain ⟨before, token, after, rfl, atom, failed, valued⟩ := first.exists_token
  obtain ⟨kind, rfl, none⟩ := Scope.atom_eq_malformedNumber atom failed
  refine ⟨before, token, after ++ rest, by simp, ⟨kind, ?_⟩, rfl, fun earlier member bare => ?_⟩
  · -- a number that is not read is a point by itself
    by_contra other
    obtain ⟨x, read⟩ := (readsPlainly_of_tokens scanned (by simp) kind).read.2 other
    rw [none] at read
    cases read
  · obtain ⟨v, found⟩ := valued earlier member (by simp [Token.isAtom, bare.1])
    exact Scope.not_isBarePoint_of_atom found bare

/-- **Numbers are read as they are scanned, but for bare points.** A number of an expression is read
exactly if it is not a point by itself, and always from its digits, without a sign, an exponent or a
word. So an expression with a value has no bare point, and where the tokens of an expression are
found but a number is reported as malformed, it is the first bare point. -/
theorem calculate_barePoints (calculator : Calculator σ) (text : String) (bindings : Bindings)
    (memory : σ) :
    (∀ tokens, calculator.tokens text = .ok tokens →
      ∀ token ∈ tokens, token.kind = .number → token.ReadsPlainly) ∧
    (∀ v memory', (calculator.calculate text bindings).run.run memory = (.ok v, memory') →
      ∃ tokens, calculator.tokens text = .ok tokens ∧ ∀ token ∈ tokens, ¬ token.IsBarePoint) ∧
    (∀ tokens position memory', calculator.tokens text = .ok tokens →
      (calculator.calculate text bindings).run.run memory =
        (.error ⟨.malformedNumber, position⟩, memory') →
      Token.IsFirstBarePoint tokens position) :=
  ⟨fun _ scanned _ member kind => readsPlainly_of_tokens scanned member kind,
    fun _ _ run => not_isBarePoint_of_value run,
    fun _ _ _ scanned run => isFirstBarePoint_of_malformedNumber scanned run⟩

end Calculator

end Reckoner
