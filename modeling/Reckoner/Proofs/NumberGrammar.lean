import Mathlib
import Reckoner.Decimal.Parser
import Reckoner.Proofs.MaximalMunch

/-! # The grammar of numbers

What spells a float, as a relation between characters and floats:

* `number := sign? (word | mantissa exponent?)`
* `word := 'inf' | 'infinity' | 'nan'`, in letters of any case
* `mantissa := digit+ | digit* '.' digit*`, with a digit before or after the point
* `exponent := ('e' | 'E') sign? digit+`

`Decimal.Spells` is the relation, and reading numbers is deciding it
(`Decimal.readFloat?_eq_some_iff`). -/

namespace Reckoner.Decimal

/-! ## The pieces of numbers -/

/-- A sign or none, and whether it is a minus. -/
inductive IsSign : List Char → Bool → Prop
  | absent : IsSign [] false
  | plus : IsSign ['+'] false
  | minus : IsSign ['-'] true

/-- Digits with at most one point, the digits without it, and how many come after it. -/
inductive IsMantissa : List Char → List Char → Nat → Prop
  | whole {digits} : (∀ c ∈ digits, c.isDigit = true) → IsMantissa digits digits 0
  | pointed {whole fraction} : (∀ c ∈ whole, c.isDigit = true) →
      (∀ c ∈ fraction, c.isDigit = true) →
      IsMantissa (whole ++ '.' :: fraction) (whole ++ fraction) fraction.length

/-- An exponent or none, and the power of ten that it is. -/
inductive IsExponent : List Char → Int → Prop
  | absent : IsExponent [] 0
  | written {mark sign negative digits} : mark = 'e' ∨ mark = 'E' → IsSign sign negative →
      digits ≠ [] → (∀ c ∈ digits, c.isDigit = true) →
      IsExponent (mark :: (sign ++ digits))
        (if negative then -(Nat.ofDigitChars 10 digits 0 : Int) else Nat.ofDigitChars 10 digits 0)

/-- At least one digit, with a point and an exponent or without, and the decimal that they are. -/
inductive IsUnsigned : List Char → Decimal → Prop
  | mk {mantissa digits places exponent power} : IsMantissa mantissa digits places → digits ≠ [] →
      IsExponent exponent power →
      IsUnsigned (mantissa ++ exponent) ⟨Nat.ofDigitChars 10 digits 0, power - (places : Int)⟩

/-- The characters spell the float. -/
inductive Spells : List Char → Float → Prop
  | infinite {sign negative word} : IsSign sign negative →
      word.map Char.toLower = "inf".toList ∨ word.map Char.toLower = "infinity".toList →
      Spells (sign ++ word) (Binary64.ofMagnitude negative Binary64.infinity)
  | notNumber {sign negative word} : IsSign sign negative →
      word.map Char.toLower = "nan".toList → Spells (sign ++ word) (0.0 / 0.0)
  | decimal {sign negative body decimal} : IsSign sign negative → IsUnsigned body decimal →
      Spells (sign ++ body) (Binary64.ofMagnitude negative decimal.magnitude)

variable {cs sign body rest : List Char} {negative : Bool} {decimal : Decimal} {power : Int}

/-! ## Signs -/

/-- What is split off is a sign. -/
theorem isSign_of_splitSign (split : splitSign cs = (negative, body)) :
    ∃ sign, IsSign sign negative ∧ cs = sign ++ body := by
  unfold splitSign at split
  split at split <;> cases split
  · exact ⟨_, .minus, rfl⟩
  · exact ⟨_, .plus, rfl⟩
  · exact ⟨_, .absent, rfl⟩

/-- A sign is split off what begins with none. -/
theorem splitSign_append (signed : IsSign sign negative)
    (bare : ∀ c, body.head? = some c → c ≠ '+' ∧ c ≠ '-') :
    splitSign (sign ++ body) = (negative, body) := by
  cases signed with
  | absent =>
    cases body with
    | nil => rfl
    | cons c body =>
      obtain ⟨plus, minus⟩ := bare c rfl
      simp [splitSign, plus, minus]
  | plus => rfl
  | minus => rfl

/-- Digits begin with no sign. -/
theorem bare_of_digits {digits : List Char} (each : ∀ c ∈ digits, c.isDigit = true) (c : Char)
    (first : digits.head? = some c) : c ≠ '+' ∧ c ≠ '-' := by
  have digit := each c (List.mem_of_mem_head? first)
  constructor <;> rintro rfl <;> cases digit

/-! ## Digits, points and exponents -/

/-- What a power of ten is read from is an exponent. -/
theorem readExponent?_eq_some_iff : readExponent? cs = some power ↔ IsExponent cs power := by
  constructor
  · intro read
    cases cs with
    | nil =>
      cases read
      exact .absent
    | cons c rest =>
      cases split : splitSign rest with
      | mk negative digits =>
        simp only [readExponent?, split, Option.ite_none_right_eq_some, Option.some.injEq,
          List.all_eq_true] at read
        obtain ⟨mark, ⟨some, each⟩, rfl⟩ := read
        obtain ⟨sign, signed, rfl⟩ := isSign_of_splitSign split
        exact .written mark signed some each
  · intro exponent
    cases exponent with
    | absent => rfl
    | written mark signed some digits =>
      simp only [readExponent?, if_pos mark, splitSign_append signed (bare_of_digits digits)]
      rw [if_pos ⟨some, List.all_eq_true.2 digits⟩]

/-- No exponent begins with a digit or a point. -/
theorem IsExponent.bare (exponent : IsExponent cs power) (c : Char)
    (first : cs.head? = some c) : c.isDigit = false ∧ c ≠ '.' := by
  cases exponent with
  | absent => cases first
  | written mark => rcases mark with rfl | rfl <;> cases first <;> decide

/-- The digits that the point separates are a mantissa. -/
theorem isMantissa_of_splitFraction {fraction : List Char}
    (whole : ∀ c ∈ body, c.isDigit = true) (split : splitFraction cs = (fraction, rest)) :
    ∃ mantissa, body ++ cs = mantissa ++ rest ∧
      IsMantissa mantissa (body ++ fraction) fraction.length := by
  unfold splitFraction at split
  split at split <;> cases split
  · next tail =>
    refine ⟨body ++ '.' :: tail.takeWhile Char.isDigit, ?_, .pointed whole ?_⟩
    · rw [List.append_assoc, List.cons_append, List.takeWhile_append_dropWhile]
    · exact fun _ => List.mem_takeWhile_imp
  · rw [List.append_nil]
    exact ⟨body, rfl, .whole whole⟩

/-- What a decimal is read from is a mantissa and an exponent. -/
theorem isUnsigned_of_readUnsigned? (read : readUnsigned? cs = some decimal) :
    IsUnsigned cs decimal := by
  have whole : ∀ c ∈ cs.takeWhile Char.isDigit, c.isDigit = true :=
    fun _ => List.mem_takeWhile_imp
  cases split : splitFraction (cs.dropWhile Char.isDigit) with
  | mk fraction rest =>
    simp only [readUnsigned?, split, Option.ite_none_left_eq_some, Option.map_eq_some_iff,
      ← List.append_eq_nil_iff] at read
    obtain ⟨some, power, exponent, rfl⟩ := read
    obtain ⟨mantissa, characters, isMantissa⟩ := isMantissa_of_splitFraction whole split
    have unsigned := IsUnsigned.mk isMantissa some (readExponent?_eq_some_iff.1 exponent)
    rwa [← characters, List.takeWhile_append_dropWhile] at unsigned

/-- A mantissa is taken in as it is. -/
theorem readUnsigned?_append {mantissa digits : List Char} {places : Nat}
    (isMantissa : IsMantissa mantissa digits places) (some : digits ≠ [])
    (exponent : IsExponent rest power) :
    readUnsigned? (mantissa ++ rest) =
      .some ⟨Nat.ofDigitChars 10 digits 0, power - (places : Int)⟩ := by
  have undigited (c : Char) (first : rest.head? = .some c) := (exponent.bare c first).1
  have read := readExponent?_eq_some_iff.2 exponent
  cases isMantissa with
  | whole digited =>
    obtain ⟨taken, left⟩ := Token.takeWhile_dropWhile_append digited undigited
    have unpointed : splitFraction rest = ([], rest) := by
      unfold splitFraction
      split
      · exact absurd rfl (exponent.bare '.' rfl).2
      · rfl
    simp [readUnsigned?, taken, left, unpointed, some, read]
  | @pointed whole fraction digited digited' =>
    have point : ∀ c, ('.' :: (fraction ++ rest)).head? = .some c → c.isDigit = false := by
      intro c first
      cases first
      rfl
    obtain ⟨taken, left⟩ := Token.takeWhile_dropWhile_append digited point
    obtain ⟨taken', left'⟩ := Token.takeWhile_dropWhile_append digited' undigited
    rw [ne_eq, List.append_eq_nil_iff] at some
    simp [readUnsigned?, taken, left, splitFraction, taken', left', some, read]

/-- What a decimal is read from is digits, with a point and an exponent or without. -/
theorem readUnsigned?_eq_some_iff : readUnsigned? cs = some decimal ↔ IsUnsigned cs decimal := by
  constructor
  · exact isUnsigned_of_readUnsigned?
  · rintro ⟨isMantissa, some, exponent⟩
    exact readUnsigned?_append isMantissa some exponent

/-- A decimal begins with a digit or a point. -/
theorem IsUnsigned.begins (unsigned : IsUnsigned cs decimal) :
    ∃ c rest, cs = c :: rest ∧ Token.isNumberPart c = true := by
  obtain ⟨isMantissa, some, -⟩ := unsigned
  cases isMantissa with
  | whole each =>
    obtain ⟨d, digits, rfl⟩ := List.exists_cons_of_ne_nil some
    exact ⟨d, _, rfl, by simp [Token.isNumberPart, each d (List.mem_cons_self ..)]⟩
  | @pointed whole fraction each =>
    cases whole with
    | nil => exact ⟨'.', _, rfl, by decide⟩
    | cons d whole =>
      exact ⟨d, _, rfl, by simp [Token.isNumberPart, each d (List.mem_cons_self ..)]⟩

/-! ## Words -/

/-- The words in small letters. -/
def words : List String := ["inf", "infinity", "nan"]

/-- A name can begin with a letter of a word. -/
theorem isStart_of_isAlpha {c : Char} (letter : c.isAlpha = true) : Name.isStart c = true := by
  have range : (0x41 ≤ c.toNat ∧ c.toNat ≤ 0x5A) ∨ (0x61 ≤ c.toNat ∧ c.toNat ≤ 0x7A) := by
    simpa [Char.isAlpha, Char.isUpper, Char.isLower, UInt32.le_iff_toNat_le] using letter
  refine (Text.Ranges.covers_iff Text.letters_ascending c.toNat).2 ?_
  rcases range with capital | small
  · exact ⟨(0x41, 0x5A), by decide, capital⟩
  · exact ⟨(0x61, 0x7A), by decide, small⟩

/-- Words are letters, and at least one. -/
theorem isAlpha_of_word {word : List Char} {text : String} (listed : text ∈ words)
    (spelled : word.map Char.toLower = text.toList) :
    word ≠ [] ∧ ∀ c ∈ word, c.isAlpha = true := by
  have letters : ∀ text ∈ words, text.toList ≠ [] ∧ ∀ c ∈ text.toList, c.isAlpha = true := by
    simp [words, Char.isAlpha]
  obtain ⟨some, each⟩ := letters text listed
  rw [← spelled, ne_eq, List.map_eq_nil_iff] at some
  rw [← spelled, List.forall_mem_map] at each
  exact ⟨some, fun c member => Char.isAlpha_toLower_eq_isAlpha c ▸ each c member⟩

/-- What begins with a digit or a point is no word. -/
theorem not_word_of_isNumberPart {text : String} {c : Char} (listed : text ∈ words)
    (part : Token.isNumberPart c = true) : (c :: rest).map Char.toLower ≠ text.toList := by
  intro spelled
  have letter := (isAlpha_of_word listed spelled).2 c (List.mem_cons_self ..)
  rw [Token.isNumberPart_of_isStart (isStart_of_isAlpha letter)] at part
  cases part

/-- A decimal is no word. -/
theorem not_word_of_unsigned {text : String} (listed : text ∈ words)
    (unsigned : IsUnsigned body decimal) : body.map Char.toLower ≠ text.toList := by
  obtain ⟨c, rest, rfl, part⟩ := unsigned.begins
  exact not_word_of_isNumberPart listed part

/-- A word begins with no sign. -/
theorem bare_of_word {word : List Char} {text : String} (listed : text ∈ words)
    (spelled : word.map Char.toLower = text.toList) (c : Char) (first : word.head? = some c) :
    c ≠ '+' ∧ c ≠ '-' := by
  have letter := (isAlpha_of_word listed spelled).2 c (List.mem_of_mem_head? first)
  constructor <;> rintro rfl <;> cases letter

/-- A decimal begins with no sign. -/
theorem IsUnsigned.bare (unsigned : IsUnsigned cs decimal) (c : Char)
    (first : cs.head? = some c) : c ≠ '+' ∧ c ≠ '-' := by
  obtain ⟨c, rest, rfl, part⟩ := unsigned.begins
  cases first
  constructor <;> rintro rfl <;> cases part

/-! ## Whole numbers -/

variable {text : String} {x : Float}

/-- What a float is read from spells it. -/
theorem spells_of_readFloat? (read : readFloat? text = some x) : Spells text.toList x := by
  cases split : splitSign text.toList with
  | mk negative body =>
    obtain ⟨sign, signed, characters⟩ := isSign_of_splitSign split
    simp only [readFloat?, split, String.ofList_eq] at read
    rw [characters]
    split at read
    · next infinite =>
      cases read
      exact .infinite signed infinite
    · split at read
      · next word =>
        cases read
        exact .notNumber signed word
      · obtain ⟨decimal, unsigned, rfl⟩ := Option.map_eq_some_iff.1 read
        exact .decimal signed (readUnsigned?_eq_some_iff.1 unsigned)

/-- **Reading numbers decides the grammar.** -/
theorem readFloat?_eq_some_iff : readFloat? text = some x ↔ Spells text.toList x := by
  refine ⟨spells_of_readFloat?, fun spells => ?_⟩
  generalize characters : text.toList = cs at spells
  cases spells with
  | @infinite sign negative word signed spelled =>
    have bare : ∀ c, word.head? = some c → c ≠ '+' ∧ c ≠ '-' :=
      spelled.elim (bare_of_word (by decide)) (bare_of_word (by decide))
    simp only [readFloat?, characters, splitSign_append signed bare, String.ofList_eq]
    rw [if_pos spelled]
  | notNumber signed spelled =>
    simp only [readFloat?, characters, splitSign_append signed (bare_of_word (by decide) spelled),
      String.ofList_eq, spelled]
    rfl
  | decimal signed unsigned =>
    simp only [readFloat?, characters, splitSign_append signed unsigned.bare, String.ofList_eq]
    -- the words are tried first, and a decimal is none of them
    rw [if_neg, if_neg, readUnsigned?_eq_some_iff.2 unsigned, Option.map_some]
    · exact not_word_of_unsigned (by decide) unsigned
    · rw [not_or]
      exact ⟨not_word_of_unsigned (by decide) unsigned, not_word_of_unsigned (by decide) unsigned⟩

/-- What characters spell is read from their text. -/
theorem Spells.readFloat?_eq_some (spells : Spells cs x) : readFloat? (String.ofList cs) = some x :=
  readFloat?_eq_some_iff.2 (by rwa [String.toList_ofList])

/-- A text spells one float at most. -/
theorem Spells.unique {y : Float} (spells : Spells cs x) (spells' : Spells cs y) : x = y := by
  have read := spells.readFloat?_eq_some
  rw [spells'.readFloat?_eq_some, Option.some.injEq] at read
  exact read.symm

/-! ## Their characters -/

/-- No digit is a blank. -/
theorem isBlank_of_isDigit {c : Char} (digit : c.isDigit = true) : Text.isBlank c = false :=
  Token.isBlank_of_isPart (Token.isPart_of_isDigit digit)

/-- No sign is a blank. -/
theorem IsSign.isBlank_eq_false (signed : IsSign sign negative) :
    ∀ c ∈ sign, Text.isBlank c = false := by
  cases signed with
  | absent => exact List.forall_mem_nil _
  | plus => exact List.forall_mem_singleton.2 rfl
  | minus => exact List.forall_mem_singleton.2 rfl

/-- No exponent holds a blank. -/
theorem IsExponent.isBlank_eq_false (exponent : IsExponent cs power) :
    ∀ c ∈ cs, Text.isBlank c = false := by
  cases exponent with
  | absent => exact List.forall_mem_nil _
  | written mark signed _ digits =>
    rw [List.forall_mem_cons, List.forall_mem_append]
    refine ⟨?_, signed.isBlank_eq_false, fun c member => isBlank_of_isDigit (digits c member)⟩
    rcases mark with rfl | rfl <;> decide

/-- No mantissa holds a blank. -/
theorem IsMantissa.isBlank_eq_false {digits : List Char} {places : Nat}
    (isMantissa : IsMantissa cs digits places) : ∀ c ∈ cs, Text.isBlank c = false := by
  cases isMantissa with
  | whole each => exact fun c member => isBlank_of_isDigit (each c member)
  | pointed each each' =>
    rw [List.forall_mem_append, List.forall_mem_cons]
    exact ⟨fun c member => isBlank_of_isDigit (each c member), by decide,
      fun c member => isBlank_of_isDigit (each' c member)⟩

/-- What spells a float holds no blank. -/
theorem Spells.isBlank_eq_false (spells : Spells cs x) : ∀ c ∈ cs, Text.isBlank c = false := by
  have plain {word : List Char} {text : String} (listed : text ∈ words)
      (spelled : word.map Char.toLower = text.toList) : ∀ c ∈ word, Text.isBlank c = false :=
    fun c member => Token.isBlank_of_isPart <| Name.isPart_of_isStart <| isStart_of_isAlpha <|
      (isAlpha_of_word listed spelled).2 c member
  cases spells with
  | infinite signed spelled =>
    exact List.forall_mem_append.2
      ⟨signed.isBlank_eq_false, spelled.elim (plain (by decide)) (plain (by decide))⟩
  | notNumber signed spelled =>
    exact List.forall_mem_append.2 ⟨signed.isBlank_eq_false, plain (by decide) spelled⟩
  | decimal signed unsigned =>
    obtain ⟨isMantissa, -, exponent⟩ := unsigned
    rw [List.forall_mem_append, List.forall_mem_append]
    exact ⟨signed.isBlank_eq_false, isMantissa.isBlank_eq_false, exponent.isBlank_eq_false⟩

/-- What spells a float is not empty. -/
theorem Spells.ne_nil (spells : Spells cs x) : cs ≠ [] := by
  have some {word : List Char} {text : String} (listed : text ∈ words)
      (spelled : word.map Char.toLower = text.toList) : word ≠ [] :=
    (isAlpha_of_word listed spelled).1
  cases spells with
  | infinite _ spelled =>
    exact List.append_ne_nil_of_right_ne_nil _ (spelled.elim (some (by decide)) (some (by decide)))
  | notNumber _ spelled => exact List.append_ne_nil_of_right_ne_nil _ (some (by decide) spelled)
  | decimal _ unsigned =>
    obtain ⟨c, rest, rfl, -⟩ := unsigned.begins
    exact List.append_ne_nil_of_right_ne_nil _ (List.cons_ne_nil c rest)

end Reckoner.Decimal
