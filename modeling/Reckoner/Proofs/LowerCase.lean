import Reckoner.Name
import Reckoner.Text.LowerCase

/-! # Names in lower case

A character in lower case is left alone by lower-casing (`Text.isSmall_of_mem_lowerFrom`), so that a
text in lower case stays as it is (`Text.lowerCase_lowerCase`). The letters have small letters that
are letters, except for the capital I with a dot above: of this one a combining dot remains, which
no name can hold. So a valid name stays valid in lower case exactly if it has none
(`Name.valid_lowerCase_iff`). Both are properties of the table of capital letters, whose small
letters are among the letters (`Text.smallLetters_subset`) and apart from the capital ones
(`Text.smallLetters_disjoint`). To check the whole table at once, sets of code points are taken as
numbers with these bits. -/

namespace Reckoner

namespace Text

/-! ## Sets of code points -/

/-- The code points of the table as bits. -/
def Ranges.bits : Ranges → Nat
  | [] => 0
  | (first, last) :: rest => (1 <<< (last + 1 - first) - 1) <<< first ||| bits rest

/-- The bits are the code points that the table covers. -/
theorem Ranges.testBit_bits (table : Ranges) (point : Nat) :
    table.bits.testBit point = true ↔ ∃ range ∈ table, range.1 ≤ point ∧ point ≤ range.2 := by
  induction table with
  | nil => simp [bits]
  | cons range rest ih =>
    have bounds : range.1 ≤ point ∧ point - range.1 < range.2 + 1 - range.1 ↔
        range.1 ≤ point ∧ point ≤ range.2 := by omega
    simp only [bits, Nat.testBit_or, Bool.or_eq_true, ih, Nat.testBit_shiftLeft, Bool.and_eq_true,
      decide_eq_true_eq, Nat.one_shiftLeft, Nat.testBit_two_pow_sub_one, ge_iff_le, bounds,
      List.mem_cons, exists_eq_or_imp]

/-- So many code points from the first one on, a step apart, as bits. -/
def progression (first step : Nat) : Nat → Nat
  | 0 => 0
  | count + 1 => 1 <<< first ||| progression (first + step) step count

/-- The code points of a progression are among its bits. -/
theorem testBit_progression {step index count : Nat} (below : index < count) (first : Nat) :
    (progression first step count).testBit (first + index * step) = true := by
  induction count generalizing first index with
  | zero => cases below
  | succ count ih =>
    rw [progression, Nat.testBit_or, Bool.or_eq_true]
    cases index with
    | zero => simp [Nat.testBit_shiftLeft]
    | succ index =>
      have later : first + (index + 1) * step = first + step + index * step := by
        rw [Nat.add_mul, Nat.one_mul]
        omega
      rw [later]
      exact .inr (ih (Nat.lt_of_succ_lt_succ below) (first + step))

/-! ## Capital and small letters -/

namespace CaseRun

variable {run : CaseRun} {point : Nat}

/-- The small letter of a capital letter in the run. -/
def small (run : CaseRun) (point : Nat) : Nat := (point + run.shift).toNat

/-- As many code points as the run holds, from another first one on. -/
def bitsFrom (run : CaseRun) (first : Nat) : Nat :=
  progression first run.step ((run.last - run.first) / run.step + 1)

/-- The small letters of the run are characters, and none has the code point zero. -/
def isProper (run : CaseRun) : Bool :=
  Nat.blt 0 (run.small run.first) && (Nat.blt (run.small run.last) 0xD800 ||
    Nat.blt 0xDFFF (run.small run.first) && Nat.blt (run.small run.last) 0x110000)

/-- A run holds every so many code points from its first to its last. -/
theorem holds_iff : run.holds point = true ↔
    run.first ≤ point ∧ point ≤ run.last ∧ (point - run.first) % run.step = 0 := by
  simp [holds, and_assoc]

/-- What a run holds is so many steps from its first code point. -/
theorem exists_index (held : run.holds point = true) :
    ∃ index < (run.last - run.first) / run.step + 1, point = run.first + index * run.step := by
  obtain ⟨first, last, whole⟩ := holds_iff.1 held
  refine ⟨(point - run.first) / run.step, Nat.lt_succ_of_le (Nat.div_le_div_right ?_), ?_⟩
  · omega
  · rw [Nat.div_mul_cancel (Nat.dvd_of_mod_eq_zero whole)]
    omega

/-- The small letters of a proper run are characters. -/
theorem isValidChar_small (proper : run.isProper = true) (held : run.holds point = true) :
    (run.small point).isValidChar := by
  simp only [isProper, Bool.and_eq_true, Bool.or_eq_true, Nat.blt_eq] at proper
  obtain ⟨first, last, _⟩ := holds_iff.1 held
  unfold small at *
  rw [Nat.isValidChar]
  omega

/-- A capital letter of the run is among the bits of it. -/
theorem testBit_capital (held : run.holds point = true) :
    (run.bitsFrom run.first).testBit point = true := by
  obtain ⟨index, below, rfl⟩ := exists_index held
  exact testBit_progression below run.first

/-- The small letter of a capital letter is among the bits from the first small letter on. -/
theorem testBit_small (proper : run.isProper = true) (held : run.holds point = true) :
    (run.bitsFrom (run.small run.first)).testBit (run.small point) = true := by
  obtain ⟨index, below, rfl⟩ := exists_index held
  have shifted : run.small (run.first + index * run.step) =
      run.small run.first + index * run.step := by
    rw [isProper, Bool.and_eq_true, Nat.blt_eq] at proper
    have positive := proper.1
    unfold small at *
    omega
  rw [shifted]
  exact testBit_progression below _

end CaseRun

/-- The bits of all the numbers. -/
def union (sets : List Nat) : Nat := sets.foldr (· ||| ·) 0

/-- A bit of one of the numbers is a bit of the union. -/
theorem testBit_union {sets : List Nat} {set point : Nat} (member : set ∈ sets)
    (bit : set.testBit point = true) : (union sets).testBit point = true := by
  induction sets with
  | nil => cases member
  | cons first sets ih =>
    rw [union, List.foldr_cons, Nat.testBit_or, Bool.or_eq_true]
    rcases List.mem_cons.1 member with rfl | later
    · exact .inl bit
    · exact .inr (ih later)

/-- The letters that have one small letter, and the capital I with a dot above. -/
def capitalLetters : Nat :=
  1 <<< 0x0130 ||| union (caseRuns.map fun run => run.bitsFrom run.first)

/-- Their small letters. -/
def smallLetters : Nat := union (caseRuns.map fun run => run.bitsFrom (run.small run.first))

/-- The small letters are letters. -/
theorem smallLetters_subset : smallLetters &&& letters.bits = smallLetters := by decide +kernel

/-- The small letters are no capital letters. -/
theorem smallLetters_disjoint : smallLetters &&& capitalLetters = 0 := by decide +kernel

/-- The small letters are characters. -/
theorem caseRuns_isProper : caseRuns.all CaseRun.isProper = true := by decide

/-- An i, a combining dot and the two small sigmas are their own small letters. -/
theorem smallPoint_eq_self :
    ∀ point ∈ [0x0069, 0x0307, 0x03C2, 0x03C3], smallPoint point = point := by
  decide

variable {run : CaseRun} {point : Nat}

/-- A code point is in no run and its own small letter, or in a run that has its small letter. -/
theorem smallPoint_cases (point : Nat) :
    ((∀ run ∈ caseRuns, ¬ run.holds point = true) ∧ smallPoint point = point) ∨
      ∃ run ∈ caseRuns, run.holds point = true ∧ smallPoint point = run.small point := by
  rw [smallPoint]
  cases found : caseRuns.find? (·.holds point) with
  | none => exact .inl ⟨List.find?_eq_none.1 found, rfl⟩
  | some run =>
    exact .inr ⟨run, List.mem_of_find?_eq_some found,
      @List.find?_some _ (fun run => CaseRun.holds run point) _ _ found, rfl⟩

/-- What a run holds is a capital letter. -/
theorem testBit_capitalLetters (member : run ∈ caseRuns) (held : run.holds point = true) :
    capitalLetters.testBit point = true := by
  rw [capitalLetters, Nat.testBit_or, Bool.or_eq_true]
  exact .inr (testBit_union (List.mem_map_of_mem member) (CaseRun.testBit_capital held))

/-- What becomes another code point becomes a small letter. -/
theorem testBit_smallPoint (moved : smallPoint point ≠ point) :
    smallLetters.testBit (smallPoint point) = true := by
  rcases smallPoint_cases point with ⟨_, same⟩ | ⟨run, member, held, small⟩
  · exact absurd same moved
  · rw [small]
    exact testBit_union (List.mem_map_of_mem member)
      (CaseRun.testBit_small (List.all_eq_true.1 caseRuns_isProper run member) held)

/-- What becomes another code point becomes a letter. -/
theorem covers_smallPoint (moved : smallPoint point ≠ point) :
    letters.covers (smallPoint point) = true := by
  have bit := testBit_smallPoint moved
  rw [← smallLetters_subset, Nat.testBit_and, Bool.and_eq_true] at bit
  exact (Ranges.covers_iff letters_ascending _).2 ((Ranges.testBit_bits letters _).1 bit.2)

/-- What becomes another code point becomes no capital letter. -/
theorem testBit_capitalLetters_smallPoint (moved : smallPoint point ≠ point) :
    capitalLetters.testBit (smallPoint point) = false := by
  have both : (smallLetters &&& capitalLetters).testBit (smallPoint point) = false := by
    rw [smallLetters_disjoint, Nat.zero_testBit]
  rwa [Nat.testBit_and, testBit_smallPoint moved, Bool.true_and] at both

/-- A small letter has itself as its small letter. -/
theorem smallPoint_smallPoint (point : Nat) : smallPoint (smallPoint point) = smallPoint point := by
  by_cases moved : smallPoint point = point
  · rw [moved, moved]
  rcases smallPoint_cases (smallPoint point) with ⟨_, same⟩ | ⟨run, member, held, _⟩
  · exact same
  · have capital := testBit_capitalLetters member held
    rw [testBit_capitalLetters_smallPoint moved] at capital
    cases capital

/-- Nothing but a capital I with a dot above becomes one. -/
theorem smallPoint_ne_dotted (other : point ≠ 0x0130) : smallPoint point ≠ 0x0130 := by
  intro dotted
  have moved : smallPoint point ≠ point := dotted ▸ Ne.symm other
  have plain := testBit_capitalLetters_smallPoint moved
  have capital : (1 <<< 0x0130).testBit 0x0130 = true := by decide
  rw [dotted, capitalLetters, Nat.testBit_or, capital] at plain
  cases plain

/-- The small letter of a character is a character. -/
theorem toNat_ofNat_smallPoint (c : Char) :
    (Char.ofNat (smallPoint c.toNat)).toNat = smallPoint c.toNat := by
  rcases smallPoint_cases c.toNat with ⟨_, same⟩ | ⟨run, member, held, small⟩
  · rw [same, Char.ofNat_toNat]
  · have valid : (smallPoint c.toNat).isValidChar := by
      rw [small]
      exact CaseRun.isValidChar_small (List.all_eq_true.1 caseRuns_isProper run member) held
    rw [Char.ofNat, dif_pos valid]
    rfl

/-! ## Characters that lower-casing leaves alone -/

/-- Lower-casing leaves the character alone, whatever is beside it. -/
def IsSmall (c : Char) : Prop := c ≠ 'Σ' ∧ lowerChar c = [c]

variable {c d : Char} {before cs : List Char}

/-- A character other than the capital I with a dot above is left alone if it is its own small
letter. -/
theorem isSmall_of_smallPoint (other : c.toNat ≠ 0x0130) (same : smallPoint c.toNat = c.toNat) :
    IsSmall c := by
  constructor
  · rintro rfl
    exact absurd same (by decide)
  · rw [lowerChar, if_neg, same, Char.ofNat_toNat]
    rintro rfl
    exact other rfl

/-- What a character becomes is left alone. -/
theorem isSmall_of_mem_lowerChar (member : d ∈ lowerChar c) : IsSmall d := by
  rw [lowerChar] at member
  split at member
  · rw [List.mem_cons, List.mem_singleton] at member
    rcases member with rfl | rfl
    · exact isSmall_of_smallPoint (by decide) (smallPoint_eq_self _ (by decide))
    · exact isSmall_of_smallPoint (by decide) (smallPoint_eq_self _ (by decide))
  · rename_i other
    obtain rfl := List.mem_singleton.1 member
    have apart : c.toNat ≠ 0x0130 := fun same => other (Char.toNat_inj.1 same)
    refine isSmall_of_smallPoint ?_ ?_
    · rw [toNat_ofNat_smallPoint]
      exact smallPoint_ne_dotted apart
    · rw [toNat_ofNat_smallPoint, smallPoint_smallPoint]

/-- A sigma is left alone, a final one as well. -/
theorem isSmall_lowerSigma (before after : List Char) : IsSmall (lowerSigma before after) := by
  rw [lowerSigma]
  split
  · exact isSmall_of_smallPoint (by decide) (smallPoint_eq_self _ (by decide))
  · exact isSmall_of_smallPoint (by decide) (smallPoint_eq_self _ (by decide))

/-- The characters of a text in lower case are left alone. -/
theorem isSmall_of_mem_lowerFrom (member : d ∈ lowerFrom before cs) : IsSmall d := by
  induction cs generalizing before with
  | nil => exact absurd member List.not_mem_nil
  | cons c after ih =>
    rw [lowerFrom] at member
    rcases List.mem_append.1 member with first | later
    · split at first
      · rw [List.mem_singleton.1 first]
        exact isSmall_lowerSigma before after
      · exact isSmall_of_mem_lowerChar first
    · exact ih later

/-- Characters that are left alone one by one are left alone together. -/
theorem lowerFrom_eq_self (small : ∀ c ∈ cs, IsSmall c) : lowerFrom before cs = cs := by
  induction cs generalizing before with
  | nil => rfl
  | cons c cs ih =>
    rw [List.forall_mem_cons] at small
    rw [lowerFrom, if_neg small.1.1, small.1.2, ih small.2]
    rfl

/-- A text in lower case stays as it is. -/
theorem lowerCase_lowerCase (text : String) : lowerCase (lowerCase text) = lowerCase text := by
  rw [lowerCase, lowerFrom_eq_self, String.ofList_toList]
  intro c member
  rw [lowerCase, String.toList_ofList] at member
  exact isSmall_of_mem_lowerFrom member

end Text

/-! ## Names -/

namespace Name

open Text

variable {before after cs : List Char} {c d : Char}

/-- Names do not hold the combining dot. -/
theorem isPart_dot : isPart '\u0307' = false := by decide

/-- The capital I with a dot above becomes two characters. Any other character becomes one, which is
a letter or the character itself. -/
theorem lowerFrom_cases (before after : List Char) (c : Char) :
    (c = '\u0130' ∧
      lowerFrom before (c :: after) = 'i' :: '\u0307' :: lowerFrom (c :: before) after) ∨
    (c ≠ '\u0130' ∧ ∃ d, lowerFrom before (c :: after) = d :: lowerFrom (c :: before) after ∧
      (isStart d = true ∨ d = c)) := by
  rw [lowerFrom]
  by_cases sigma : c = 'Σ'
  · subst sigma
    refine .inr ⟨by decide, lowerSigma before after, rfl, .inl ?_⟩
    rw [lowerSigma]
    split
    · decide
    · decide
  by_cases dotted : c = '\u0130'
  · subst dotted
    exact .inl ⟨rfl, rfl⟩
  · rw [if_neg sigma, lowerChar, if_neg dotted]
    refine .inr ⟨dotted, _, rfl, ?_⟩
    by_cases moved : smallPoint c.toNat = c.toNat
    · rw [moved, Char.ofNat_toNat]
      exact .inr rfl
    · rw [isStart, isLetter, toNat_ofNat_smallPoint]
      exact .inl (covers_smallPoint moved)

/-- Apart from the combining dot, parts of names become parts of names. -/
theorem isPart_of_mem_lowerFrom (parts : ∀ c ∈ cs, isPart c = true)
    (member : d ∈ lowerFrom before cs) (other : d ≠ '\u0307') : isPart d = true := by
  induction cs generalizing before with
  | nil => exact absurd member List.not_mem_nil
  | cons c after ih =>
    rw [List.forall_mem_cons] at parts
    rcases lowerFrom_cases before after c with ⟨_, lower⟩ | ⟨_, first, lower, small⟩
    · rw [lower, List.mem_cons, List.mem_cons] at member
      rcases member with rfl | rfl | later
      · decide
      · exact absurd rfl other
      · exact ih parts.2 later
    · rw [lower, List.mem_cons] at member
      rcases member with rfl | later
      · rcases small with letter | rfl
        · exact isPart_of_isStart letter
        · exact parts.1
      · exact ih parts.2 later

/-- Only a capital I with a dot above brings the combining dot in. -/
theorem dot_mem_lowerFrom (parts : ∀ c ∈ cs, isPart c = true) :
    '\u0307' ∈ lowerFrom before cs ↔ '\u0130' ∈ cs := by
  induction cs generalizing before with
  | nil => simp [lowerFrom]
  | cons c after ih =>
    rw [List.forall_mem_cons] at parts
    rcases lowerFrom_cases before after c with ⟨rfl, lower⟩ | ⟨other, first, lower, small⟩
    · simp [lower]
    · have plain : '\u0307' ≠ first := by
        rintro rfl
        have part : isPart '\u0307' = true := by
          rcases small with letter | same
          · exact isPart_of_isStart letter
          · exact same ▸ parts.1
        rw [isPart_dot] at part
        cases part
      rw [lower, List.mem_cons, List.mem_cons, ih parts.2, or_iff_right plain,
        or_iff_right (Ne.symm other)]

/-- A name in lower case is a name unless it holds the combining dot. -/
theorem isName_lowerFrom {name : List Char} (named : isName name = true) :
    isName (lowerFrom before name) = true ↔ '\u0307' ∉ lowerFrom before name := by
  constructor
  · intro lower member
    have part := isPart_of_mem lower _ member
    rw [isPart_dot] at part
    cases part
  · intro plain
    have parts {d} (member : d ∈ lowerFrom before name) : isPart d = true := by
      refine isPart_of_mem_lowerFrom (isPart_of_mem named) member ?_
      rintro rfl
      exact plain member
    cases name with
    | nil => cases named
    | cons c after =>
      rw [isName, Bool.and_eq_true] at named
      rcases lowerFrom_cases before after c with ⟨_, lower⟩ | ⟨_, first, lower, small⟩
      · simp [lower] at plain
      · have begins : isStart first = true := by
          rcases small with letter | rfl
          · exact letter
          · exact named.1
        rw [lower] at parts ⊢
        rw [isName, begins, Bool.true_and, List.all_eq_true]
        exact fun d member => parts (List.mem_cons_of_mem _ member)

variable {name : String}

/-- **A valid name in lower case is valid unless it holds the combining dot.** -/
theorem valid_lowerCase_iff (named : valid name = true) :
    valid (lowerCase name) = true ↔ '\u0307' ∉ (lowerCase name).toList := by
  rw [valid, lowerCase, String.toList_ofList]
  exact isName_lowerFrom named

/-- The combining dot is in a valid name in lower case exactly if a capital I with a dot above is in
the name. -/
theorem dot_mem_lowerCase_iff (named : valid name = true) :
    '\u0307' ∈ (lowerCase name).toList ↔ '\u0130' ∈ name.toList := by
  rw [lowerCase, String.toList_ofList]
  exact dot_mem_lowerFrom (isPart_of_mem named)

end Name

end Reckoner
