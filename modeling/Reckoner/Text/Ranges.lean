/-! # Tables of character ranges

A class of characters is given by the code points it covers, as a list of closed ranges in ascending
order. `Ranges.covers` looks a code point up; on an ascending table it holds exactly of the code
points of some range (`Ranges.covers_iff`). -/

namespace Reckoner.Text

/-- A list of closed ranges of code points, `(first, last)`. -/
abbrev Ranges := List (Nat × Nat)

namespace Ranges

/-- Whether the first range begins at `least` or above, and each other one above the range before
it. -/
def ascendingFrom (least : Nat) : Ranges → Bool
  | [] => true
  | (first, last) :: rest =>
    decide (least ≤ first) && decide (first ≤ last) && ascendingFrom (last + 1) rest

/-- Whether a range holds the code point. The search stops at the first range that begins above it.
-/
def covers (point : Nat) : Ranges → Bool
  | [] => false
  | (first, last) :: rest =>
    decide (first ≤ point) && (decide (point ≤ last) || covers point rest)

@[simp] theorem covers_nil (point : Nat) : covers point [] = false := rfl

/-- All code points of an ascending table are at its beginning or above. -/
theorem le_of_mem {least : Nat} {table : Ranges} (ascending : ascendingFrom least table = true)
    {range : Nat × Nat} (member : range ∈ table) : least ≤ range.1 := by
  induction table generalizing least with
  | nil => cases member
  | cons head rest ih =>
    simp only [ascendingFrom, Bool.and_eq_true, decide_eq_true_eq] at ascending
    obtain ⟨⟨above, proper⟩, tail⟩ := ascending
    rcases List.mem_cons.1 member with rfl | member
    · exact above
    · have := ih tail member
      omega

/-- An ascending table covers the code points of its ranges and no others. -/
theorem covers_iff {least : Nat} {table : Ranges} (ascending : ascendingFrom least table = true)
    (point : Nat) :
    covers point table = true ↔ ∃ range ∈ table, range.1 ≤ point ∧ point ≤ range.2 := by
  induction table generalizing least with
  | nil => simp
  | cons head rest ih =>
    simp only [ascendingFrom, Bool.and_eq_true, decide_eq_true_eq] at ascending
    obtain ⟨⟨_, proper⟩, tail⟩ := ascending
    simp only [covers, Bool.and_eq_true, Bool.or_eq_true, decide_eq_true_eq, ih tail,
      List.mem_cons, exists_eq_or_imp]
    constructor
    · rintro ⟨above, below | inside⟩
      · exact .inl ⟨above, below⟩
      · exact .inr inside
    · rintro (⟨above, below⟩ | ⟨range, member, above, below⟩)
      · exact ⟨above, .inl below⟩
      · have := le_of_mem tail member
        exact ⟨by omega, .inr ⟨range, member, above, below⟩⟩

end Ranges

end Reckoner.Text
