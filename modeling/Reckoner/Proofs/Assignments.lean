import Reckoner.Assignment
import Reckoner.Proofs.NumberGrammar

/-! # The grammar of assignments

`assignment := blank* name blank* '=' blank* number blank*`

A layout is such a division of a text into its parts. Reading accepts exactly the texts with a
layout, each of which has only one, and otherwise tells the first thing that is wrong: the equals
sign, then what stands before it, then what stands after it (`Assignment.read_decides_layout`). -/

namespace Reckoner

/-! ## Blanks around a text -/

namespace Text

/-- A text without blanks, and blanks before and after it. -/
structure Padded (before cs after : List Char) : Prop where
  before_blank : ∀ c ∈ before, isBlank c = true
  plain : ∀ c ∈ cs, isBlank c = false
  ne_nil : cs ≠ []
  after_blank : ∀ c ∈ after, isBlank c = true

namespace Padded

variable {before cs after before' cs' after' : List Char}

/-- Backwards a text is padded as well. -/
theorem reverse (padded : Padded before cs after) :
    Padded after.reverse cs.reverse before.reverse where
  before_blank := by simpa using padded.after_blank
  plain := by simpa using padded.plain
  ne_nil := by simpa using padded.ne_nil
  after_blank := by simpa using padded.before_blank

/-- The blanks before a text end where it begins. -/
theorem takeWhile_dropWhile (padded : Padded before cs after) :
    (before ++ (cs ++ after)).takeWhile isBlank = before ∧
      (before ++ (cs ++ after)).dropWhile isBlank = cs ++ after := by
  refine Token.takeWhile_dropWhile_append padded.before_blank fun c first => padded.plain c ?_
  rw [List.head?_append_of_ne_nil _ padded.ne_nil] at first
  exact List.mem_of_mem_head? first

/-- Trimmed of the blanks around it, the text is left. -/
theorem trimmed_eq (padded : Padded before cs after) :
    trimmed (before ++ (cs ++ after)) = cs := by
  have rest : Padded [] cs after := { padded with before_blank := List.forall_mem_nil _ }
  have dropped := rest.reverse.takeWhile_dropWhile.2
  rw [List.reverse_nil, List.append_nil, ← List.reverse_append] at dropped
  rw [trimmed, padded.takeWhile_dropWhile.2, dropped, List.reverse_reverse]

/-- A text can be padded in one way. -/
theorem unique (padded : Padded before cs after) (padded' : Padded before' cs' after')
    (same : before ++ (cs ++ after) = before' ++ (cs' ++ after')) :
    before = before' ∧ cs = cs' ∧ after = after' := by
  obtain rfl : before = before' := by
    rw [← padded.takeWhile_dropWhile.1, same, padded'.takeWhile_dropWhile.1]
  obtain rfl : cs = cs' := by
    rw [← padded.trimmed_eq, same, padded'.trimmed_eq]
  exact ⟨rfl, rfl, List.append_cancel_left (List.append_cancel_left same)⟩

end Padded

/-- What is trimmed off a text is blanks before and after it. -/
theorem exists_eq_append_trimmed (cs : List Char) : ∃ before after,
    cs = before ++ (trimmed cs ++ after) ∧ (∀ c ∈ before, isBlank c = true) ∧
      ∀ c ∈ after, isBlank c = true := by
  refine ⟨cs.takeWhile isBlank, ((cs.dropWhile isBlank).reverse.takeWhile isBlank).reverse,
    ?_, fun _ => List.mem_takeWhile_imp, fun c member => ?_⟩
  · rw [trimmed, ← List.reverse_append, List.takeWhile_append_dropWhile, List.reverse_reverse,
      List.takeWhile_append_dropWhile]
  · exact List.mem_takeWhile_imp (List.mem_reverse.1 member)

end Text

/-- No character of a name is a blank or an equals sign. -/
theorem Name.plain_of_isName {cs : List Char} (named : isName cs = true) :
    (∀ c ∈ cs, Text.isBlank c = false) ∧ '=' ∉ cs ∧ cs ≠ [] := by
  refine ⟨Token.isBlank_of_isName named, fun member => ?_, ?_⟩
  · have equals : isPart '=' = false := by decide
    rw [isPart_of_mem named '=' member] at equals
    cases equals
  · rintro rfl
    cases named

namespace Assignment

/-! ## Layouts -/

/-- What comes before the first equals sign, and the rest. -/
theorem takeWhile_equals {before : List Char} (first : '=' ∉ before) (after : List Char) :
    (before ++ '=' :: after).takeWhile (· ≠ '=') = before ∧
      (before ++ '=' :: after).dropWhile (· ≠ '=') = '=' :: after := by
  refine Token.takeWhile_dropWhile_append (fun c member => ?_) fun c head => ?_
  · exact decide_eq_true fun same => first (same ▸ member)
  · cases head
    rfl

/-- A text divided into a name, an equals sign, a number and what is around them. -/
@[ext] structure Layout where
  beforeName : List Char
  name : List Char
  afterName : List Char
  beforeNumber : List Char
  number : List Char
  afterNumber : List Char
  deriving DecidableEq

namespace Layout

/-- What comes before the equals sign. -/
def left (layout : Layout) : List Char := layout.beforeName ++ (layout.name ++ layout.afterName)

/-- What comes after it. -/
def right (layout : Layout) : List Char :=
  layout.beforeNumber ++ (layout.number ++ layout.afterNumber)

/-- The text that is divided. -/
def text (layout : Layout) : String := String.ofList (layout.left ++ '=' :: layout.right)

/-- The layout writes the assignment: its name is valid, its number spells the value, and the rest
is blank. -/
structure Writes (layout : Layout) (assignment : Assignment) : Prop where
  blank : ∀ c ∈ layout.beforeName ++ layout.afterName ++
    (layout.beforeNumber ++ layout.afterNumber), Text.isBlank c = true
  name_eq : layout.name = assignment.name.toList
  valid : Name.valid assignment.name = true
  spells : Decimal.Spells layout.number assignment.value

variable {layout layout' : Layout} {assignment assignment' : Assignment}

namespace Writes

/-- The blanks of a layout are around its name and around its number. -/
theorem padded (writes : layout.Writes assignment) :
    Text.Padded layout.beforeName layout.name layout.afterName ∧
      Text.Padded layout.beforeNumber layout.number layout.afterNumber := by
  obtain ⟨blank, name_eq, valid, spells⟩ := writes
  obtain ⟨plain, -, some⟩ := Name.plain_of_isName valid
  rw [← name_eq] at plain some
  simp only [List.forall_mem_append] at blank
  obtain ⟨⟨beforeName, afterName⟩, beforeNumber, afterNumber⟩ := blank
  exact ⟨⟨beforeName, plain, some, afterName⟩,
    beforeNumber, spells.isBlank_eq_false, spells.ne_nil, afterNumber⟩

/-- The equals sign of a layout is the first one. -/
theorem equals_notMem_left (writes : layout.Writes assignment) : '=' ∉ layout.left := by
  obtain ⟨padded, -⟩ := writes.padded
  have blank : Text.isBlank '=' = false := rfl
  rw [left, List.mem_append, List.mem_append, writes.name_eq]
  rintro (member | member | member)
  · rw [padded.before_blank '=' member] at blank
    cases blank
  · exact (Name.plain_of_isName writes.valid).2.1 member
  · rw [padded.after_blank '=' member] at blank
    cases blank

/-- A text has one layout, and writes one assignment. -/
theorem unique (writes : layout.Writes assignment) (writes' : layout'.Writes assignment')
    (same : layout.text = layout'.text) : layout = layout' ∧ assignment = assignment' := by
  rw [text, text, String.ofList_inj] at same
  obtain ⟨taken, rest⟩ := takeWhile_equals writes.equals_notMem_left layout.right
  obtain ⟨taken', rest'⟩ := takeWhile_equals writes'.equals_notMem_left layout'.right
  have left : layout.left = layout'.left := by rw [← taken, same, taken']
  have right : '=' :: layout.right = '=' :: layout'.right := by rw [← rest, same, rest']
  -- the first equals sign divides the text, and each side is padded in one way
  obtain ⟨name_padded, number_padded⟩ := writes.padded
  obtain ⟨name_padded', number_padded'⟩ := writes'.padded
  have names := name_padded.unique name_padded' left
  have numbers := number_padded.unique number_padded' (List.tail_eq_of_cons_eq right)
  have name : assignment.name = assignment'.name := by
    rw [← String.toList_inj, ← writes.name_eq, names.2.1, writes'.name_eq]
  have spells := writes'.spells
  rw [← numbers.2.1] at spells
  have value : assignment.value = assignment'.value := writes.spells.unique spells
  refine ⟨Layout.ext names.1 names.2.1 names.2.2 numbers.1 numbers.2.1 numbers.2.2, ?_⟩
  cases assignment
  cases assignment'
  exact congrArg₂ Assignment.mk name value

end Writes

end Layout

/-! ## Reading -/

variable {text : String} {name value : List Char} {assignment : Assignment}

/-- Every text without an equals sign is refused for that. -/
theorem read_of_notMem (none : '=' ∉ text.toList) : read text = .error (.noEquals text) := by
  have dropped : text.toList.dropWhile (· ≠ '=') = [] := by
    refine List.dropWhile_eq_nil_iff.2 fun c member => decide_eq_true ?_
    rintro rfl
    exact none member
  rw [read, dropped]

/-- A text with an equals sign is read in the parts before and after the first one. -/
theorem read_of_split (split : text.toList = name ++ '=' :: value) (first : '=' ∉ name) :
    read text = ofParts name value := by
  obtain ⟨taken, dropped⟩ := takeWhile_equals first value
  rw [read, split, taken, dropped]

/-- What is no name is refused, whatever the value. -/
theorem ofParts_of_not_isName (unnamed : Name.isName (Text.trimmed name) = false) :
    ofParts name value = .error (.invalidName (String.ofList (Text.trimmed name))) := by
  simp [ofParts, unnamed]

/-- After a name, what spells no float is refused. -/
theorem ofParts_of_not_spells (named : Name.isName (Text.trimmed name) = true)
    (wrong : ∀ x, ¬ Decimal.Spells (Text.trimmed value) x) :
    ofParts name value = .error (.notNumber (String.ofList (Text.trimmed value))) := by
  have none : Decimal.readFloat? (String.ofList (Text.trimmed value)) = none := by
    refine Option.eq_none_iff_forall_ne_some.2 fun x read => wrong x ?_
    simpa using Decimal.readFloat?_eq_some_iff.1 read
  simp [ofParts, named, none]

/-- A name and what spells a float make an assignment. -/
theorem ofParts_of_spells (named : Name.isName (Text.trimmed name) = true) {x : Float}
    (spells : Decimal.Spells (Text.trimmed value) x) :
    ofParts name value = .ok ⟨String.ofList (Text.trimmed name), x⟩ := by
  simp [ofParts, named, spells.readFloat?_eq_some]

/-- The assignment that a layout writes is read. -/
theorem Layout.Writes.read_eq_ok {layout : Layout} (writes : layout.Writes assignment) :
    read layout.text = .ok assignment := by
  obtain ⟨name_padded, number_padded⟩ := writes.padded
  have name : Text.trimmed layout.left = assignment.name.toList :=
    name_padded.trimmed_eq.trans writes.name_eq
  have number : Text.trimmed layout.right = layout.number := number_padded.trimmed_eq
  rw [Layout.text, read_of_split String.toList_ofList writes.equals_notMem_left,
    ofParts_of_spells (name ▸ writes.valid) (number ▸ writes.spells), name, String.ofList_toList]

/-- Only a name and what spells a float make an assignment. -/
theorem exists_of_ofParts (accepted : ofParts name value = .ok assignment) :
    Name.isName (Text.trimmed name) = true ∧
      ∃ x, Decimal.Spells (Text.trimmed value) x ∧
        assignment = ⟨String.ofList (Text.trimmed name), x⟩ := by
  cases named : Name.isName (Text.trimmed name) with
  | false =>
    rw [ofParts_of_not_isName named] at accepted
    cases accepted
  | true =>
    by_cases spelled : ∃ x, Decimal.Spells (Text.trimmed value) x
    · obtain ⟨x, spells⟩ := spelled
      rw [ofParts_of_spells named spells] at accepted
      cases accepted
      exact ⟨rfl, x, spells, rfl⟩
    · rw [ofParts_of_not_spells named (not_exists.1 spelled)] at accepted
      cases accepted

/-- What is read has a layout. -/
theorem exists_layout_of_read (accepted : read text = .ok assignment) :
    ∃ layout : Layout, layout.text = text ∧ layout.Writes assignment := by
  by_cases equals : '=' ∈ text.toList
  · obtain ⟨left, right, split, first⟩ := List.eq_append_cons_of_mem equals
    rw [read_of_split split first] at accepted
    obtain ⟨named, x, spells, rfl⟩ := exists_of_ofParts accepted
    obtain ⟨before, after, left_eq, blank⟩ := Text.exists_eq_append_trimmed left
    obtain ⟨before', after', right_eq, blank'⟩ := Text.exists_eq_append_trimmed right
    refine ⟨⟨before, Text.trimmed left, after, before', Text.trimmed right, after'⟩, ?_, ?_⟩
    · rw [Layout.text, Layout.left, Layout.right, ← left_eq, ← right_eq, ← split,
        String.ofList_toList]
    · refine ⟨?_, String.toList_ofList.symm, ?_, spells⟩
      · rw [List.forall_mem_append, List.forall_mem_append, List.forall_mem_append]
        exact ⟨blank, blank'⟩
      · rw [Name.valid, String.toList_ofList]
        exact named
  · rw [read_of_notMem equals] at accepted
    cases accepted

/-- **Reading an assignment decides its grammar.** A text is read as an assignment exactly if it has
a layout that writes the assignment, and it has one layout at most, with one assignment. Without a
layout it is refused: for the equals sign if it has none, or else for what stands before the first
one if this is no name, whatever follows, or else for what stands after it. -/
theorem read_decides_layout (text : String) :
    (∀ assignment, read text = .ok assignment ↔
      ∃ layout : Layout, layout.text = text ∧ layout.Writes assignment) ∧
    (∀ (layout layout' : Layout) (assignment assignment' : Assignment), layout.text = text →
      layout'.text = text → layout.Writes assignment → layout'.Writes assignment' →
        layout = layout' ∧ assignment = assignment') ∧
    ('=' ∉ text.toList →
      (read text).mapError Fault.message = .error ("expected NAME=VALUE, got '" ++ text ++ "'")) ∧
    ∀ name value, text.toList = name ++ '=' :: value → '=' ∉ name →
      (Name.isName (Text.trimmed name) = false →
        (read text).mapError Fault.message =
          .error ("'" ++ String.ofList (Text.trimmed name) ++ "' is not a valid variable name")) ∧
      (Name.isName (Text.trimmed name) = true →
        (∀ x, ¬ Decimal.Spells (Text.trimmed value) x) →
          (read text).mapError Fault.message =
            .error ("'" ++ String.ofList (Text.trimmed value) ++ "' is not a number")) := by
  refine ⟨fun assignment => ⟨exists_layout_of_read, ?_⟩, ?_, fun none => ?_,
    fun name value split first => ⟨fun unnamed => ?_, fun named wrong => ?_⟩⟩
  · rintro ⟨layout, rfl, writes⟩
    exact writes.read_eq_ok
  · rintro layout layout' assignment assignment' rfl same writes writes'
    exact writes.unique writes' same.symm
  · rw [read_of_notMem none]
    rfl
  · rw [read_of_split split first, ofParts_of_not_isName unnamed]
    rfl
  · rw [read_of_split split first, ofParts_of_not_spells named wrong]
    rfl

end Assignment

end Reckoner
