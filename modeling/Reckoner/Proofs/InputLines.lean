import Mathlib.Data.List.Basic
import Reckoner.Text.Input

/-! # The lines of inputs

What is read of an input is known from its pieces: a line that is a text is read as it is, before
what follows it (`read_line`), whole lines are read before those of another input
(`read_append`), and a text is read as its lines (`read_toUTF8`). Inputs that are no texts are those
of which not all is read (`read_stop_eq_finished_iff`). All of this rests on how lines are split, and
on the line feed being a byte of no other character. -/

namespace Reckoner.Text

/-! ## Splitting lines -/

section Splitting

variable {α β : Type} [DecidableEq α] [DecidableEq β] {feed : α}

/-- Lines are complete where one ends. -/
theorem linesFrom_append (line items rest : List α) :
    linesFrom feed line (items ++ feed :: rest) =
      linesFrom feed line (items ++ [feed]) ++ linesFrom feed [] rest := by
  induction items generalizing line with
  | nil => simp [linesFrom]
  | cons item items ih =>
    by_cases ends : item = feed
    · simp only [List.cons_append, linesFrom, if_pos ends, ih]
    · simp only [List.cons_append, linesFrom, if_neg ends, ih]

/-- What ends no line goes on with the line that has begun. -/
theorem linesFrom_skip {items : List α} (unbroken : feed ∉ items) (line rest : List α) :
    linesFrom feed line (items ++ rest) = linesFrom feed (items.reverse ++ line) rest := by
  induction items generalizing line with
  | nil => rfl
  | cons item items ih =>
    rw [List.mem_cons, not_or] at unbroken
    have goesOn : item ≠ feed := fun same => unbroken.1 same.symm
    rw [List.cons_append, linesFrom, if_neg goesOn, ih unbroken.2, List.reverse_cons,
      List.append_assoc, List.singleton_append]

/-- What ends no line is the first line if it stands before the end of one. -/
theorem linesFrom_line {line : List α} (unbroken : feed ∉ line) (rest : List α) :
    linesFrom feed [] (line ++ feed :: rest) = line :: linesFrom feed [] rest := by
  rw [linesFrom_skip unbroken, linesFrom, if_pos rfl, List.append_nil, List.reverse_reverse]

/-- Lines are encoded one by one if the code of what ends them is in no other code. -/
theorem linesFrom_flatMap {code : α → List β} {feed' : β} (ends : code feed = [feed'])
    (others : ∀ item, item ≠ feed → code item ≠ [] ∧ feed' ∉ code item) (line items : List α) :
    linesFrom feed' (line.reverse.flatMap code).reverse (items.flatMap code) =
      (linesFrom feed line items).map (List.flatMap code) := by
  induction items generalizing line with
  | nil =>
    cases line with
    | nil => rfl
    | cons item line =>
      have coded : code item ≠ [] := by
        by_cases same : item = feed
        · rw [same, ends]
          exact List.cons_ne_nil _ _
        · exact (others item same).1
      simp [linesFrom, coded]
  | cons item items ih =>
    by_cases same : item = feed
    · subst same
      have rest := ih []
      simp only [List.reverse_nil, List.flatMap_nil] at rest
      simp [linesFrom, ends, rest]
    · -- the code of the item goes on with the line, which is what `ih` says of the item itself
      have rest := ih (item :: line)
      rw [List.reverse_cons, List.flatMap_append, List.flatMap_singleton, List.reverse_append]
        at rest
      rw [List.flatMap_cons, linesFrom_skip (others item same).2, rest, linesFrom, if_neg same]

end Splitting

/-! ## Reading bytes -/

/-- The bytes of a text, one character after the other. -/
def bytes (text : String) : List UInt8 := text.toList.flatMap String.utf8EncodeChar

/-- The bytes of a text are those that it is stored as. -/
theorem toList_data_toUTF8 (text : String) : text.toUTF8.data.toList = bytes text := by
  rw [String.toUTF8_eq_toByteArray, ← String.utf8Encode_toList, List.utf8Encode,
    List.toList_data_toByteArray]
  rfl

/-- The bytes of a text are read as the text. -/
theorem fromUTF8?_bytes (text : String) : String.fromUTF8? (bytes text).toByteArray = some text := by
  have stored : (bytes text).toByteArray = text.toByteArray := String.utf8Encode_toList
  rw [stored, String.fromUTF8?, dif_pos text.isValidUTF8]
  rfl

/-- No other character has the byte of the line feed. -/
theorem lineFeed_notMem_utf8EncodeChar {c : Char} (other : c ≠ '\n') :
    lineFeed ∉ String.utf8EncodeChar c := by
  have point : c.val.toNat ≠ 10 := fun same => other (Char.ext (UInt32.toNat_inj.1 same))
  have bound := c.val.toNat_lt
  have byte (n : Nat) : lineFeed = UInt8.ofNat n ↔ n % 256 = 10 := by
    rw [← UInt8.toNat_inj, UInt8.toNat_ofNat']
    exact eq_comm
  unfold String.utf8EncodeChar
  dsimp only
  split_ifs <;> simp only [List.mem_cons, List.not_mem_nil, or_false, byte] <;> omega

/-- Only the bytes of a text are read as the text. -/
theorem eq_bytes_of_fromUTF8? {line : List UInt8} {text : String}
    (decoded : String.fromUTF8? line.toByteArray = some text) : line = bytes text := by
  obtain ⟨valid, same⟩ := Option.dite_none_right_eq_some.1 decoded
  cases same
  rw [← toList_data_toUTF8]
  exact List.toList_data_toByteArray.symm

@[simp] theorem bytes_append (first second : String) :
    bytes (first ++ second) = bytes first ++ bytes second := by
  rw [bytes, String.toList_append, List.flatMap_append]
  rfl

/-- The line feed is in the bytes of a text only if it is in the text. -/
theorem lineFeed_notMem_bytes {text : String} (unbroken : '\n' ∉ text.toList) :
    lineFeed ∉ bytes text := by
  intro member
  obtain ⟨c, inside, feed⟩ := List.mem_flatMap.1 member
  refine lineFeed_notMem_utf8EncodeChar ?_ feed
  rintro rfl
  exact unbroken inside

/-- A line that is a text is read before the lines after it. -/
theorem decode_bytes (text : String) (more : List (List UInt8)) :
    decode (bytes text :: more) = (decode more).cons text := by
  rw [decode, fromUTF8?_bytes]

/-- Lines that are texts are read as they are. -/
theorem decode_map_bytes (texts : List String) : decode (texts.map bytes) = ⟨texts, .finished⟩ := by
  induction texts with
  | nil => rfl
  | cons text texts ih => rw [List.map_cons, decode_bytes, ih, Reading.cons]

/-- Where all first lines are texts, the others are read after them. -/
theorem decode_append {first : List (List UInt8)} (fine : (decode first).stop = .finished)
    (second : List (List UInt8)) :
    decode (first ++ second) = ⟨(decode first).lines ++ (decode second).lines,
      (decode second).stop⟩ := by
  induction first with
  | nil => rfl
  | cons line first ih =>
    rw [decode] at fine
    rw [List.cons_append, decode, decode]
    cases decoded : String.fromUTF8? line.toByteArray with
    | none =>
      rw [decoded] at fine
      cases fine
    | some text =>
      rw [decoded] at fine
      simp only [ih fine, Reading.cons, List.cons_append]

/-! ## Reading inputs -/

/-- **Whole lines are read before those of another input.** -/
theorem read_append {first : ByteArray}
    (ends : first = .empty ∨ ∃ begun, first = begun ++ "\n".toUTF8)
    (fine : (read first).stop = .finished) (second : ByteArray) :
    read (first ++ second) = ⟨(read first).lines ++ (read second).lines, (read second).stop⟩ := by
  have split : linesFrom lineFeed [] (first ++ second).data.toList =
      linesFrom lineFeed [] first.data.toList ++ linesFrom lineFeed [] second.data.toList := by
    rcases ends with rfl | ⟨begun, rfl⟩
    · rw [ByteArray.empty_append]
      rfl
    · have feed : "\n".toUTF8.data.toList = [lineFeed] := by decide
      simp only [ByteArray.data_append, Array.toList_append, feed, List.append_assoc,
        List.singleton_append]
      exact linesFrom_append [] _ _
  rw [read, split]
  exact decode_append fine _

/-- **A line that is a text is read before what follows it.** -/
theorem read_line {line : String} (unbroken : '\n' ∉ line.toList) (rest : ByteArray) :
    read ((line ++ "\n").toUTF8 ++ rest) = (read rest).cons line := by
  have feed : bytes "\n" = [lineFeed] := rfl
  have split : ((line ++ "\n").toUTF8 ++ rest).data.toList =
      bytes line ++ lineFeed :: rest.data.toList := by
    rw [ByteArray.data_append, Array.toList_append, toList_data_toUTF8, bytes_append, feed,
      List.append_assoc, List.singleton_append]
  rw [read, split, linesFrom_line (lineFeed_notMem_bytes unbroken), decode_bytes]
  rfl

/-- **A text is read as its lines.** -/
theorem read_toUTF8 (text : String) : read text.toUTF8 = ⟨lines text, .finished⟩ := by
  have encoded : linesFrom lineFeed [] (bytes text) = (lines text).map bytes := by
    have feed : String.utf8EncodeChar '\n' = [lineFeed] := rfl
    have split := linesFrom_flatMap feed
      (fun c other => ⟨String.utf8EncodeChar_ne_nil, lineFeed_notMem_utf8EncodeChar other⟩)
      [] text.toList
    rw [lines, List.map_map]
    simpa [bytes, Function.comp_def] using split
  rw [read, toList_data_toUTF8, encoded, decode_map_bytes]

@[simp] theorem lines_read_toUTF8 (text : String) : (read text.toUTF8).lines = lines text := by
  rw [read_toUTF8]

@[simp] theorem stop_read_toUTF8 (text : String) : (read text.toUTF8).stop = .finished := by
  rw [read_toUTF8]

/-- Bytes whose lines are texts are a text. -/
theorem exists_bytes_of_decode {line items : List UInt8}
    (fine : (decode (linesFrom lineFeed line items)).stop = .finished) :
    ∃ text, line.reverse ++ items = bytes text := by
  -- what is decoded first is a text, and the others after it are decoded as well
  have first {line : List UInt8} {more : List (List UInt8)}
      (fine : (decode (line :: more)).stop = .finished) :
      (∃ text, line = bytes text) ∧ (decode more).stop = .finished := by
    rw [decode] at fine
    split at fine
    · next text decoded => exact ⟨⟨text, eq_bytes_of_fromUTF8? decoded⟩, fine⟩
    · cases fine
  induction items generalizing line with
  | nil =>
    rw [linesFrom] at fine
    rw [List.append_nil]
    split at fine
    · next empty =>
      rw [List.isEmpty_iff.1 empty]
      exact ⟨"", rfl⟩
    · exact (first fine).1
  | cons item items ih =>
    rw [linesFrom] at fine
    split at fine
    · next feed =>
      subst feed
      obtain ⟨⟨text, same⟩, others⟩ := first fine
      obtain ⟨more, rest⟩ := ih others
      rw [List.reverse_nil, List.nil_append] at rest
      refine ⟨text ++ "\n" ++ more, ?_⟩
      rw [same, rest, bytes_append, bytes_append, List.append_assoc]
      rfl
    · obtain ⟨text, same⟩ := ih fine
      exact ⟨text, by rw [← same, List.reverse_cons, List.append_assoc, List.singleton_append]⟩

/-- **Reading comes to the end of exactly those inputs that are texts.** -/
theorem read_stop_eq_finished_iff {input : ByteArray} :
    (read input).stop = .finished ↔ ∃ text : String, input = text.toUTF8 := by
  constructor
  · intro fine
    obtain ⟨text, same⟩ := exists_bytes_of_decode fine
    rw [List.reverse_nil, List.nil_append, ← toList_data_toUTF8] at same
    exact ⟨text, ByteArray.ext (Array.toList_inj.1 same)⟩
  · rintro ⟨text, rfl⟩
    rw [read_toUTF8]

end Reckoner.Text
