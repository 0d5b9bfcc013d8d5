import Mathlib
import UnitLinker.Proofs.FrameNesting

/-!
# Aligned instruction lists

An instruction list has a line for each instruction. The numbers are moved to the right of a
column that has room for the number after the last one, so that the bars are below each other,
and instructions are indented by the nesting of frames.
-/

namespace UnitLinker

namespace Text

theorem length_blanks (width : Nat) : (blanks width).length = width := by
  simp [blanks]

/-- A text that fits into its column fills it. -/
theorem length_alignRight {width : Nat} {text : String} (fits : text.length ≤ width) :
    (alignRight width text).length = width := by
  rw [alignRight, String.length_append, length_blanks, Nat.sub_add_cancel fits]

theorem length_toString (number : Nat) :
    (toString number).length = (Nat.toDigits 10 number).length := by
  rw [← Nat.toList_repr, String.length_toList]
  rfl

/-- A number has no more digits than a larger one. -/
theorem length_toString_le {number other : Nat} (smaller : number ≤ other) :
    (toString number).length ≤ (toString other).length := by
  rw [length_toString, length_toString, Nat.length_toDigits_le_iff (by decide)
    Nat.length_toDigits_pos]
  apply lt_of_le_of_lt smaller
  exact (Nat.length_toDigits_le_iff (by decide) Nat.length_toDigits_pos).1 le_rfl

/-- The text of a positive number has its decimal digits. -/
theorem length_toString_eq_digits {number : Nat} (positive : 0 < number) :
    (toString number).length = (Nat.digits 10 number).length := by
  have hasDigits : 0 < (Nat.digits 10 number).length := by
    rw [List.length_pos_iff, Nat.digits_ne_nil_iff_ne_zero]
    exact positive.ne'
  rw [length_toString]
  apply le_antisymm
  · rw [Nat.length_toDigits_le_iff (by decide) hasDigits, ← Nat.digits_length_le_iff (by decide)]
  · rw [Nat.digits_length_le_iff (by decide),
      ← Nat.length_toDigits_le_iff (by decide) Nat.length_toDigits_pos]

end Text

namespace Instruction

variable {code : List Instruction} {instruction : Instruction} {place : Nat}

theorem length_withDepths (depth : Nat) (code : List Instruction) :
    (withDepths depth code).length = code.length := by
  induction code generalizing depth with
  | nil => rfl
  | cons first rest ih => rw [withDepths, List.length_cons, List.length_cons, ih]

theorem length_listLines (base : Nat) (code : List Instruction) :
    (listLines base code).length = code.length := by
  rw [listLines, List.length_map, List.length_zipIdx, length_withDepths]

/-- The line of an instruction has its number and the depth of its nesting. -/
theorem getElem?_listLines (base : Nat) (found : code[place]? = some instruction) :
    (listLines base code)[place]? = some ⟨base + place, nesting code place, instruction⟩ := by
  rw [listLines, List.getElem?_map, List.getElem?_zipIdx, getElem?_withDepths, found]
  simp only [Option.map_some, shownDepth_eq_nesting found]

/-- The lines of an instruction list with their line feeds. -/
def listRecords (style : OperandStyle) (base : Nat) (code : List Instruction) : List String :=
  (listLines base code).map fun line =>
    line.render style (numberWidth base code.length) ++ "\n"

/-- A list is written record by record. -/
theorem listText_eq (style : OperandStyle) (base : Nat) (code : List Instruction) :
    listText style base code = String.join (listRecords style base code) := by
  rw [listText, Text.lines, List.map_map]
  rfl

/-- The number of every line fills the column. -/
theorem length_number (base : Nat) (found : code[place]? = some instruction) :
    (Text.alignRight (numberWidth base code.length) (toString (base + place))).length
      = (Nat.digits 10 (base + code.length)).length := by
  have inside : place < code.length := (List.getElem?_eq_some_iff.1 found).1
  rw [numberWidth, Text.length_alignRight (Text.length_toString_le (by omega))]
  exact Text.length_toString_eq_digits (by omega)

/-- An instruction list in any style has a line for each instruction: its number at the right of
a column for the digits of the number after the last one, a bar, four blanks for each level of
nesting, and the text of the instruction. If frames are nested, then the levels are the frames
around an instruction, and a frame is opened and closed at the same level. -/
theorem list_aligned_by_nesting (style : OperandStyle) (base : UInt64) (code : List Instruction)
    (fits : base.toNat + code.length < 2 ^ 64) :
    ∃ records : List String,
      checkedListText style base code = .ok (String.join records)
      ∧ records.length = code.length
      ∧ (∀ place instruction, code[place]? = some instruction →
        ∃ padding number, number = Text.blanks padding ++ toString (base.toNat + place)
          ∧ number.length = (Nat.digits 10 (base.toNat + code.length)).length
          ∧ records[place]? = some (number ++ "|" ++ Text.blanks (4 * nesting code place)
            ++ instruction.renderIn style ++ "\n"))
      ∧ (IsNested code →
        (∀ place < code.length, (framesAround code place).encard = nesting code place)
        ∧ ∀ opening closing, Matches code opening closing →
          nesting code opening = nesting code closing) := by
  refine ⟨listRecords style base.toNat code, ?_, ?_, ?_, ?_⟩
  · rw [← listText_eq]
    exact if_pos fits
  · rw [listRecords, List.length_map, length_listLines]
  · intro place instruction found
    refine ⟨_, _, rfl, length_number base.toNat found, ?_⟩
    rw [listRecords, List.getElem?_map, getElem?_listLines base.toNat found]
    rfl
  · intro nested
    exact ⟨fun place inside => nested.encard_framesAround inside,
      fun opening closing isFrame => nested.nesting_of_matches isFrame⟩

/-- A frame inside another one. -/
def innerFrame : List Instruction :=
  [.enter 1 0, .enter 2 1, .nop, .leave, .leave, .ret]

/-- The numbers get a second digit, and the column is as wide from the start. -/
theorem list_aligned_by_nesting_innerFrame :
    (∃ records, checkedListText .plain 8 innerFrame = .ok (String.join records)
      ∧ records.length = 6
      ∧ ∃ padding number, number = Text.blanks padding ++ toString 9 ∧ number.length = 2
        ∧ records[1]? = some (number ++ "|" ++ Text.blanks 4 ++ "   enter level 2, 1 locals" ++ "\n"))
    ∧ (framesAround innerFrame 2).encard = 2
    ∧ Matches innerFrame 1 3 ∧ nesting innerFrame 1 = nesting innerFrame 3 := by
  have nested : IsNested innerFrame := by decide +kernel
  have isFrame : Matches innerFrame 1 3 := ⟨⟨2, 1, rfl⟩, rfl, by decide, by decide +kernel⟩
  rcases list_aligned_by_nesting .plain 8 innerFrame (by decide) with
    ⟨records, textEq, lengthEq, lines, nestedLines⟩
  rcases nestedLines nested with ⟨frames, levels⟩
  refine ⟨⟨records, textEq, lengthEq, ?_⟩, frames 2 (by decide), isFrame, levels 1 3 isFrame⟩
  rcases lines 1 _ rfl with ⟨padding, number, numberEq, width, lineEq⟩
  exact ⟨padding, number, numberEq, width.trans (by decide +kernel), lineEq⟩

end Instruction

end UnitLinker
