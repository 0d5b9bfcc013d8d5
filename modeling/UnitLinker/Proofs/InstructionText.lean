import Mathlib
import UnitLinker.Image.Listing
import UnitLinker.Proofs.ConstantText

/-!
# Instructions told apart by their texts

The text of a linked instruction says which instruction it is, in a listing with notes
as well as without. Mnemonics fill a column of their own, so the text splits into the
operation and its operands; then every operand can be read off, whatever characters the
names of types, routines and variables have.
-/

namespace UnitLinker

/-- What an instruction does, without its operands. -/
inductive Opcode where
  | comment | nop | push | pop | dup | swap | load | store | addrOf | loadIndirect | storeIndirect
  | element | field
  | binary (op : BinaryOp)
  | unary (op : UnaryOp)
  | jump | jumpIf | jumpIfNot | call | builtin | enter | leave | ret | halt
  deriving DecidableEq

namespace Opcode

def mnemonic : Opcode → String
  | .comment => "//"
  | .nop => "nop"
  | .push => "push"
  | .pop => "pop"
  | .dup => "dup"
  | .swap => "swap"
  | .load => "load"
  | .store => "store"
  | .addrOf => "addrof"
  | .loadIndirect => "ldind"
  | .storeIndirect => "stind"
  | .element => "el"
  | .field => "field"
  | .binary op => op.mnemonic
  | .unary op => op.mnemonic
  | .jump => "jmp"
  | .jumpIf => "jmpif"
  | .jumpIfNot => "jmpnot"
  | .call => "call"
  | .builtin => "builtin"
  | .enter => "enter"
  | .leave => "leave"
  | .ret => "ret"
  | .halt => "halt"

/-- The mnemonic of an operation in its column. -/
def column (opcode : Opcode) : String := Instruction.inColumn opcode.mnemonic

def all : List Opcode :=
  [.comment, .nop, .push, .pop, .dup, .swap, .load, .store, .addrOf, .loadIndirect, .storeIndirect,
    .element, .field, .binary .add, .binary .sub, .binary .mul, .binary .div, .binary .intDiv,
    .binary .mod, .binary .and, .binary .or, .binary .xor, .binary .shl, .binary .shr, .binary .eq,
    .binary .notEq, .binary .lt, .binary .ltEq, .binary .gt, .binary .gtEq, .binary .member,
    .unary .neg, .unary .not, .jump, .jumpIf, .jumpIfNot, .call, .builtin, .enter, .leave, .ret,
    .halt]

theorem mem_all (opcode : Opcode) : opcode ∈ all := by
  cases opcode with
  | binary op => cases op <;> decide
  | unary op => cases op <;> decide
  | _ => decide

/-- No two operations have the same mnemonic. -/
theorem columns_nodup : (all.map column).Nodup := by decide +kernel

/-- A mnemonic fills its column, and none is too long for it. -/
theorem length_column (opcode : Opcode) :
    opcode.column.toList.length = Instruction.mnemonicWidth := by
  have lengths : ∀ opcode ∈ all, opcode.column.toList.length = Instruction.mnemonicWidth := by
    decide +kernel
  exact lengths opcode opcode.mem_all

/-- The operation is read off the column of its mnemonic. -/
theorem column_append_inj {first second : Opcode} {rest more : String}
    (same : first.column ++ rest = second.column ++ more) : first = second ∧ rest = more := by
  have lists := congrArg String.toList same
  rw [String.toList_append, String.toList_append] at lists
  obtain ⟨sameColumn, sameRest⟩ :=
    List.append_inj lists (first.length_column.trans second.length_column.symm)
  exact ⟨List.inj_on_of_nodup_map columns_nodup first.mem_all second.mem_all
    (String.toList_inj.1 sameColumn), String.toList_inj.1 sameRest⟩

end Opcode

namespace Instruction

def opcode : Instruction → Opcode
  | .comment _ => .comment
  | .nop => .nop
  | .push _ => .push
  | .pop => .pop
  | .dup => .dup
  | .swap => .swap
  | .load _ => .load
  | .store _ => .store
  | .addrOf _ => .addrOf
  | .loadIndirect => .loadIndirect
  | .storeIndirect => .storeIndirect
  | .element _ => .element
  | .field _ _ => .field
  | .binary op => .binary op
  | .unary op => .unary op
  | .jump _ => .jump
  | .jumpIf _ => .jumpIf
  | .jumpIfNot _ => .jumpIfNot
  | .call _ _ => .call
  | .builtin _ _ => .builtin
  | .enter _ _ => .enter
  | .leave => .leave
  | .ret => .ret
  | .halt => .halt

/-- The text of an instruction after its column. -/
def operandsIn (style : OperandStyle) : Instruction → String
  | .comment text => " " ++ text
  | .push value => " " ++ value.render
  | .load var | .store var => " " ++ style.var var
  | .addrOf var => " @" ++ style.var var
  | .element arrayType => " " ++ arrayType ++ "[]"
  | .field recordType index => " " ++ recordType ++ "." ++ toString index
  | .jump target | .jumpIf target | .jumpIfNot target => " " ++ style.target target
  | .call callee argCount => " " ++ style.callee callee ++ "/" ++ toString argCount
  | .builtin name argCount => " " ++ name ++ "/" ++ toString argCount
  | .enter depth locals => " level " ++ (toString depth ++ (", " ++ toString locals ++ " locals"))
  | _ => ""

/-- The text of an instruction is the column of its mnemonic with the operands after it. -/
theorem renderIn_eq (style : OperandStyle) (instruction : Instruction) :
    instruction.renderIn style = instruction.opcode.column ++ instruction.operandsIn style := by
  cases instruction <;>
    simp [renderIn, operandsIn, opcode, Opcode.column, Opcode.mnemonic, String.append_assoc,
      toString]

end Instruction

namespace OperandStyle

/-- A style that writes what a linked operand is, perhaps with a note after it. -/
structure WritesPlaces (style : OperandStyle) : Prop where
  frame : ∀ depth slot, style.var (.frame depth slot) = VarRef.render (.frame depth slot)
  global : ∀ slot, ∃ note, Text.StopsNumber note.toList
    ∧ style.var (.global slot) = "G" ++ (toString slot ++ note)
  target : ∀ address, style.target (.address address) = "@" ++ toString address
  callee : ∀ address, ∃ note, Text.StopsNumber note.toList
    ∧ style.callee (.address address) = "@" ++ (toString address ++ note)

/-- References as they are have no notes. -/
theorem writesPlaces_plain : WritesPlaces .plain where
  frame _ _ := rfl
  global slot := ⟨"", by simp, by simp [plain, VarRef.render, toString]⟩
  target _ := rfl
  callee address := ⟨"", by simp, by simp [plain, Callee.render, toString]⟩

/-- In an image, notes stand after slots and after the addresses of calls. -/
theorem writesPlaces_image (image : Image) : WritesPlaces image.style where
  frame _ _ := rfl
  global slot := by
    cases owned : image.globals[slot.toNat]? with
    | none => exact ⟨"", by simp, by simp [Image.style, owned, toString]⟩
    | some owner =>
      refine ⟨s!" ({owner.text})", ?_, ?_⟩
      · simp [toString]
      · simp [Image.style, owned, toString, String.append_assoc]
  target _ := rfl
  callee address := by
    cases found : image.routineAt? address with
    | none => exact ⟨"", by simp, by simp [Image.style, found, toString]⟩
    | some name =>
      refine ⟨s!" ({name})", ?_, ?_⟩
      · simp [toString]
      · simp [Image.style, found, toString, String.append_assoc]

/-- What is written after the slot of a local: how many levels up its routine is. -/
def levelNote (depth : UInt64) : String := if depth = 0 then "" else "^" ++ toString depth

theorem render_frame (depth slot : UInt64) :
    VarRef.render (.frame depth slot) = "L" ++ (toString slot ++ levelNote depth) := by
  by_cases own : depth = 0 <;>
    simp [VarRef.render, levelNote, own, toString, String.append_assoc]

theorem stopsNumber_levelNote (depth : UInt64) : Text.StopsNumber (levelNote depth).toList := by
  by_cases own : depth = 0 <;> simp [levelNote, own]

/-- The levels are read off their note. -/
theorem levelNote_inj {first second : UInt64} (same : levelNote first = levelNote second) :
    first = second := by
  by_cases own : first = 0 <;> by_cases otherOwn : second = 0 <;>
    simp only [levelNote, own, otherOwn, if_true, if_false] at same ⊢
  · simp at same
  · simp at same
  · exact Text.word_inj ((String.append_right_inj _).1 same)

namespace WritesPlaces

variable {style : OperandStyle} (writes : style.WritesPlaces)
include writes

/-- A local is not written like a global variable. -/
theorem frame_ne_global (depth slot other : UInt64) :
    style.var (.frame depth slot) ≠ style.var (.global other) := by
  obtain ⟨note, _, text⟩ := writes.global other
  rw [writes.frame, render_frame, text]
  intro same
  have firsts := congrArg (fun text => text.toList.head?) same
  simp at firsts

/-- Linked variables are told apart by their texts. -/
theorem var_inj {first second : VarRef} (linked : first.isLinked = true)
    (otherLinked : second.isLinked = true) (same : style.var first = style.var second) :
    first = second := by
  cases first with
  | slot _ | named _ | qualified _ _ => cases linked
  | frame depth slot =>
    cases second with
    | slot _ | named _ | qualified _ _ => cases otherLinked
    | frame otherDepth other =>
      rw [writes.frame, writes.frame, render_frame, render_frame] at same
      obtain ⟨rfl, sameNote⟩ := Text.word_append_inj (stopsNumber_levelNote depth)
        (stopsNumber_levelNote otherDepth) ((String.append_right_inj _).1 same)
      rw [levelNote_inj sameNote]
    | global other =>
      exact absurd same (writes.frame_ne_global depth slot other)
  | global slot =>
    cases second with
    | slot _ | named _ | qualified _ _ => cases otherLinked
    | frame otherDepth other =>
      exact absurd same.symm (writes.frame_ne_global otherDepth other slot)
    | global other =>
      obtain ⟨note, stops, text⟩ := writes.global slot
      obtain ⟨otherNote, otherStops, otherText⟩ := writes.global other
      rw [text, otherText] at same
      rw [(Text.word_append_inj stops otherStops ((String.append_right_inj _).1 same)).1]

/-- Linked jump targets are told apart by their texts. -/
theorem target_inj {first second : JumpTarget} (linked : first.isLinked = true)
    (otherLinked : second.isLinked = true) (same : style.target first = style.target second) :
    first = second := by
  cases first with
  | label _ | offset _ => cases linked
  | address address =>
    cases second with
    | label _ | offset _ => cases otherLinked
    | address other =>
      rw [writes.target, writes.target] at same
      rw [Text.word_inj ((String.append_right_inj _).1 same)]

/-- Linked callees are told apart by their texts. -/
theorem callee_inj {first second : Callee} (linked : first.isLinked = true)
    (otherLinked : second.isLinked = true) (same : style.callee first = style.callee second) :
    first = second := by
  cases first with
  | routine _ | qualified _ _ => cases linked
  | address address =>
    cases second with
    | routine _ | qualified _ _ => cases otherLinked
    | address other =>
      obtain ⟨note, stops, text⟩ := writes.callee address
      obtain ⟨otherNote, otherStops, otherText⟩ := writes.callee other
      rw [text, otherText] at same
      rw [(Text.word_append_inj stops otherStops ((String.append_right_inj _).1 same)).1]

/-- The operands of an operation are read off their text. -/
theorem operandsIn_inj {first second : Instruction} (sameOpcode : first.opcode = second.opcode)
    (linked : first.isLinked = true) (otherLinked : second.isLinked = true)
    (notReal : ∀ real, first ≠ .push (.real real))
    (otherNotReal : ∀ real, second ≠ .push (.real real))
    (same : first.operandsIn style = second.operandsIn style) : first = second := by
  cases first <;> cases second <;> cases sameOpcode
  case comment.comment => rw [(String.append_right_inj _).1 same]
  case push.push value other =>
    have sameText := (String.append_right_inj _).1 same
    rw [Value.eq_of_render_eq (fun real isReal => notReal real (congrArg _ isReal))
      (fun real isReal => otherNotReal real (congrArg _ isReal)) sameText]
  case load.load | store.store | addrOf.addrOf =>
    rw [writes.var_inj linked otherLinked ((String.append_right_inj _).1 same)]
  case jump.jump | jumpIf.jumpIf | jumpIfNot.jumpIfNot =>
    rw [writes.target_inj linked otherLinked ((String.append_right_inj _).1 same)]
  case element.element => rw [Text.between_inj same]
  -- A name may have separators of its own, so the number is read from the end.
  case field.field | builtin.builtin =>
    obtain ⟨sameText, rfl⟩ := Text.append_word_inj (by simp) (by simp) same
    rw [Text.between_inj sameText]
  case call.call =>
    obtain ⟨sameText, rfl⟩ := Text.append_word_inj (by simp) (by simp) same
    rw [writes.callee_inj linked otherLinked (Text.between_inj sameText)]
  case enter.enter =>
    obtain ⟨rfl, sameRest⟩ :=
      Text.word_append_inj (by simp) (by simp) ((String.append_right_inj _).1 same)
    rw [Text.word_inj (Text.between_inj sameRest)]
  all_goals rfl

/-- Instructions with the same text have the same operation and the same operands. -/
theorem eq_of_renderIn_eq {first second : Instruction} (linked : first.isLinked = true)
    (otherLinked : second.isLinked = true) (notReal : ∀ real, first ≠ .push (.real real))
    (otherNotReal : ∀ real, second ≠ .push (.real real))
    (same : first.renderIn style = second.renderIn style) : first = second := by
  rw [Instruction.renderIn_eq, Instruction.renderIn_eq] at same
  obtain ⟨sameOpcode, sameOperands⟩ := Opcode.column_append_inj same
  exact writes.operandsIn_inj sameOpcode linked otherLinked notReal otherNotReal sameOperands

end WritesPlaces

end OperandStyle

namespace Instruction

/-- Linked instructions that push no real are told apart by their texts, written as they
are and with the notes of any image. -/
theorem linked_text_unambiguous {first second : Instruction} (linked : first.isLinked = true)
    (otherLinked : second.isLinked = true) (notReal : ∀ real, first ≠ .push (.real real))
    (otherNotReal : ∀ real, second ≠ .push (.real real)) :
    (first.render = second.render → first = second)
      ∧ ∀ image : Image, first.renderIn image.style = second.renderIn image.style →
        first = second := by
  constructor
  · apply OperandStyle.writesPlaces_plain.eq_of_renderIn_eq linked otherLinked notReal otherNotReal
  · intro image
    apply (OperandStyle.writesPlaces_image image).eq_of_renderIn_eq linked otherLinked notReal
      otherNotReal

/-- Pairs of instructions whose texts are close, such as those of `@1/12` and `@11/2`. -/
def closePairs : List (Instruction × Instruction) :=
  [(.call (.address 1) 12, .call (.address 11) 2), (.field "a.1" 2, .field "a" 12),
    (.load (.frame 2 1), .load (.frame 0 12)), (.push (.text "nil"), .push .nil)]

theorem linked_text_unambiguous_close : closePairs.Forall fun pair =>
    pair.1.isLinked = true ∧ pair.2.isLinked = true
      ∧ (∀ real, pair.1 ≠ .push (.real real)) ∧ (∀ real, pair.2 ≠ .push (.real real))
      ∧ pair.1.render ≠ pair.2.render
      ∧ ∀ image : Image, pair.1.renderIn image.style ≠ pair.2.renderIn image.style := by
  rw [List.forall_iff_forall_mem]
  intro pair member
  have linked : pair.1.isLinked = true ∧ pair.2.isLinked = true ∧ pair.1 ≠ pair.2 := by
    revert pair
    decide
  have noReals : (∀ real, pair.1 ≠ .push (.real real)) ∧ ∀ real, pair.2 ≠ .push (.real real) := by
    simp only [closePairs, List.mem_cons, List.not_mem_nil, or_false] at member
    rcases member with rfl | rfl | rfl | rfl <;> simp
  obtain ⟨plain, noted⟩ := linked_text_unambiguous linked.1 linked.2.1 noReals.1 noReals.2
  exact ⟨linked.1, linked.2.1, noReals.1, noReals.2, fun same => linked.2.2 (plain same),
    fun image same => linked.2.2 (noted image same)⟩

-- Reals are rounded: both of these have the text of one.
example : (Instruction.push (.real ⟨0x3FF0000000000000⟩)).render
    = (Instruction.push (.real ⟨0x3FF0000000000001⟩)).render := by decide

end Instruction

end UnitLinker
