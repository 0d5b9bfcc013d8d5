import UnitLinker.Instruction.Basic
import UnitLinker.Text.Align
import UnitLinker.Word

/-!
# Instruction text

An instruction is shown as a mnemonic in a column of its own with the operands
after it. In a list every instruction has its number, and the code between the
opening and the closing of a frame is indented.
-/

namespace UnitLinker

/-- How references are written. -/
structure OperandStyle where
  var : VarRef → String
  target : JumpTarget → String
  callee : Callee → String

/-- References written as they are. -/
def OperandStyle.plain : OperandStyle := ⟨VarRef.render, JumpTarget.render, Callee.render⟩

namespace Instruction

/-- The column of mnemonics. -/
def mnemonicWidth : Nat := 8

/-- A mnemonic in its column. -/
def inColumn (mnemonic : String) : String := Text.alignRight mnemonicWidth mnemonic

/-- The text of an instruction with references in a given style. -/
def renderIn (style : OperandStyle) : Instruction → String
  | .comment text => inColumn "//" ++ " " ++ text
  | .nop => inColumn "nop"
  | .push value => inColumn "push" ++ " " ++ value.render
  | .pop => inColumn "pop"
  | .dup => inColumn "dup"
  | .swap => inColumn "swap"
  | .load var => inColumn "load" ++ " " ++ style.var var
  | .store var => inColumn "store" ++ " " ++ style.var var
  | .addrOf var => inColumn "addrof" ++ " @" ++ style.var var
  | .loadIndirect => inColumn "ldind"
  | .storeIndirect => inColumn "stind"
  | .element arrayType => inColumn "el" ++ " " ++ arrayType ++ "[]"
  | .field recordType index => inColumn "field" ++ s!" {recordType}.{index}"
  | .binary op => inColumn op.mnemonic
  | .unary op => inColumn op.mnemonic
  | .jump target => inColumn "jmp" ++ " " ++ style.target target
  | .jumpIf target => inColumn "jmpif" ++ " " ++ style.target target
  | .jumpIfNot target => inColumn "jmpnot" ++ " " ++ style.target target
  | .call callee argCount => inColumn "call" ++ " " ++ style.callee callee ++ s!"/{argCount}"
  | .builtin name argCount => inColumn "builtin" ++ s!" {name}/{argCount}"
  | .enter depth locals => inColumn "enter" ++ s!" level {depth}, {locals} locals"
  | .leave => inColumn "leave"
  | .ret => inColumn "ret"
  | .halt => inColumn "halt"

/-- The text of an instruction with references as they are. -/
def render (instruction : Instruction) : String := instruction.renderIn .plain

/-- The nesting depth that an instruction is shown at: closing a frame is shown
at the depth of its opening. -/
def shownDepth (depth : Nat) : Instruction → Nat
  | .leave => depth - 1
  | _ => depth

/-- The nesting depth after an instruction. -/
def depthAfter (depth : Nat) : Instruction → Nat
  | .leave => depth - 1
  | .enter _ _ => depth + 1
  | _ => depth

/-- Every instruction with the depth that it is shown at. -/
def withDepths (depth : Nat) : List Instruction → List (Nat × Instruction)
  | [] => []
  | instruction :: rest =>
    (instruction.shownDepth depth, instruction) :: withDepths (instruction.depthAfter depth) rest

/-- Blanks for one level of indentation of an instruction list. -/
def listIndent : Nat := 4

/-- One line of an instruction list. -/
structure ListLine where
  number : Nat
  depth : Nat
  instruction : Instruction
  deriving DecidableEq, Repr

namespace ListLine

/-- A line as text: its number in a column, a bar, the indentation and the
instruction. -/
def render (style : OperandStyle) (width : Nat) (line : ListLine) : String :=
  Text.alignRight width (toString line.number) ++ "|"
    ++ Text.blanks (listIndent * line.depth) ++ line.instruction.renderIn style

end ListLine

/-- The lines of instructions that are numbered from a base. -/
def listLines (base : Nat) (code : List Instruction) : List ListLine :=
  (withDepths 0 code).zipIdx base |>.map fun entry => ⟨entry.2, entry.1.1, entry.1.2⟩

/-- The column of numbers has room for the number after the last one. -/
def numberWidth (base count : Nat) : Nat := (toString (base + count)).length

/-- An instruction list as text. -/
def listText (style : OperandStyle) (base : Nat) (code : List Instruction) : String :=
  Text.lines ((listLines base code).map (ListLine.render style (numberWidth base code.length)))

/-- An instruction list as text, if the number after the last one is a word. -/
def checkedListText (style : OperandStyle) (base : UInt64) (code : List Instruction) :
    Except Fault String :=
  if base.toNat + code.length < Word.count then .ok (listText style base.toNat code)
  else .error .overflow

/-- The blanks in front of an instruction for indentations of several widths
one inside the other. -/
def indentation (depth : Nat) : List UInt64 → Except Fault Nat
  | [] => .ok 0
  | width :: widths => do
    let blanks ← Word.mul (UInt64.ofNat depth) width
    let inner ← indentation depth widths
    return blanks.toNat + inner

/-- Instructions as indented lines without numbers. -/
def nestedLines (style : OperandStyle) (widths : List UInt64) (code : List Instruction) :
    Except Fault (List String) :=
  (withDepths 0 code).mapM fun entry => do
    let width ← indentation entry.1 widths
    return Text.blanks width ++ entry.2.renderIn style

end Instruction

end UnitLinker
