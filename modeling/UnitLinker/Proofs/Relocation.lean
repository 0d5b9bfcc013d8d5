import UnitLinker.Proofs.Results

/-!
# The code of a relocated unit

Relocation rewrites one operand of an instruction and nothing else of it. Where
the sections of a unit stand in its block, and that relocating a unit fills the
block: every instruction keeps its section and offset, and the return of a block
stands at the offset after its last instruction.
-/

namespace UnitLinker

/-- An operand that linking may rewrite. -/
inductive Operand where
  | var (var : VarRef)
  | target (target : JumpTarget)
  | callee (callee : Callee)
  deriving DecidableEq, Repr

/-- Whether an operand needs no further resolution. -/
def Operand.isLinked : Operand → Bool
  | .var reference => reference.isLinked
  | .target destination => destination.isLinked
  | .callee routine => routine.isLinked

namespace Instruction

/-- The operand of an instruction that linking may rewrite. -/
def operand? : Instruction → Option Operand
  | .load var | .store var | .addrOf var => some (.var var)
  | .jump target | .jumpIf target | .jumpIfNot target => some (.target target)
  | .call callee _ => some (.callee callee)
  | _ => none

/-- The same instruction with another operand of the same sort. -/
def withOperand : Instruction → Operand → Instruction
  | .load _, .var var => .load var
  | .store _, .var var => .store var
  | .addrOf _, .var var => .addrOf var
  | .jump _, .target target => .jump target
  | .jumpIf _, .target target => .jumpIf target
  | .jumpIfNot _, .target target => .jumpIfNot target
  | .call _ argCount, .callee callee => .call callee argCount
  | instruction, _ => instruction

/-- An instruction is linked if its operand is, or if it has none. -/
theorem isLinked_eq (instruction : Instruction) :
    instruction.isLinked = instruction.operand?.all Operand.isLinked := by
  cases instruction <;> rfl

/-- Giving an instruction the operand that it has changes nothing. -/
theorem withOperand_self {instruction : Instruction} {operand : Operand}
    (has : instruction.operand? = some operand) :
    instruction.withOperand operand = instruction := by
  cases instruction <;> cases has <;> rfl

end Instruction

namespace Link

/-- The offset of a section in the block of its unit. -/
def sectionStart (unit : ObjectUnit) : Section → Nat
  | .body => 0
  | .init => unit.code.body.length
  | .final => unit.code.body.length + (unit.code.init.length + 1)

/-- Offsets at which a section has an instruction once it is placed: those of its
own instructions, and that of the return at the end of a block. -/
def IsInside (unit : ObjectUnit) : Section → Nat → Prop
  | .body, offset => offset < unit.code.body.length
  | .init, offset => offset ≤ unit.code.init.length
  | .final, offset => offset ≤ unit.code.final.length

variable {unit : ObjectUnit}

/-- The positions of instructions are inside. -/
theorem isInside_of_lt {stream : Section} {offset : Nat}
    (inside : offset < (unit.code.stream stream).length) : IsInside unit stream offset := by
  cases stream with
  | body => exact inside
  | init => exact Nat.le_of_lt inside
  | final => exact Nat.le_of_lt inside

/-- A position inside a section is among the words of the unit. -/
theorem sectionStart_add_lt {stream : Section} {offset : Nat}
    (inside : IsInside unit stream offset) :
    sectionStart unit stream + offset < Layout.codeLength unit := by
  cases stream <;> simp only [IsInside, sectionStart, Layout.codeLength] at inside ⊢ <;> omega

/-- Every word of a unit's block is a position in one of its sections. -/
theorem exists_section {word : Nat} (inside : word < Layout.codeLength unit) :
    ∃ stream offset, IsInside unit stream offset ∧ word = sectionStart unit stream + offset := by
  rw [Layout.codeLength] at inside
  by_cases inBody : word < unit.code.body.length
  · exact ⟨.body, word, inBody, (Nat.zero_add _).symm⟩
  · by_cases inInit : word < unit.code.body.length + (unit.code.init.length + 1)
    · refine ⟨.init, word - unit.code.body.length, ?_, ?_⟩
      · simp only [IsInside]
        omega
      · simp only [sectionStart]
        omega
    · refine ⟨.final, word - (unit.code.body.length + (unit.code.init.length + 1)), ?_, ?_⟩
      · simp only [IsInside]
        omega
      · simp only [sectionStart]
        omega

/-- Sections of a unit do not overlap. -/
theorem section_unique {first second : Section} {firstOffset secondOffset : Nat}
    (firstInside : IsInside unit first firstOffset)
    (secondInside : IsInside unit second secondOffset)
    (same : sectionStart unit first + firstOffset = sectionStart unit second + secondOffset) :
    first = second ∧ firstOffset = secondOffset := by
  cases first <;> cases second <;>
    simp only [IsInside, sectionStart, true_and, reduceCtorEq, false_and]
      at firstInside secondInside same ⊢ <;>
    omega

theorem getElem?_middle {α : Type} {before part after : List α} {offset : Nat}
    (inside : offset < part.length) :
    (before ++ (part ++ after))[before.length + offset]? = part[offset]? := by
  rw [List.getElem?_append_right (Nat.le_add_right _ _), Nat.add_sub_cancel_left,
    List.getElem?_append_left inside]

namespace Scope

variable {scope : Scope} {code : List Instruction}

/-- An operand after relocation, for an instruction of a given section. -/
def relocateOperand (scope : Scope) (stream : Section) : Operand → Except LinkError Operand
  | .var var => (scope.relocateVar var).map .var
  | .target target => (scope.relocateTarget stream target).map .target
  | .callee callee => (scope.relocateCallee callee).map .callee

/-- An instruction is relocated by relocating its operand. -/
theorem relocate_of_operand {stream : Section} {instruction : Instruction} {operand : Operand}
    (has : instruction.operand? = some operand) :
    scope.relocate stream instruction
      = (scope.relocateOperand stream operand).map instruction.withOperand := by
  cases instruction <;> simp only [Instruction.operand?, Option.some.injEq, reduceCtorEq] at has <;>
    subst has <;> simp only [relocate, relocateOperand]
  case load var | store var | addrOf var => cases scope.relocateVar var <;> rfl
  case jump target | jumpIf target | jumpIfNot target =>
    cases scope.relocateTarget stream target <;> rfl
  case call callee argCount => cases scope.relocateCallee callee <;> rfl

/-- An instruction without an operand is left as it is. -/
theorem relocate_of_no_operand {stream : Section} {instruction : Instruction}
    (has : instruction.operand? = none) : scope.relocate stream instruction = .ok instruction := by
  cases instruction with
  | load var | store var | addrOf var => cases has
  | jump target | jumpIf target | jumpIfNot target => cases has
  | call callee argCount => cases has
  | _ => rfl

/-- Relocation gives an operand of the same sort, so the instruction takes it. -/
theorem operand?_withOperand {stream : Section} {instruction : Instruction}
    {operand moved : Operand} (has : instruction.operand? = some operand)
    (relocated : scope.relocateOperand stream operand = .ok moved) :
    (instruction.withOperand moved).operand? = some moved := by
  cases instruction <;> cases has <;> obtain ⟨given, _, rfl⟩ := map_eq_ok.1 relocated <;> rfl

/-- A variable becomes the slot that is found for it, or stays if it needs none. -/
theorem relocateVar_eq_ok {var target : VarRef} :
    scope.relocateVar var = .ok target
      ↔ ∃ found, scope.globalOf? var = .ok found ∧ target = found.elim var .global := by
  unfold relocateVar
  constructor
  · intro relocated
    obtain ⟨found, resolved, given⟩ := bind_eq_ok.1 relocated
    cases found with
    | none => exact ⟨none, resolved, (pure_eq_ok.1 given).symm⟩
    | some slot => exact ⟨some slot, resolved, (pure_eq_ok.1 given).symm⟩
  · rintro ⟨found, resolved, rfl⟩
    refine bind_eq_ok.2 ⟨found, resolved, ?_⟩
    cases found <;> rfl

/-- A slot of the unit itself is moved along with its block. -/
theorem relocateVar_slot_eq_ok {index : UInt64} {target : VarRef} :
    scope.relocateVar (.slot index) = .ok target
      ↔ index.toNat < scope.unit.vars.size
        ∧ target = .global (scope.map.globals.start + index) := by
  rw [relocateVar_eq_ok, ← Nat.not_le]
  simp only [globalOf?]
  split
  · rename_i outside
    simp [outside]
  · rename_i inside
    simp [inside]

/-- A callee becomes the entry that is found for it, or stays if it needs none. -/
theorem relocateCallee_eq_ok {callee target : Callee} :
    scope.relocateCallee callee = .ok target
      ↔ ∃ found, scope.entryOf? callee = .ok found ∧ target = found.elim callee .address := by
  unfold relocateCallee
  constructor
  · intro relocated
    obtain ⟨found, resolved, given⟩ := bind_eq_ok.1 relocated
    cases found with
    | none => exact ⟨none, resolved, (pure_eq_ok.1 given).symm⟩
    | some slot => exact ⟨some slot, resolved, (pure_eq_ok.1 given).symm⟩
  · rintro ⟨found, resolved, rfl⟩
    refine bind_eq_ok.2 ⟨found, resolved, ?_⟩
    cases found <;> rfl

/-- A linked variable reference stays as it is. -/
theorem relocateVar_of_linked {var : VarRef} (isLinked : var.isLinked = true) :
    scope.relocateVar var = .ok var := by
  cases var with
  | frame depth slot => rfl
  | global slot => rfl
  | slot _ | named _ | qualified _ _ => cases isLinked

/-- Any other variable reference becomes a global slot. -/
theorem exists_slot_of_relocateVar {var target : VarRef} (unlinked : var.isLinked = false)
    (relocated : scope.relocateVar var = .ok target) : ∃ slot, target = .global slot := by
  obtain ⟨found, resolved, rfl⟩ := relocateVar_eq_ok.1 relocated
  cases var with
  | frame _ _ | global _ => cases unlinked
  | slot index => exact ⟨_, (relocateVar_slot_eq_ok.1 relocated).2⟩
  | named name =>
    obtain ⟨slot, _, given⟩ := bind_eq_ok.1 resolved
    cases pure_eq_ok.1 given
    exact ⟨slot, rfl⟩
  | qualified unit name =>
    obtain ⟨slot, _, given⟩ := bind_eq_ok.1 resolved
    cases pure_eq_ok.1 given
    exact ⟨slot, rfl⟩

/-- A callee that is linked stays as it is. -/
theorem relocateCallee_of_linked {callee : Callee} (isLinked : callee.isLinked = true) :
    scope.relocateCallee callee = .ok callee := by
  cases callee with
  | address word => rfl
  | routine _ | qualified _ _ => cases isLinked

/-- A callee that is not linked becomes an address. -/
theorem exists_word_of_relocateCallee {callee target : Callee} (unlinked : callee.isLinked = false)
    (relocated : scope.relocateCallee callee = .ok target) : ∃ word, target = .address word := by
  obtain ⟨found, resolved, rfl⟩ := relocateCallee_eq_ok.1 relocated
  cases callee with
  | address _ => cases unlinked
  | routine name =>
    obtain ⟨word, _, given⟩ := bind_eq_ok.1 resolved
    cases pure_eq_ok.1 given
    exact ⟨word, rfl⟩
  | qualified unit name =>
    obtain ⟨word, _, given⟩ := bind_eq_ok.1 resolved
    cases pure_eq_ok.1 given
    exact ⟨word, rfl⟩

/-- The check for the end of a section accepts exactly the positions inside. -/
theorem isPastEnd_eq_false_iff {stream : Section} {offset : UInt64} :
    scope.isPastEnd stream offset = false ↔ IsInside scope.unit stream offset.toNat := by
  cases stream with
  | body => exact decide_eq_false_iff_not.trans Nat.not_le
  | init => exact decide_eq_false_iff_not.trans Nat.not_lt
  | final => exact decide_eq_false_iff_not.trans Nat.not_lt

/-- A position has an address if and only if there is an instruction at it. -/
theorem addressOf_eq_ok {position : CodeOffset} {word : UInt64} :
    scope.addressOf position = .ok word
      ↔ IsInside scope.unit position.stream position.offset.toNat
        ∧ word = scope.map.base position.stream + position.offset := by
  unfold addressOf
  rw [← isPastEnd_eq_false_iff]
  cases scope.isPastEnd position.stream position.offset with
  | true => simp
  | false =>
    simp only [Bool.false_eq_true, if_false, Except.ok.injEq, true_and]
    exact eq_comm

/-- A jump to a label leads to the address of the label, if that has one. -/
theorem relocateTarget_label_eq_ok {stream : Section} {name : String} {target : JumpTarget} :
    scope.relocateTarget stream (.label name) = .ok target
      ↔ ∃ position word, scope.unit.labels.get? name = some position
        ∧ scope.addressOf position = .ok word ∧ target = .address word := by
  simp only [relocateTarget]
  cases found : scope.unit.labels.get? name with
  | none => simp
  | some position =>
    constructor
    · intro relocated
      obtain ⟨word, addressed, given⟩ := bind_eq_ok.1 relocated
      exact ⟨position, word, rfl, addressed, (pure_eq_ok.1 given).symm⟩
    · rintro ⟨other, word, same, addressed, rfl⟩
      cases same
      exact bind_eq_ok.2 ⟨word, addressed, rfl⟩

/-- A jump to an offset leads to the address of that position of its own section. -/
theorem relocateTarget_offset_eq_ok {stream : Section} {offset : UInt64} {target : JumpTarget} :
    scope.relocateTarget stream (.offset offset) = .ok target
      ↔ ∃ word, scope.addressOf ⟨stream, offset⟩ = .ok word ∧ target = .address word := by
  simp only [relocateTarget]
  constructor
  · intro relocated
    obtain ⟨word, addressed, given⟩ := bind_eq_ok.1 relocated
    exact ⟨word, addressed, (pure_eq_ok.1 given).symm⟩
  · rintro ⟨word, addressed, rfl⟩
    exact bind_eq_ok.2 ⟨word, addressed, rfl⟩

/-- A section after relocation, instruction by instruction. -/
theorem relocateSection_eq_ok {stream : Section} :
    scope.relocateSection stream = .ok code
      ↔ ∃ moved, List.Forall₂ (fun source target => scope.relocate stream source = .ok target)
          (scope.unit.code.stream stream) moved ∧ code = moved ++ trailer stream := by
  unfold relocateSection
  constructor
  · intro relocated
    obtain ⟨moved, mapped, given⟩ := bind_eq_ok.1 relocated
    exact ⟨moved, mapM_eq_ok.1 mapped, (pure_eq_ok.1 given).symm⟩
  · rintro ⟨moved, mapped, rfl⟩
    exact bind_eq_ok.2 ⟨moved, mapM_eq_ok.2 mapped, rfl⟩

/-- The code of a unit is that of its sections in order. -/
theorem relocateAll_eq_ok :
    scope.relocateAll = .ok code
      ↔ ∃ body init final, scope.relocateSection .body = .ok body
        ∧ scope.relocateSection .init = .ok init ∧ scope.relocateSection .final = .ok final
        ∧ code = body ++ (init ++ final) := by
  unfold relocateAll
  constructor
  · intro relocated
    obtain ⟨parts, mapped, given⟩ := bind_eq_ok.1 relocated
    have pieces := mapM_eq_ok.1 mapped
    rw [Section.all] at pieces
    cases pieces with
    | cons bodyDone rest =>
      cases rest with
      | cons initDone rest =>
        cases rest with
        | cons finalDone rest =>
          cases rest
          refine ⟨_, _, _, bodyDone, initDone, finalDone, ?_⟩
          rw [← pure_eq_ok.1 given]
          simp
  · rintro ⟨body, init, final, bodyDone, initDone, finalDone, rfl⟩
    refine bind_eq_ok.2 ⟨[body, init, final], mapM_eq_ok.2 ?_, ?_⟩
    · exact .cons bodyDone (.cons initDone (.cons finalDone .nil))
    · simp [pure, Except.pure]

/-- A unit is relocated if and only if every instruction of it is. -/
theorem exists_relocateAll_iff :
    (∃ code, scope.relocateAll = .ok code)
      ↔ ∀ stream, ∀ instruction ∈ scope.unit.code.stream stream,
        ∃ moved, scope.relocate stream instruction = .ok moved := by
  have sections : ∀ stream, (∃ part, scope.relocateSection stream = .ok part)
      ↔ ∀ instruction ∈ scope.unit.code.stream stream,
        ∃ moved, scope.relocate stream instruction = .ok moved := by
    intro stream
    rw [← exists_mapM_iff]
    constructor
    · rintro ⟨part, relocated⟩
      obtain ⟨moved, mapped, _⟩ := bind_eq_ok.1 relocated
      exact ⟨moved, mapped⟩
    · rintro ⟨moved, mapped⟩
      exact ⟨_, bind_eq_ok.2 ⟨moved, mapped, rfl⟩⟩
  constructor
  · rintro ⟨code, relocated⟩ stream
    obtain ⟨part, partDone, _⟩ := bind_eq_ok.1 relocated
    have all : stream ∈ Section.all := by cases stream <;> decide
    exact (sections stream).1 (exists_mapM_iff.1 ⟨part, partDone⟩ stream all)
  · intro accepted
    obtain ⟨parts, mapped⟩ := exists_mapM_iff.2 fun stream (_ : stream ∈ Section.all) =>
      (sections stream).2 (accepted stream)
    exact ⟨_, bind_eq_ok.2 ⟨parts, mapped, rfl⟩⟩

/-- A section keeps its length, but for the return that is added. -/
theorem length_relocateSection {stream : Section}
    (relocated : scope.relocateSection stream = .ok code) :
    code.length = (scope.unit.code.stream stream).length + (trailer stream).length := by
  obtain ⟨moved, pieces, rfl⟩ := relocateSection_eq_ok.1 relocated
  rw [List.length_append, pieces.length_eq]

/-- A unit takes as many words as its length says. -/
theorem length_relocateAll (relocated : scope.relocateAll = .ok code) :
    code.length = Layout.codeLength scope.unit := by
  obtain ⟨body, init, final, bodyDone, initDone, finalDone, rfl⟩ := relocateAll_eq_ok.1 relocated
  rw [List.length_append, List.length_append, length_relocateSection bodyDone,
    length_relocateSection initDone, length_relocateSection finalDone, Layout.codeLength]
  simp only [Code.stream, trailer, List.length_nil, List.length_singleton]
  omega

/-- A section stands at its start in the block of the unit. -/
theorem relocateAll_section (relocated : scope.relocateAll = .ok code) (stream : Section) :
    ∃ part, scope.relocateSection stream = .ok part
      ∧ ∀ offset < part.length, code[sectionStart scope.unit stream + offset]? = part[offset]? := by
  obtain ⟨body, init, final, bodyDone, initDone, finalDone, rfl⟩ := relocateAll_eq_ok.1 relocated
  have bodyLength := length_relocateSection bodyDone
  have initLength := length_relocateSection initDone
  simp only [Code.stream, trailer, List.length_nil, List.length_singleton, Nat.add_zero]
    at bodyLength initLength
  cases stream with
  | body =>
    refine ⟨body, bodyDone, fun offset inside => ?_⟩
    rw [sectionStart, Nat.zero_add, List.getElem?_append_left inside]
  | init =>
    refine ⟨init, initDone, fun offset inside => ?_⟩
    rw [sectionStart, ← bodyLength, getElem?_middle inside]
  | final =>
    refine ⟨final, finalDone, fun offset inside => ?_⟩
    rw [sectionStart, ← bodyLength, ← initLength, Nat.add_assoc,
      List.getElem?_append_right (Nat.le_add_right _ _), Nat.add_sub_cancel_left,
      List.getElem?_append_right (Nat.le_add_right _ _), Nat.add_sub_cancel_left]

/-- Every instruction of the unit is relocated to its own offset. -/
theorem relocateAll_source (relocated : scope.relocateAll = .ok code) {stream : Section}
    {offset : Nat} {source : Instruction} (found : (scope.unit.code.stream stream)[offset]? = some source) :
    ∃ target, scope.relocate stream source = .ok target
      ∧ code[sectionStart scope.unit stream + offset]? = some target := by
  obtain ⟨part, partDone, places⟩ := relocateAll_section relocated stream
  obtain ⟨moved, pieces, rfl⟩ := relocateSection_eq_ok.1 partDone
  obtain ⟨inside, sourceEq⟩ := List.getElem?_eq_some_iff.1 found
  have movedInside : offset < moved.length := by rwa [← pieces.length_eq]
  refine ⟨moved[offset], ?_, ?_⟩
  · rw [← sourceEq]
    exact pieces.get inside movedInside
  · rw [places offset (by rw [List.length_append]; omega), List.getElem?_append_left movedInside,
      List.getElem?_eq_getElem movedInside]

/-- A block ends with its return. -/
theorem relocateAll_return (relocated : scope.relocateAll = .ok code) {stream : Section}
    (inside : IsInside scope.unit stream (scope.unit.code.stream stream).length) :
    code[sectionStart scope.unit stream + (scope.unit.code.stream stream).length]? = some .ret := by
  obtain ⟨part, partDone, places⟩ := relocateAll_section relocated stream
  obtain ⟨moved, pieces, rfl⟩ := relocateSection_eq_ok.1 partDone
  have ended : trailer stream = [.ret] := by
    cases stream with
    | body => exact absurd inside (Nat.lt_irrefl _)
    | init => rfl
    | final => rfl
  rw [ended] at places
  rw [places _ (by rw [List.length_append, pieces.length_eq]; exact Nat.lt_succ_self _),
    pieces.length_eq, List.getElem?_concat_length]

/-- The sections that are relocated before a section. -/
def sectionsBefore : Section → List Section
  | .body => []
  | .init => [.body]
  | .final => [.body, .init]

/-- The sections are those before a section, itself, and some after it. -/
theorem exists_sectionsAfter (stream : Section) :
    ∃ after, Section.all = sectionsBefore stream ++ stream :: after := by
  cases stream with
  | body => exact ⟨[.init, .final], rfl⟩
  | init => exact ⟨[.final], rfl⟩
  | final => exact ⟨[], rfl⟩

/-- The first instruction that cannot be relocated gives the error of its unit. -/
theorem relocateAll_eq_error {stream : Section} {before after : List Instruction}
    {instruction : Instruction} {error : LinkError}
    (split : scope.unit.code.stream stream = before ++ instruction :: after)
    (sections : ∀ earlier ∈ sectionsBefore stream, ∃ code, scope.relocateSection earlier = .ok code)
    (accepted : ∀ earlier ∈ before, ∃ moved, scope.relocate stream earlier = .ok moved)
    (refused : scope.relocate stream instruction = .error error) :
    scope.relocateAll = .error error := by
  have sectionRefused : scope.relocateSection stream = .error error := by
    rw [relocateSection, split, mapM_eq_error accepted refused]
    rfl
  obtain ⟨others, allEq⟩ := exists_sectionsAfter stream
  rw [relocateAll, allEq, mapM_eq_error sections sectionRefused]
  rfl

end Scope

end Link

end UnitLinker
