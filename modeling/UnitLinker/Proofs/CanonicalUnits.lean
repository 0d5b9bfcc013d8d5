import Mathlib
import UnitLinker.Binary.ImageFormat
import UnitLinker.ObjectUnit.Builder
import UnitLinker.Proofs.CanonicalForms
import UnitLinker.Proofs.StoredUnits

/-!
# Units and images are read from their stored forms

Every part of a unit or an image takes exactly the bytes of its stored form, unless a
table in it names an entry twice. So whatever is read as a unit is the stored form of
that unit, or it names something twice and is longer than that stored form.
-/

namespace UnitLinker.Binary

instance : CanonicalStored Location where
  retraces := .read fun _ => .read fun _ => .pure rfl

instance : CanonicalStored Span where
  retraces := .read fun _ => .read fun _ => .read fun _ => .pure rfl

instance : CanonicalStored Visibility where
  retraces := Retraces.choice fun index => match index with
    | 0 => .pure rfl
    | 1 => .pure rfl
    | _ + 2 => .throw _

instance : CanonicalStored Binary64 where
  retraces := .read fun _ => .pure rfl

instance : CanonicalStored Value where
  retraces := Retraces.choice fun index => match index with
    | 0 => .pure rfl
    | 1 => .read fun _ => .pure rfl
    | 2 => .read fun _ => .pure rfl
    | 3 => .read fun _ => .pure rfl
    | 4 => .read fun _ => .pure rfl
    | 5 => .read fun _ => .pure rfl
    | _ + 6 => .throw _

instance : CanonicalStored VarRef where
  retraces := Retraces.choice fun index => match index with
    | 0 => .read fun _ => .pure rfl
    | 1 => .read fun _ => .pure rfl
    | 2 => .read fun _ => .read fun _ => .pure rfl
    | 3 => .read fun _ => .read fun _ => .pure rfl
    | 4 => .read fun _ => .pure rfl
    | _ + 5 => .throw _

instance : CanonicalStored JumpTarget where
  retraces := Retraces.choice fun index => match index with
    | 0 => .read fun _ => .pure rfl
    | 1 => .read fun _ => .pure rfl
    | 2 => .read fun _ => .pure rfl
    | _ + 3 => .throw _

instance : CanonicalStored Callee where
  retraces := Retraces.choice fun index => match index with
    | 0 => .read fun _ => .pure rfl
    | 1 => .read fun _ => .read fun _ => .pure rfl
    | 2 => .read fun _ => .pure rfl
    | _ + 3 => .throw _

theorem nodup_binaryOps : binaryOps.Nodup := by decide

instance : CanonicalStored BinaryOp where
  retraces := by
    apply Retraces.choice
    intro index
    cases found : binaryOps[index]? with
    | none => exact .throw _
    | some op =>
      apply Retraces.pure
      rcases List.getElem?_eq_some_iff.1 found with ⟨inside, rfl⟩
      have indexEq := nodup_binaryOps.idxOf_getElem index inside
      exact congrArg writeChoice indexEq

instance : CanonicalStored UnaryOp where
  retraces := Retraces.choice fun index => match index with
    | 0 => .pure rfl
    | 1 => .pure rfl
    | _ + 2 => .throw _

instance : CanonicalStored Instruction where
  retraces := Retraces.choice fun index => match index with
    | 0 => .read fun _ => .pure rfl
    | 1 => .pure rfl
    | 2 => .read fun _ => .pure rfl
    | 3 => .pure rfl
    | 4 => .pure rfl
    | 5 => .pure rfl
    | 6 => .read fun _ => .pure rfl
    | 7 => .read fun _ => .pure rfl
    | 8 => .read fun _ => .pure rfl
    | 9 => .pure rfl
    | 10 => .pure rfl
    | 11 => .read fun _ => .pure rfl
    | 12 => .read fun _ => .read fun _ => .pure rfl
    | 13 => .read fun _ => .pure rfl
    | 14 => .read fun _ => .pure rfl
    | 15 => .read fun _ => .pure rfl
    | 16 => .read fun _ => .pure rfl
    | 17 => .read fun _ => .pure rfl
    | 18 => .read fun _ => .read fun _ => .pure rfl
    | 19 => .read fun _ => .read fun _ => .pure rfl
    | 20 => .read fun _ => .read fun _ => .pure rfl
    | 21 => .pure rfl
    | 22 => .pure rfl
    | 23 => .pure rfl
    | _ + 24 => .throw _

/-! ## Types and routines -/

instance : CanonicalStored EnumType where
  retraces := .read fun _ => .pure rfl

instance : CanonicalStored IndexRange where
  retraces := .read fun _ => .read fun _ => .pure rfl

instance : CanonicalStored ArrayType where
  retraces := .read fun _ => .read fun _ => .pure rfl

instance : CanonicalStored RecordField where
  retraces := .read fun _ => .read fun _ => .pure rfl

instance : CanonicalStored RecordType where
  retraces := .read fun _ => .pure rfl

instance : CanonicalStored TypeTables where
  retraces := .read fun _ => .read fun _ => .read fun _ => .pure rfl

instance : CanonicalStored Param where
  retraces := .read fun _ => .read fun _ => .read fun _ => .pure rfl

instance : CanonicalStored Signature where
  retraces := .read fun _ => .read fun _ => .pure rfl

instance : CanonicalStored Routine where
  retraces :=
    .read fun _ => .read fun _ => .read fun _ => .read fun _ => .read fun _ => .read fun _ =>
      .pure rfl

/-! ## Units -/

instance : CanonicalStored UnitKind where
  retraces := Retraces.choice fun index => match index with
    | 0 => .pure rfl
    | 1 => .pure rfl
    | _ + 2 => .throw _

instance : CanonicalStored Section where
  retraces := Retraces.choice fun index => match index with
    | 0 => .pure rfl
    | 1 => .pure rfl
    | 2 => .pure rfl
    | _ + 3 => .throw _

instance : CanonicalStored CodeOffset where
  retraces := .read fun _ => .read fun _ => .pure rfl

instance : CanonicalStored Variable where
  retraces := .read fun _ => .read fun _ => .pure rfl

instance : CanonicalStored Code where
  retraces := .read fun _ => .read fun _ => .read fun _ => .pure rfl

instance : CanonicalStored ObjectUnit where
  retraces :=
    .read fun _ => .read fun _ => .read fun _ => .read fun _ => .read fun _ => .read fun _ =>
      .read fun _ => .read fun _ => .read fun _ => .pure rfl

/-! ## Images -/

instance : CanonicalStored Block where
  retraces := .read fun _ => .read fun _ => .pure rfl

instance : CanonicalStored GlobalVar where
  retraces := .read fun _ => .read fun _ => .pure rfl

instance : CanonicalStored EntryPoint where
  retraces := .read fun _ => .read fun _ => .pure rfl

instance : CanonicalStored RoutineSymbol where
  retraces := .read fun _ => .read fun _ => .read fun _ => .read fun _ => .read fun _ => .pure rfl

instance : CanonicalStored VariableSymbol where
  retraces := .read fun _ => .read fun _ => .pure rfl

instance : CanonicalStored UnitMap where
  retraces :=
    .read fun _ => .read fun _ => .read fun _ => .read fun _ => .read fun _ => .read fun _ =>
      .read fun _ => .read fun _ => .read fun _ => .pure rfl

instance : CanonicalStored Image where
  retraces :=
    .read fun _ => .read fun _ => .read fun _ => .read fun _ => .read fun _ => .read fun _ =>
      .pure rfl

/-! ## Whole units and images -/

/-- A value is read from the front of the bytes. They are its stored form if no table in them
names an entry twice, and else they are longer than that. -/
structure ReadsCanonically {α : Type} [Stored α] (front rest : Bytes) (value : α) : Prop where
  taken : read .lastWins (front ++ rest) = .ok (value, rest)
  same : (∃ other : α, decode .distinct (front ++ rest) = .ok other) → write value = front
  fewer : (¬ ∃ other : α, decode .distinct (front ++ rest) = .ok other) →
    (write value).length < front.length

/-- What is decoded is read canonically from the front of the bytes. -/
theorem exists_readsCanonically {α : Type} [Stored α] [CanonicalStored α] {bytes : Bytes}
    {value : α} (decoded : decode .lastWins bytes = .ok value) :
    ∃ front rest, bytes = front ++ rest ∧ ReadsCanonically front rest value := by
  rcases map_eq_ok.1 decoded with ⟨⟨_, rest⟩, taken, rfl⟩
  rcases CanonicalStored.retraces bytes _ rest taken with ⟨front, rfl, compares⟩
  refine ⟨front, rest, rfl, taken, ?_, ?_⟩
  · rintro ⟨other, accepted⟩
    cases compares with
    | same _ storedEq => exact storedEq
    | fewer refused _ =>
      rw [decode, StateT.run, refused] at accepted
      cases accepted
  · intro unaccepted
    cases compares with
    | same accepted _ => exact absurd ⟨_, congrArg (Except.map Prod.fst) accepted⟩ unaccepted
    | fewer _ shorter => exact shorter

/-- Whatever is read as a unit or an image is its stored form, up to what follows it and up to
entries that a table names twice. -/
theorem decoding_canonical :
    (∀ (bytes : Bytes) (unit : ObjectUnit), ObjectUnit.decode bytes = .ok unit →
      ∃ front rest, bytes = front ++ rest ∧ ReadsCanonically front rest unit)
    ∧ ∀ (bytes : Bytes) (image : Image), Image.decode bytes = .ok image →
      ∃ front rest, bytes = front ++ rest ∧ ReadsCanonically front rest image :=
  ⟨fun _ _ decoded => exists_readsCanonically decoded,
    fun _ _ decoded => exists_readsCanonically decoded⟩

section Echo

/-- A unit whose uses clause names a unit again, followed by another byte. -/
def echoBytes : Bytes :=
  write "Echo" ++ write UnitKind.unit ++ write (none : Option Span)
    ++ write [("Tally", (none : Option Span)), ("Größe", none), ("Tally", some (.zero "echo.pas"))]
    ++ write (Table.empty : Table Variable) ++ write (Table.empty : Table CodeOffset)
    ++ write (Table.empty : Table Routine) ++ write TypeTables.empty ++ write Code.empty ++ [0xFF]

/-- What is read of it: the unit that is named again is used last. -/
def echo : ObjectUnit :=
  (ObjectUnit.empty "Echo" .unit none).attemptAll
    [.use "Größe" none, .use "Tally" (some (.zero "echo.pas"))]

end Echo

/-- A unit that repeats a name is longer than its canonical form. An image is as long. -/
theorem decoding_canonical_echo :
    (∃ front rest, echoBytes = front ++ rest ∧ ReadsCanonically front rest echo
      ∧ (write echo).length < front.length)
    ∧ ∃ front rest, write Link.idleImage ++ [0xFF] = front ++ rest
      ∧ ReadsCanonically front rest Link.idleImage ∧ write Link.idleImage = front := by
  have echoRead : ObjectUnit.decode echoBytes = .ok echo := by decide +kernel
  have echoRefused : (decode .distinct echoBytes : Except ReadError ObjectUnit)
      = .error (.repeatedName "Tally") := by decide +kernel
  have imageRead : ∀ policy,
      decode policy (write Link.idleImage ++ [0xFF]) = .ok Link.idleImage := by
    intro policy
    cases policy <;> decide +kernel
  rcases decoding_canonical with ⟨units, images⟩
  rcases units echoBytes echo echoRead with ⟨front, rest, bytesEq, reads⟩
  rcases images _ Link.idleImage (imageRead .lastWins) with
    ⟨imageFront, imageRest, imageEq, imageReads⟩
  refine ⟨⟨front, rest, bytesEq, reads, reads.fewer ?_⟩, imageFront, imageRest, imageEq,
    imageReads, imageReads.same ⟨Link.idleImage, ?_⟩⟩
  · rintro ⟨other, accepted⟩
    rw [← bytesEq, echoRefused] at accepted
    cases accepted
  · rw [← imageEq, imageRead]

end UnitLinker.Binary
