import Mathlib
import UnitLinker.Binary.Stored
import UnitLinker.Proofs.Tables
import UnitLinker.Proofs.Utf8
import UnitLinker.Word

/-!
# Reading stored values back

A stored value is read back from its bytes, and reading stops exactly where the value
ends, so that values can stand one after another. Lengths are stored as words, so this
holds of every value whose bytes a word can count, as it can all bytes that a machine
holds.
-/

namespace UnitLinker.Binary

variable {α β : Type}

/-! ## Numbers -/

theorem length_littleEndian (width value : Nat) : (littleEndian width value).length = width := by
  induction width generalizing value with
  | zero => rfl
  | succ width ih => rw [littleEndian, List.length_cons, ih]

theorem littleEndian_ne_nil (width value : Nat) : littleEndian (width + 1) value ≠ [] :=
  List.cons_ne_nil _ _

/-- A number that fits is read back from its bytes. -/
theorem ofLittleEndian_littleEndian {width value : Nat} (fits : value < 0x100 ^ width) :
    ofLittleEndian (littleEndian width value) = value := by
  induction width generalizing value with
  | zero => simp_all [littleEndian, ofLittleEndian]
  | succ width ih =>
    have lowEq : (UInt8.ofNat (value % 0x100)).toNat = value % 0x100 :=
      Utf8.toNat_ofNat_byte (Nat.mod_lt _ (by decide))
    have high : value / 0x100 < 0x100 ^ width := by
      apply Nat.div_lt_of_lt_mul
      rwa [Nat.mul_comm, ← Nat.pow_succ]
    rw [littleEndian, ofLittleEndian, ih high, lowEq]
    omega

/-- The front is split off what follows it. -/
theorem splitFront?_append (front rest : Bytes) :
    splitFront? front.length (front ++ rest) = some (front, rest) := by
  induction front with
  | nil => cases rest <;> rfl
  | cons byte front ih => simp [splitFront?, ih]

/-! ## Readers -/

/-- After these bytes, the reader goes on as the next one. -/
def Continues (reader : Reader α) (bytes : Bytes) (next : Reader α) : Prop :=
  bytes.length < Word.count → ∀ rest, reader (bytes ++ rest) = next rest

/-- The reader takes exactly these bytes off the front and gives the value. -/
def Restores (reader : Reader α) (bytes : Bytes) (value : α) : Prop :=
  Continues reader bytes (pure value)

/-- What was restored is passed on. -/
theorem Restores.bind {reader : Reader α} {bytes : Bytes} {value : α}
    (restored : Restores reader bytes value) (next : α → Reader β) :
    Continues (reader >>= next) bytes (next value) := by
  intro fits rest
  show StateT.bind reader next (bytes ++ rest) = next value rest
  rw [StateT.bind, restored fits rest]
  rfl

namespace Continues

variable {reader : Reader α} {bytes more : Bytes}

/-- Nothing is read yet. -/
theorem refl (reader : Reader α) : Continues reader [] reader := fun _ _ => rfl

theorem start (α : Type) [Stored α] (policy : NamePolicy) :
    Continues (read policy : Reader α) [] (read policy) := refl _

/-- A reader goes on through one part of the bytes and then through the next. -/
theorem trans {next last : Reader α} (first : Continues reader bytes next)
    (second : Continues next more last) : Continues reader (bytes ++ more) last := by
  intro fits rest
  rw [List.length_append] at fits
  rw [List.append_assoc, first (by omega), second (by omega)]

/-- One more part of a value is restored. -/
theorem bind {part : Reader β} {next : β → Reader α} {value : β}
    (before : Continues reader bytes (part >>= next)) (restored : Restores part more value) :
    Continues reader (bytes ++ more) (next value) :=
  before.trans (restored.bind next)

end Continues

/-- Bytes of a known number are read back. -/
theorem restores_takeBytes (bytes : Bytes) (short : ReadError) :
    Restores (takeBytes bytes.length short) bytes bytes := by
  intro _ rest
  rw [takeBytes, splitFront?_append]
  rfl

/-- Numbers of a fixed width are read back. -/
theorem restores_readNumber {width value : Nat} (fits : value < 0x100 ^ width) :
    Restores (readNumber width) (littleEndian width value) value := by
  have taken := restores_takeBytes (littleEndian width value) .endOfInput
  rw [length_littleEndian] at taken
  have read := taken.bind fun bytes => pure (ofLittleEndian bytes)
  rwa [ofLittleEndian_littleEndian fits] at read

theorem restores_byte (byte : UInt8) : Restores (readNumber 1) [byte] byte.toNat := by
  have number : Restores (readNumber 1) (littleEndian 1 byte.toNat) byte.toNat :=
    restores_readNumber byte.toNat_lt
  simpa [littleEndian] using number

/-- The alternative of a choice is restored. -/
theorem Continues.choice {reader : Reader α} {bytes : Bytes} {next : Nat → Reader α}
    (before : Continues reader bytes (readChoice >>= next)) (index : Nat)
    (fits : index < 0x100 ^ 4 := by decide) :
    Continues reader (bytes ++ writeChoice index) (next index) :=
  before.bind (restores_readNumber fits)

/-! ## Stored types -/

/-- A type whose values are restored under every policy for repeated names: a stored
table repeats none. -/
class LawfulStored (α : Type) [Stored α] : Prop where
  restores : ∀ (policy : NamePolicy) (value : α), Restores (read policy) (write value) value

export LawfulStored (restores)

/-- A type none of whose values is stored as nothing. -/
class OccupiesBytes (α : Type) [Stored α] : Prop where
  write_ne_nil : ∀ value : α, write value ≠ []

export OccupiesBytes (write_ne_nil)

/-- What is restored is decoded, and what follows it is ignored. -/
theorem Restores.decode [Stored α] {policy : NamePolicy} {bytes : Bytes} {value : α}
    (restored : Restores (read policy) bytes value) (fits : bytes.length < Word.count)
    (rest : Bytes) : Binary.decode policy (bytes ++ rest) = .ok value := by
  rw [Binary.decode, StateT.run, restored fits rest]
  rfl

/-- A reader goes on after a value that is read back. -/
theorem Continues.read [Stored β] [LawfulStored β] {reader : Reader α} {bytes : Bytes}
    {policy : NamePolicy} {next : β → Reader α}
    (before : Continues reader bytes (read policy >>= next)) (value : β) :
    Continues reader (bytes ++ write value) (next value) :=
  before.bind (restores policy value)

instance : LawfulStored UInt64 where
  restores _ value := by
    have number : Restores (readNumber 8) (littleEndian 8 value.toNat) value.toNat :=
      restores_readNumber value.toNat_lt
    have read := number.bind fun value => pure (UInt64.ofNat value)
    rwa [UInt64.ofNat_toNat] at read

instance : LawfulStored Int64 where
  restores _ value := by
    have number : Restores (readNumber 8) (littleEndian 8 value.toUInt64.toNat) _ :=
      restores_readNumber value.toUInt64.toNat_lt
    have read := number.bind fun value => pure (UInt64.ofNat value).toInt64
    rwa [UInt64.ofNat_toNat, Int64.toInt64_toUInt64] at read

instance : LawfulStored Bool where
  restores _ value := by
    cases value with
    | false => exact (restores_byte 0).bind _
    | true => exact (restores_byte 1).bind _

instance : LawfulStored Char where
  restores policy char := by
    rcases Utf8.exists_encodeChar char with ⟨first, more, encoded, decoded⟩
    have lead := (Continues.start Char policy).bind (restores_byte first)
    have bytesEq : write char = [first] ++ more := encoded
    rw [bytesEq]
    apply lead.trans
    intro _ rest
    simp [decoded, bind, StateT.bind, get, getThe, MonadStateOf.get, StateT.get, set, StateT.set,
      pure, StateT.pure, Except.bind, Except.pure]

instance : LawfulStored String where
  restores policy text := by
    intro fits
    have lengthFits : (Utf8.encode text).length < 0x100 ^ 8 := by
      have whole : (write text).length = 8 + (Utf8.encode text).length := by
        simp [write, writeLength, length_littleEndian]
      simp only [Word.count, UInt64.size] at fits
      omega
    have taken := ((Continues.start String policy).bind (restores_readNumber lengthFits)).bind
      (restores_takeBytes (Utf8.encode text) .shortText)
    simp only [Utf8.decode_encode] at taken
    exact taken fits

instance [Stored α] [LawfulStored α] : LawfulStored (Option α) where
  restores policy value := by
    cases value with
    | none => exact (restores_byte 0).bind _
    | some value => exact ((Continues.start (Option α) policy).bind (restores_byte 1)).read value

instance [Stored α] [Stored β] [LawfulStored α] [LawfulStored β] : LawfulStored (α × β) where
  restores policy pair := ((Continues.start (α × β) policy).read pair.1).read pair.2

instance : OccupiesBytes String where
  write_ne_nil text := by simp [write, writeLength, littleEndian_ne_nil]

instance [Stored α] [Stored β] [OccupiesBytes α] : OccupiesBytes (α × β) where
  write_ne_nil pair := by simp [write, write_ne_nil pair.1]

/-! ## Lists and tables -/

section Sequences

variable [Stored α]

/-- Items are read back one after another. -/
theorem restores_readMany [LawfulStored α] (policy : NamePolicy) (items : List α) :
    Restores (readMany (read policy) items.length) (items.flatMap write) items := by
  induction items with
  | nil => exact fun _ _ => rfl
  | cons item items ih =>
    have first := (Continues.refl (readMany (read policy) (items.length + 1))).bind
      (restores policy item)
    rw [List.flatMap_cons]
    exact first.bind ih

/-- There are no more items than bytes. -/
theorem length_le_flatMap_write [OccupiesBytes α] (items : List α) :
    items.length ≤ (items.flatMap write).length := by
  induction items with
  | nil => exact Nat.le_refl 0
  | cons item items ih =>
    have occupied := List.length_pos_iff.2 (write_ne_nil item)
    rw [List.flatMap_cons, List.length_append, List.length_cons]
    omega

/-- The length of a list whose bytes a word can count is a word. -/
theorem length_lt_of_write [OccupiesBytes α] {items : List α}
    (fits : (write items).length < Word.count) : items.length < 0x100 ^ 8 := by
  have fewer := length_le_flatMap_write items
  simp only [write, List.length_append, Word.count, UInt64.size] at fits
  omega

instance [LawfulStored α] [OccupiesBytes α] : LawfulStored (List α) where
  restores policy items := by
    intro fits
    have length := restores_readNumber (length_lt_of_write fits)
    exact (((Continues.start (List α) policy).bind length).trans
      (restores_readMany policy items)) fits

/-- Entries with new names are added to a table one after another. -/
theorem restores_readEntries [LawfulStored α] (policy : NamePolicy) {table whole : Table α}
    {entries : List (String × α)} (wholeEq : whole.entries = table.entries ++ entries) :
    Restores (readEntries policy entries.length table) (entries.flatMap write) whole := by
  induction entries generalizing table with
  | nil =>
    have same : table = whole := by
      cases table
      cases whole
      simpa using wholeEq.symm
    subst same
    exact fun _ _ => rfl
  | cons entry entries ih =>
    rcases entry with ⟨name, value⟩
    have distinct := whole.distinct
    rw [wholeEq, List.map_append, List.map_cons] at distinct
    -- No name of the table comes again, so neither policy has anything to do.
    have new : name ∉ table.names := fun member =>
      List.disjoint_of_nodup_append distinct member List.mem_cons_self
    have inserted : whole.entries = (table.insert name value).entries ++ entries := by
      rw [wholeEq, Table.entries_insert_of_new new, List.append_assoc, List.singleton_append]
    have unseen : (policy = .distinct && table.contains name) = false := by
      simp [Table.contains_eq_false_iff.2 new]
    have read := ((Continues.refl (readEntries policy (entries.length + 1) table)).bind
      (restores policy name)).read value
    simp only [unseen] at read
    exact read.trans (ih inserted)

instance [LawfulStored α] : LawfulStored (Table α) where
  restores policy table := by
    intro fits
    have entriesFit : (write table.entries).length < Word.count := fits
    have length := restores_readNumber (length_lt_of_write entriesFit)
    have entries : Restores (readEntries policy table.entries.length .empty) _ table :=
      restores_readEntries policy (List.nil_append _).symm
    exact (((Continues.start (Table α) policy).bind length).trans entries) fits

end Sequences

end UnitLinker.Binary
