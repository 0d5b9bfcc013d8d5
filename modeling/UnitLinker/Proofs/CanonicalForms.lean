import Mathlib
import UnitLinker.Binary.Stored
import UnitLinker.Proofs.Results
import UnitLinker.Proofs.Storage
import UnitLinker.Proofs.Tables

/-!
# Reading accepts stored forms only

The bytes that a value was read from are the bytes that it is stored as, with one
exception. A table may name an entry twice, and then the earlier entry is dropped, so
that the value is stored as fewer bytes. Such tables are what the stricter name policy
refuses. The rules below carry this from the parts of a reader to the whole reader.
-/

namespace UnitLinker.Binary

variable {α β : Type}

/-! ## Numbers -/

/-- Bytes are the little-endian form of the number that they stand for. -/
theorem littleEndian_ofLittleEndian (bytes : Bytes) :
    littleEndian bytes.length (ofLittleEndian bytes) = bytes := by
  induction bytes with
  | nil => rfl
  | cons byte rest ih =>
    have small := byte.toNat_lt
    have lowEq : (byte.toNat + 0x100 * ofLittleEndian rest) % 0x100 = byte.toNat := by omega
    have highEq : (byte.toNat + 0x100 * ofLittleEndian rest) / 0x100 = ofLittleEndian rest := by
      omega
    rw [List.length_cons, ofLittleEndian, littleEndian, lowEq, highEq, ih, UInt8.ofNat_toNat]

/-- A number that is read from bytes has no more digits than bytes. -/
theorem ofLittleEndian_lt (bytes : Bytes) : ofLittleEndian bytes < 0x100 ^ bytes.length := by
  induction bytes with
  | nil => exact Nat.one_pos
  | cons byte rest ih =>
    have small := byte.toNat_lt
    rw [List.length_cons, ofLittleEndian, Nat.pow_succ]
    omega

/-- What is split off the front comes first and is as long as asked. -/
theorem splitFront?_eq_some {count : Nat} {bytes front rest : Bytes}
    (split : splitFront? count bytes = some (front, rest)) :
    bytes = front ++ rest ∧ front.length = count := by
  induction count generalizing bytes front with
  | zero =>
    rw [splitFront?] at split
    cases split
    exact ⟨rfl, rfl⟩
  | succ count ih =>
    cases bytes with
    | nil => cases split
    | cons byte bytes =>
      rw [splitFront?] at split
      rcases Option.map_eq_some_iff.1 split with ⟨⟨more, later⟩, splitMore, partsEq⟩
      cases partsEq
      rcases ih splitMore with ⟨rfl, rfl⟩
      exact ⟨rfl, rfl⟩

/-- Bytes that are taken come first and are as many as asked. -/
theorem takeBytes_eq_ok {count : Nat} {short : ReadError} {bytes front rest : Bytes}
    (taken : takeBytes count short bytes = .ok (front, rest)) :
    bytes = front ++ rest ∧ front.length = count := by
  unfold takeBytes at taken
  split at taken
  · rename_i parts split
    cases taken
    exact splitFront?_eq_some split
  · cases taken

/-! ## Readers -/

/-- How the bytes that a value is stored as compare with the bytes that it was read from,
given what the stricter reader makes of them. -/
inductive Compares (outcome : α × Bytes) (strict : Except ReadError (α × Bytes))
    (source stored : Bytes) : Prop where
  /-- They are the same, and the value is read under both policies. -/
  | same (accepted : strict = .ok outcome) (storedEq : stored = source)
  /-- They are fewer, and the bytes are refused if names may not be repeated. -/
  | fewer {error : ReadError} (refused : strict = .error error)
      (shorter : stored.length < source.length)

/-- The stored form is not longer than what was read. -/
theorem Compares.length_le {outcome : α × Bytes} {strict : Except ReadError (α × Bytes)}
    {source stored : Bytes} (compares : Compares outcome strict source stored) :
    stored.length ≤ source.length := by
  cases compares with
  | same _ storedEq => exact storedEq ▸ Nat.le_refl _
  | fewer _ shorter => exact Nat.le_of_lt shorter

/-- A reader that goes on after some bytes: together with what it takes, they are compared with
what its value is stored as. -/
def Retraces (stored : α → Bytes) (before : Bytes) (reader : NamePolicy → Reader α) : Prop :=
  ∀ bytes value rest, reader .lastWins bytes = .ok (value, rest) →
    ∃ taken, bytes = taken ++ rest
      ∧ Compares (value, rest) (reader .distinct bytes) (before ++ taken) (stored value)

namespace Retraces

variable {stored : α → Bytes} {before : Bytes}

/-- A reader that takes nothing retraces a value whose stored form has been read. -/
theorem pure {value : α} (storedEq : stored value = before) :
    Retraces stored before fun _ => Pure.pure value := by
  rintro bytes _ _ ⟨⟩
  refine ⟨[], rfl, .same rfl ?_⟩
  rw [storedEq, List.append_nil]

/-- A reader that fails retraces anything. -/
theorem throw (error : ReadError) : Retraces stored before fun _ => MonadExcept.throw error := by
  rintro bytes value rest ⟨⟩

/-- Readers one after the other retrace stored forms one after the other. -/
theorem bind {part : NamePolicy → Reader β} {partStored : β → Bytes}
    {next : NamePolicy → β → Reader α} (first : Retraces partStored [] part)
    (second : ∀ value, (∃ bytes rest, part .lastWins bytes = .ok (value, rest)) →
      Retraces stored (before ++ partStored value) fun policy => next policy value) :
    Retraces stored before fun policy => part policy >>= next policy := by
  intro bytes value rest decoded
  rcases bind_eq_ok.1 decoded with ⟨⟨partValue, middle⟩, partRead, nextRead⟩
  rcases first bytes partValue middle partRead with ⟨front, rfl, partCompares⟩
  rcases second partValue ⟨_, _, partRead⟩ middle value rest nextRead with ⟨back, rfl, compares⟩
  refine ⟨front ++ back, (List.append_assoc _ _ _).symm, ?_⟩
  -- A refusal of the first part stays one, and the other parts cannot make up for lost bytes.
  cases partCompares with
  | @fewer error refused shorter =>
    have noMore := compares.length_le
    have strictRefused : (part .distinct >>= next .distinct) (front ++ (back ++ rest))
        = .error error := bind_eq_error.2 (.inl refused)
    refine .fewer strictRefused ?_
    simp only [List.length_append, List.nil_append] at noMore shorter ⊢
    omega
  | same accepted storedEq =>
    have strictEq : (part .distinct >>= next .distinct) (front ++ (back ++ rest))
        = next .distinct partValue (back ++ rest) := by
      show StateT.bind (part .distinct) (next .distinct) _ = _
      rw [StateT.bind, accepted]
      rfl
    rw [List.nil_append] at storedEq
    rw [storedEq, List.append_assoc] at compares
    simp only [strictEq]
    exact compares

/-- A name that a table has already is refused, or makes what is stored shorter. -/
theorem lapse {reader other : NamePolicy → Reader α} {less : Bytes}
    (less_lt : less.length < before.length) (retraces : Retraces stored less other)
    (lax : reader .lastWins = other .lastWins)
    (strict : ∀ bytes, ∃ error, reader .distinct bytes = .error error) :
    Retraces stored before reader := by
  intro bytes value rest decoded
  rw [lax] at decoded
  rcases retraces bytes value rest decoded with ⟨taken, rfl, compares⟩
  rcases strict (taken ++ rest) with ⟨error, refused⟩
  have noMore := compares.length_le
  refine ⟨taken, rfl, .fewer refused ?_⟩
  simp only [List.length_append] at noMore ⊢
  omega

/-- What is stored may start with more than the reader takes. -/
theorem after {partStored : α → Bytes} {reader : NamePolicy → Reader α}
    (retraces : Retraces partStored [] reader)
    (storedEq : ∀ value, (∃ bytes rest, reader .lastWins bytes = .ok (value, rest)) →
      stored value = before ++ partStored value) :
    Retraces stored before reader := by
  intro bytes value rest read
  rcases retraces bytes value rest read with ⟨taken, rfl, compares⟩
  refine ⟨taken, rfl, ?_⟩
  rw [storedEq value ⟨_, _, read⟩]
  rw [List.nil_append] at compares
  cases compares with
  | same accepted partEq => exact .same accepted (by rw [partEq])
  | fewer refused shorter =>
    refine .fewer refused ?_
    rw [List.length_append, List.length_append]
    exact Nat.add_lt_add_left shorter _

/-- Bytes that are taken are their own stored form. -/
theorem takeBytes (count : Nat) (short : ReadError) :
    Retraces id [] fun _ => Binary.takeBytes count short := by
  intro bytes front rest read
  exact ⟨front, (takeBytes_eq_ok read).1, .same read rfl⟩

/-- A number of a fixed width has one stored form. -/
theorem readNumber (width : Nat) :
    Retraces (littleEndian width) [] fun _ => Binary.readNumber width := by
  apply (takeBytes width .endOfInput).bind
  rintro front ⟨bytes, rest, read⟩
  apply pure
  rw [← (takeBytes_eq_ok read).2, littleEndian_ofLittleEndian]
  rfl

/-- After a number, what follows has only to be retraced for numbers of its width. -/
theorem number {width : Nat} {next : NamePolicy → Nat → Reader α}
    (following : ∀ number < 0x100 ^ width,
      Retraces stored (before ++ littleEndian width number) fun policy => next policy number) :
    Retraces stored before fun policy => Binary.readNumber width >>= next policy := by
  apply (readNumber width).bind
  rintro number ⟨bytes, rest, read⟩
  rcases bind_eq_ok.1 read with ⟨⟨front, middle⟩, taken, given⟩
  cases given
  apply following
  rw [← (takeBytes_eq_ok taken).2]
  exact ofLittleEndian_lt front

/-- The alternatives of a choice are looked at one by one. -/
theorem choice {next : NamePolicy → Nat → Reader α}
    (following : ∀ index,
      Retraces stored (before ++ writeChoice index) fun policy => next policy index) :
    Retraces stored before fun policy => readChoice >>= next policy :=
  number fun index _ => following index

end Retraces

/-- A type whose values are read from their stored forms only. -/
class CanonicalStored (α : Type) [Stored α] : Prop where
  retraces : Retraces (write : α → Bytes) [] read

/-- After a value with a canonical form, its stored form has been read. -/
theorem Retraces.read [Stored β] [CanonicalStored β] {stored : α → Bytes} {before : Bytes}
    {next : NamePolicy → β → Reader α}
    (following : ∀ value,
      Retraces stored (before ++ write value) fun policy => next policy value) :
    Retraces stored before fun policy => read policy >>= next policy :=
  CanonicalStored.retraces.bind fun value _ => following value

/-! ## Numbers, characters and texts -/

instance : CanonicalStored UInt64 where
  retraces := by
    apply Retraces.number
    intro number fits
    apply Retraces.pure
    exact congrArg (littleEndian 8) (UInt64.toNat_ofNat_of_lt' fits)

instance : CanonicalStored Int64 where
  retraces := by
    apply Retraces.number
    intro number fits
    apply Retraces.pure
    exact congrArg (littleEndian 8) (UInt64.toNat_ofNat_of_lt' fits)

instance : CanonicalStored Bool where
  retraces := Retraces.number fun number _ => match number with
    | 0 => .pure rfl
    | 1 => .pure rfl
    | _ + 2 => .throw _

instance : CanonicalStored Char where
  retraces := by
    apply Retraces.number
    intro first fits bytes char rest decoded
    cases found : Utf8.decodeChar (UInt8.ofNat first) bytes with
    | error malformed =>
      simp only [bind, StateT.bind, get, getThe, MonadStateOf.get, StateT.get, pure, Except.bind,
        Except.pure, found] at decoded
      cases decoded
    | ok outcome =>
      have outcomeEq : (outcome.1, bytes.drop outcome.2) = (char, rest) := by
        simp only [bind, StateT.bind, get, getThe, MonadStateOf.get, StateT.get, pure, Except.bind,
          Except.pure, found] at decoded
        exact Except.ok.inj decoded
      cases outcomeEq
      refine ⟨bytes.take outcome.2, (List.take_append_drop _ _).symm, .same decoded ?_⟩
      have bytesEq := Utf8.encodeChar_of_decodeChar found
      have small : first < 0x100 := fits
      apply (List.append_left_inj (bytes.drop outcome.2)).1
      rw [List.append_assoc, List.take_append_drop, littleEndian, Nat.mod_eq_of_lt small]
      exact bytesEq

instance : CanonicalStored String where
  retraces := by
    apply Retraces.number
    intro length _
    apply (Retraces.takeBytes length .shortText).bind
    rintro front ⟨bytes, rest, taken⟩
    have lengthEq := (takeBytes_eq_ok taken).2
    cases decoded : Utf8.decode front with
    | error problem => exact .throw _
    | ok text =>
      apply Retraces.pure
      have textEq := Utf8.encode_of_decode decoded
      have storedEq : write text = writeLength (Utf8.encode text).length ++ Utf8.encode text := rfl
      rw [storedEq, textEq, lengthEq]
      rfl

instance [Stored α] [CanonicalStored α] : CanonicalStored (Option α) where
  retraces := Retraces.number fun number _ => match number with
    | 0 => .pure rfl
    | 1 => .read fun _ => .pure rfl
    | _ + 2 => .throw _

instance [Stored α] [Stored β] [CanonicalStored α] [CanonicalStored β] :
    CanonicalStored (α × β) where
  retraces := .read fun _ => .read fun _ => .pure rfl

/-! ## Lists and tables -/

/-- As many items are read as were asked for. -/
theorem length_of_readMany {item : Reader α} {count : Nat} {bytes rest : Bytes} {items : List α}
    (read : readMany item count bytes = .ok (items, rest)) : items.length = count := by
  induction count generalizing bytes items with
  | zero =>
    cases read
    rfl
  | succ count ih =>
    rcases bind_eq_ok.1 read with ⟨⟨first, middle⟩, _, restRead⟩
    rcases bind_eq_ok.1 restRead with ⟨⟨others, last⟩, othersRead, given⟩
    cases given
    rw [List.length_cons, ih othersRead]

/-- An entry that gives way to a later one is not stored. -/
theorem length_flatMap_filter_lt [Stored α] {entries : List (String × α)} {name : String}
    (member : name ∈ entries.map Prod.fst) :
    ((entries.filter fun entry => entry.1 ≠ name).flatMap write).length
      < (entries.flatMap write).length := by
  rcases List.mem_map.1 member with ⟨entry, isEntry, rfl⟩
  rcases List.append_of_mem isEntry with ⟨front, back, rfl⟩
  have occupied := List.length_pos_iff.2 (write_ne_nil entry)
  have fromFront := ((List.filter_sublist (p := fun other => other.1 ≠ entry.1)
    (l := front)).flatMap write).length_le
  have fromBack := ((List.filter_sublist (p := fun other => other.1 ≠ entry.1)
    (l := back)).flatMap write).length_le
  rw [List.filter_append, List.filter_cons_of_neg (by simp)]
  simp only [List.flatMap_append, List.flatMap_cons, List.length_append]
  omega

section Sequences

variable [Stored α] [CanonicalStored α]

/-- Several items have the stored forms of the items one after another. -/
theorem retraces_readMany (count : Nat) :
    Retraces (List.flatMap (write : α → Bytes)) [] fun policy => readMany (read policy) count := by
  induction count with
  | zero => exact .pure rfl
  | succ count ih =>
    apply Retraces.read
    intro first
    apply ih.bind
    intro others _
    apply Retraces.pure
    rw [List.flatMap_cons]
    rfl

instance : CanonicalStored (List α) where
  retraces := by
    apply Retraces.number
    intro length _
    apply (retraces_readMany length).after
    rintro items ⟨bytes, rest, itemsRead⟩
    rw [← length_of_readMany itemsRead]
    rfl

/-- Entries are read into a table that has some already. The bytes before them hold the number of
all entries, which is too large once a name comes again. -/
theorem retraces_readEntries (count : Nat) (table : Table α) :
    Retraces write (writeLength (table.entries.length + count) ++ table.entries.flatMap write)
      fun policy => readEntries policy count table := by
  induction count generalizing table with
  | zero => exact .pure rfl
  | succ count ih =>
    apply Retraces.read
    intro name
    apply Retraces.read
    intro value
    have later := ih (table.insert name value)
    cases contained : table.contains name with
    | true =>
      -- The earlier entry of that name is gone, and it took at least one byte.
      refine later.lapse ?_ rfl fun bytes => ⟨_, rfl⟩
      have dropped := length_flatMap_filter_lt (Table.contains_iff_mem_names.1 contained)
      have entryEq : write (name, value) = write name ++ write value := rfl
      simp only [Table.insert, List.flatMap_append, List.flatMap_singleton, entryEq,
        List.length_append, writeLength, length_littleEndian]
      omega
    | false =>
      simp only [Bool.and_false, Bool.false_eq_true, if_false]
      have new := Table.contains_eq_false_iff.1 contained
      rw [Table.entries_insert_of_new new, List.length_append, List.length_singleton,
        Nat.add_assoc, Nat.add_comm 1, List.flatMap_append, List.flatMap_singleton] at later
      rw [List.append_assoc, List.append_assoc, ← List.append_assoc]
      exact later

instance : CanonicalStored (Table α) where
  retraces := by
    apply Retraces.number
    intro length _
    have entries := retraces_readEntries length (.empty : Table α)
    simpa [Table.empty, writeLength] using entries

end Sequences

end UnitLinker.Binary
