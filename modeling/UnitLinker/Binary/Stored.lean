import UnitLinker.Binary.Utf8
import UnitLinker.Table

/-!
# The storage format

Numbers have a fixed width and their least significant byte first. A text, a
list or a table starts with its length, a choice with the index of the
alternative, and an optional value with a tag. Nothing separates values, and
bytes after the last value are ignored.
-/

namespace UnitLinker.Binary

/-- Why bytes cannot be read. -/
inductive ReadError where
  /-- The bytes end before a number, a tag or a character. -/
  | endOfInput
  /-- The bytes end inside a text. -/
  | shortText
  | badText (malformed : Utf8.Malformed) (index : Nat)
  | badChar
  | badBool (found : UInt8)
  | badOption (found : UInt8)
  | badChoice (found count : Nat)
  /-- A table names an entry twice. -/
  | repeatedName (name : String)
  deriving DecidableEq, Repr

/-- The text of a reading error. -/
def ReadError.text : ReadError → String
  | .endOfInput => "io error: unexpected end of file"
  | .shortText => "io error: "
  | .badText (.invalid length) index =>
    s!"string is not valid utf8: invalid utf-8 sequence of {length} bytes from index {index}"
  | .badText .incomplete index =>
    s!"string is not valid utf8: incomplete utf-8 byte sequence from index {index}"
  | .badChar => "char is not valid"
  | .badBool found => s!"invalid u8 while decoding bool, expected 0 or 1, found {found}"
  | .badOption found => s!"tag for enum is not valid, found {found}"
  | .badChoice found count =>
    s!"invalid value: integer `{found}`, expected variant index 0 <= i < {count}"
  | .repeatedName name => s!"repeated name `{name}`"

/-- What to do with a name that a table has already. -/
inductive NamePolicy where
  /-- The later entry replaces the earlier one and takes the last place. -/
  | lastWins
  /-- The table is refused. -/
  | distinct
  deriving DecidableEq, Repr

/-- A reader takes a value off the front of a byte sequence. -/
abbrev Reader (α : Type) := StateT Bytes (Except ReadError) α

/-- A type whose values can be written to bytes and read back. -/
class Stored (α : Type) where
  write : α → Bytes
  read : NamePolicy → Reader α

export Stored (write read)

/-- The least significant bytes of a number, the lowest first. -/
def littleEndian : Nat → Nat → Bytes
  | 0, _ => []
  | width + 1, value => UInt8.ofNat (value % 0x100) :: littleEndian width (value / 0x100)

/-- The number that bytes stand for, the lowest first. -/
def ofLittleEndian : Bytes → Nat
  | [] => 0
  | byte :: rest => byte.toNat + 0x100 * ofLittleEndian rest

/-- The first bytes and the others, if there are enough. -/
def splitFront? : Nat → Bytes → Option (Bytes × Bytes)
  | 0, bytes => some ([], bytes)
  | _ + 1, [] => none
  | count + 1, byte :: rest =>
    (splitFront? count rest).map fun parts => (byte :: parts.1, parts.2)

/-- Takes bytes off the front, or fails in a given way if there are too few. -/
def takeBytes (count : Nat) (short : ReadError) : Reader Bytes := fun bytes =>
  match splitFront? count bytes with
  | some parts => .ok parts
  | none => .error short

/-- Takes a number of a fixed width off the front. -/
def readNumber (width : Nat) : Reader Nat := do
  return ofLittleEndian (← takeBytes width .endOfInput)

instance : Stored UInt64 where
  write value := littleEndian 8 value.toNat
  read _ := return UInt64.ofNat (← readNumber 8)

instance : Stored Int64 where
  write value := littleEndian 8 value.toUInt64.toNat
  read _ := return (UInt64.ofNat (← readNumber 8)).toInt64

instance : Stored Bool where
  write value := [if value then 1 else 0]
  read _ := do
    match ← readNumber 1 with
    | 0 => return false
    | 1 => return true
    | other => throw (.badBool (UInt8.ofNat other))

instance : Stored Char where
  write := Utf8.encodeChar
  read _ := do
    let first ← readNumber 1
    let rest ← get
    match Utf8.decodeChar (UInt8.ofNat first) rest with
    | .ok (char, more) =>
      set (rest.drop more)
      return char
    | .error _ => throw .badChar

/-- A length as a number. -/
def writeLength (length : Nat) : Bytes := littleEndian 8 length

instance : Stored String where
  write text := writeLength (Utf8.encode text).length ++ Utf8.encode text
  read _ := do
    let length ← readNumber 8
    let bytes ← takeBytes length .shortText
    match Utf8.decode bytes with
    | .ok text => return text
    | .error (malformed, index) => throw (.badText malformed index)

instance {α : Type} [Stored α] : Stored (Option α) where
  write
    | none => [0]
    | some value => 1 :: write value
  read policy := do
    match ← readNumber 1 with
    | 0 => return none
    | 1 => return some (← read policy)
    | other => throw (.badOption (UInt8.ofNat other))

instance {α β : Type} [Stored α] [Stored β] : Stored (α × β) where
  write pair := write pair.1 ++ write pair.2
  read policy := do
    let first ← read policy
    let second ← read policy
    return (first, second)

/-- Reads a number of values one after another. -/
def readMany {α : Type} (item : Reader α) : Nat → Reader (List α)
  | 0 => return []
  | count + 1 => do
    let first ← item
    let rest ← readMany item count
    return first :: rest

instance {α : Type} [Stored α] : Stored (List α) where
  write items := writeLength items.length ++ items.flatMap write
  read policy := do
    let length ← readNumber 8
    readMany (read policy) length

/-- Reads a number of entries into a table. -/
def readEntries {α : Type} [Stored α] (policy : NamePolicy) : Nat → Table α → Reader (Table α)
  | 0, table => return table
  | count + 1, table => do
    let name : String ← read policy
    let value : α ← read policy
    if policy = .distinct && table.contains name then throw (.repeatedName name)
    readEntries policy count (table.insert name value)

instance {α : Type} [Stored α] : Stored (Table α) where
  write table := write table.entries
  read policy := do
    let length ← readNumber 8
    readEntries policy length .empty

/-- The index of an alternative. -/
def writeChoice (index : Nat) : Bytes := littleEndian 4 index

/-- Reads the index of an alternative. -/
def readChoice : Reader Nat := readNumber 4

/-- Reads a value from the front of a byte sequence. -/
def decode {α : Type} [Stored α] (policy : NamePolicy) (bytes : Bytes) : Except ReadError α :=
  ((read policy).run bytes).map Prod.fst

end UnitLinker.Binary
