import UnitLinker.Table
import UnitLinker.Text.Align
import UnitLinker.Word

/-!
# Declared types

Enumerations, arrays and records that a unit declares. Linking passes them on
unchanged. The size of an array is computed in machine words, so it is exact
or refused.
-/

namespace UnitLinker

/-- An enumeration: its value names in ordinal order from zero. -/
structure EnumType where
  values : List String
  deriving DecidableEq, Repr

namespace EnumType

/-- The ordinal of a value name. -/
def ordinal? (enum : EnumType) (name : String) : Option Nat :=
  enum.values.findIdx? (· = name)

/-- The largest ordinal; an enumeration without values has none. -/
def high? (enum : EnumType) : Option Nat :=
  if enum.values.isEmpty then none else some (enum.values.length - 1)

/-- The declaration text of an enumeration. -/
def text (enum : EnumType) : String := "(" ++ Text.joined ", " enum.values ++ ")"

end EnumType

/-- The indices from a low to a high bound, both included. -/
structure IndexRange where
  low : Int64
  high : Int64
  deriving DecidableEq, Repr

namespace IndexRange

/-- Whether an index is in a range. -/
def contains (range : IndexRange) (index : Int64) : Bool :=
  range.low ≤ index && index ≤ range.high

/-- The number of indices. The distance of the bounds must fit into a signed
word; a range whose high bound is below its low bound is empty. -/
def length (range : IndexRange) : Except Fault UInt64 :=
  if range.high < range.low then .ok 0
  else
    let distance := range.high.toInt - range.low.toInt
    if distance ≤ Int64.maxValue.toInt then .ok (UInt64.ofNat (distance.toNat + 1)) else .error .overflow

/-- Whether a range has no indices. -/
def isEmpty (range : IndexRange) : Except Fault Bool := do
  return (← range.length) = 0

/-- The bounds as they are declared. -/
def text (range : IndexRange) : String := s!"{range.low.toInt}..{range.high.toInt}"

end IndexRange

/-- An array: one index range per dimension and the name of its element type. -/
structure ArrayType where
  dimensions : List IndexRange
  elementType : String
  deriving DecidableEq, Repr

namespace ArrayType

/-- The product of the lengths of ranges, taken from the left onto a factor. -/
def countFrom (factor : UInt64) : List IndexRange → Except Fault UInt64
  | [] => .ok factor
  | range :: ranges => do
    let length ← range.length
    let product ← Word.mul factor length
    countFrom product ranges

/-- The number of elements of an array. -/
def elementCount (array : ArrayType) : Except Fault UInt64 := countFrom 1 array.dimensions

/-- The declaration text of an array. -/
def text (array : ArrayType) : String :=
  "array[" ++ Text.joined ", " (array.dimensions.map IndexRange.text) ++ "] of " ++ array.elementType

end ArrayType

/-- A field of a record. -/
structure RecordField where
  name : String
  type : String
  deriving DecidableEq, Repr

/-- A record: its fields in declaration order. -/
structure RecordType where
  fields : List RecordField
  deriving DecidableEq, Repr

namespace RecordType

/-- The position of a field. -/
def fieldIndex? (record : RecordType) (name : String) : Option Nat :=
  record.fields.findIdx? (·.name = name)

/-- The declaration text of a record. -/
def text (record : RecordType) : String :=
  "record" ++ String.join (record.fields.map fun field => s!" {field.name}: {field.type};") ++ " end"

end RecordType

/-- The type declarations of a unit, one table per form of type. -/
structure TypeTables where
  enums : Table EnumType
  arrays : Table ArrayType
  records : Table RecordType
  deriving DecidableEq, Repr

namespace TypeTables

/-- No declarations. -/
def empty : TypeTables := ⟨.empty, .empty, .empty⟩

/-- Whether a name is declared as a type of any form. -/
def contains (types : TypeTables) (name : String) : Bool :=
  types.enums.contains name || types.arrays.contains name || types.records.contains name

/-- Whether there are no declarations. -/
def isEmpty (types : TypeTables) : Bool :=
  types.enums.isEmpty && types.arrays.isEmpty && types.records.isEmpty

/-- One line per declaration: enumerations, then arrays, then records. -/
def textLines (types : TypeTables) : List String :=
  types.enums.entries.map (fun entry => s!"{entry.1} = {entry.2.text}")
    ++ types.arrays.entries.map (fun entry => s!"{entry.1} = {entry.2.text}")
    ++ types.records.entries.map (fun entry => s!"{entry.1} = {entry.2.text}")

end TypeTables

end UnitLinker
