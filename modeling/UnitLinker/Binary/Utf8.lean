/-!
# Text as bytes

Characters are stored as one to four bytes. Reading says where and how a byte
sequence stops being text: a sequence is incomplete if it ends inside what could
still become a character, and otherwise malformed by a number of bytes.
-/

namespace UnitLinker.Binary

/-- A byte sequence. -/
abbrev Bytes := List UInt8

namespace Utf8

/-- The bytes of a character. -/
def encodeChar (char : Char) : Bytes :=
  let code := char.toNat
  if code < 0x80 then [UInt8.ofNat code]
  else if code < 0x800 then [UInt8.ofNat (0xC0 + code / 0x40), UInt8.ofNat (0x80 + code % 0x40)]
  else if code < 0x10000 then
    [UInt8.ofNat (0xE0 + code / 0x1000), UInt8.ofNat (0x80 + code / 0x40 % 0x40),
      UInt8.ofNat (0x80 + code % 0x40)]
  else
    [UInt8.ofNat (0xF0 + code / 0x40000), UInt8.ofNat (0x80 + code / 0x1000 % 0x40),
      UInt8.ofNat (0x80 + code / 0x40 % 0x40), UInt8.ofNat (0x80 + code % 0x40)]

/-- The bytes of a text. -/
def encode (text : String) : Bytes := text.toList.flatMap encodeChar

/-- How a byte sequence fails to start with a character. -/
inductive Malformed where
  /-- So many bytes cannot be part of any character. -/
  | invalid (length : Nat)
  /-- The bytes end inside a character. -/
  | incomplete
  deriving DecidableEq, Repr

/-- The length of a character by its first byte; zero if none starts with it. -/
def width (first : Nat) : Nat :=
  if first < 0x80 then 1
  else if 0xC2 ≤ first && first ≤ 0xDF then 2
  else if 0xE0 ≤ first && first ≤ 0xEF then 3
  else if 0xF0 ≤ first && first ≤ 0xF4 then 4
  else 0

/-- The bounds of the second byte by the first one. They keep out longer forms
than needed, surrogates and codes past the last character. -/
def secondBounds (first : Nat) : Nat × Nat :=
  if first = 0xE0 then (0xA0, 0xBF)
  else if first = 0xED then (0x80, 0x9F)
  else if first = 0xF0 then (0x90, 0xBF)
  else if first = 0xF4 then (0x80, 0x8F)
  else (0x80, 0xBF)

/-- The six bits of a following byte. -/
def tailBits? (low high : Nat) (byte : UInt8) : Option Nat :=
  if low ≤ byte.toNat && byte.toNat ≤ high then some (byte.toNat - 0x80) else none

/-- Adds the bits of following bytes to a code: the first of them has bounds of
its own. `taken` bytes are known to start a character. -/
def decodeTail (code taken : Nat) (bounds : Nat × Nat) : Nat → Bytes → Except Malformed Nat
  | 0, _ => .ok code
  | _ + 1, [] => .error .incomplete
  | more + 1, byte :: rest =>
    match tailBits? bounds.1 bounds.2 byte with
    | some bits => decodeTail (0x40 * code + bits) (taken + 1) (0x80, 0xBF) more rest
    | none => .error (.invalid taken)

/-- The bits of a first byte that belong to the code. -/
def leadBits (first : Nat) : Nat :=
  match width first with
  | 2 => first - 0xC0
  | 3 => first - 0xE0
  | 4 => first - 0xF0
  | _ => first

/-- The character that starts with a first byte, and how many bytes follow it. -/
def decodeChar (first : UInt8) (rest : Bytes) : Except Malformed (Char × Nat) :=
  match width first.toNat with
  | 0 => .error (.invalid 1)
  | more + 1 => do
    let code ← decodeTail (leadBits first.toNat) 1 (secondBounds first.toNat) more rest
    return (Char.ofNat code, more)

/-- The characters of a byte sequence; a failure comes with the number of bytes
before it. -/
def decodeFrom (index : Nat) (bytes : Bytes) : Except (Malformed × Nat) (List Char) :=
  match bytes with
  | [] => .ok []
  | first :: rest =>
    match decodeChar first rest with
    | .error malformed => .error (malformed, index)
    | .ok (char, more) => do
      let chars ← decodeFrom (index + 1 + more) (rest.drop more)
      return char :: chars
termination_by bytes.length
decreasing_by
  simp only [List.length_drop, List.length_cons]
  omega

/-- The text of a byte sequence. -/
def decode (bytes : Bytes) : Except (Malformed × Nat) String :=
  (decodeFrom 0 bytes).map String.ofList

end Utf8

end UnitLinker.Binary
