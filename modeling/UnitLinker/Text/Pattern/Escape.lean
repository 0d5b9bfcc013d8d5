import UnitLinker.Text.Pattern.Cursor
import UnitLinker.Text.Pattern.Expression

/-!
# Backslashes in patterns

A backslash takes a sign its meaning, or gives a letter one: a control character, a
character by its code in hexadecimal digits, a class of characters, or a mark for a
place.
-/

namespace UnitLinker.Text.Pattern

/-- The value of a hexadecimal digit. -/
def hexDigit? (char : Char) : Option Nat :=
  if char.isDigit then some (char.toNat - '0'.toNat)
  else if 'a' ≤ char ∧ char ≤ 'f' then some (char.toNat - 'a'.toNat + 10)
  else if 'A' ≤ char ∧ char ≤ 'F' then some (char.toNat - 'A'.toNat + 10)
  else none

/-- The character with a code. -/
def charWithCode? (code : Nat) : Option Char :=
  if code.isValidChar then some (Char.ofNat code) else none

/-- Reads so many hexadecimal digits behind those of a value. -/
def readHexDigits : (count value : Nat) → Cursor → Except ReadError (Nat × Cursor)
  | 0, value, cursor => .ok (value, cursor)
  | count + 1, value, cursor =>
    match cursor.rest with
    | [] => cursor.refuseHere .escapeIncomplete
    | char :: _ =>
      match hexDigit? char with
      | some digit => readHexDigits count (16 * value + digit) cursor.next
      | none => cursor.refuseChar .hexDigit

/-- Reads hexadecimal digits up to a closing brace. -/
def readBracedHex (opened : Nat) (digits : List Nat) (cursor : Cursor) :
    Except ReadError (List Nat × Cursor) :=
  match _ : cursor.rest with
  | [] => refuse .escapeIncomplete opened cursor.position
  | char :: _ =>
    if char = '}' then .ok (digits, cursor)
    else match hexDigit? char with
      | some digit => readBracedHex opened (digits ++ [digit]) cursor.next
      | none => cursor.refuseChar .hexDigit
termination_by cursor.rest.length
decreasing_by exact Cursor.length_next_lt ‹_›

/-- Reads a character by its code, from the letter after the backslash on: in braces, or
else with the number of digits that goes with the letter. -/
def readHex (start count : Nat) (letter : Cursor) : Except ReadError (Expression × Cursor) := do
  let cursor := letter.next
  match cursor.rest with
  | [] => cursor.refuseHere .escapeIncomplete
  | '{' :: _ =>
    let opened := cursor.position
    let (digits, closing) ← readBracedHex opened [] cursor.next
    let after := closing.next
    if digits.isEmpty then refuse .hexMissing opened after.position
    match charWithCode? (digits.foldl (fun value digit => 16 * value + digit) 0) with
    | some char => return (.literal ⟨⟨start, after.position⟩, char, false⟩, after)
    | none => refuse .hexValue (opened + 1) closing.position
  | _ =>
    let (code, after) ← readHexDigits count 0 cursor
    match charWithCode? code with
    | some char => return (.literal ⟨⟨start, after.position⟩, char, count = 2⟩, after)
    | none => refuse .hexValue cursor.position after.position

/-- Passes over the name of a property up to its closing brace. -/
def skipPropertyName (cursor : Cursor) : Except ReadError Cursor :=
  match _ : cursor.rest with
  | [] => cursor.refuseHere .escapeIncomplete
  | char :: _ => if char = '}' then .ok (cursor.skip 1) else skipPropertyName cursor.next
termination_by cursor.rest.length
decreasing_by exact Cursor.length_next_lt ‹_›

/-- Reads the property of a class, from the letter after the backslash on: a name in
braces, or else one character. -/
def readProperty (start : Nat) (letter : Cursor) : Except ReadError (Expression × Cursor) := do
  let cursor := letter.next
  match cursor.rest with
  | [] => cursor.refuseHere .escapeIncomplete
  | '{' :: _ =>
    let after ← skipPropertyName cursor.next
    return (.property ⟨start, after.position⟩, after)
  | '\\' :: _ => cursor.refuseChar .propertyName
  | _ => return (.property ⟨start, cursor.next.position⟩, cursor.next)

/-- Whether a character may be in the name of an edge of a word. -/
def isEdgeChar (char : Char) : Bool := char.isAlpha || char = '-'

/-- Reads the name of an edge of a word. -/
def readEdgeName (name : List Char) (cursor : Cursor) : List Char × Cursor :=
  match _ : cursor.rest with
  | [] => (name, cursor)
  | char :: _ => if isEdgeChar char then readEdgeName (name ++ [char]) cursor.next else (name, cursor)
termination_by cursor.rest.length
decreasing_by exact Cursor.length_next_lt ‹_›

/-- The edge of a word with a name. -/
def edgeNamed? (name : List Char) : Option WordEdge :=
  match String.ofList name with
  | "start" => some .start
  | "end" => some .stop
  | "start-half" => some .startHalf
  | "end-half" => some .stopHalf
  | _ => none

/-- Reads the mark for an edge of a word, after its letter: possibly with the name of an
edge in braces. Braces with anything but a name are left, as they give a count. -/
def readWordMark (start : Nat) (cursor : Cursor) : Except ReadError (Expression × Cursor) := do
  let plain := (Expression.mark ⟨start, cursor.position⟩ (.word .boundary), cursor)
  match cursor.rest with
  | '{' :: _ =>
    let inner := cursor.next
    match inner.rest with
    | [] => refuse .wordEdgeIncomplete start inner.position
    | char :: _ =>
      if !isEdgeChar char then return plain
      let (name, after) := readEdgeName [] inner
      match after.rest, edgeNamed? name with
      | '}' :: _, some edge =>
        return (.mark ⟨start, after.position + 1⟩ (.word edge), after.skip 1)
      | '}' :: _, none => refuse .wordEdgeUnknown inner.position after.position
      | _, _ => refuse .wordEdgeUnclosed cursor.position after.position
  | _ => return plain

/-- The control character that a letter stands for. -/
def controlChar? : Char → Option Char
  | 'a' => some (Char.ofNat 7)
  | 't' => some '\t'
  | 'n' => some '\n'
  | 'v' => some (Char.ofNat 11)
  | 'f' => some (Char.ofNat 12)
  | 'r' => some '\r'
  | _ => none

/-- The mark that a letter or sign stands for. -/
def markOf? : Char → Option Mark
  | 'A' => some .textStart
  | 'z' => some .textEnd
  | 'B' => some (.word .interior)
  | '<' => some (.word .start)
  | '>' => some (.word .stop)
  | _ => none

/-- The class that a letter stands for, and whether it is meant to be left out. -/
def letteredClass? : Char → Option (ClassName × Bool)
  | 'd' => some (.digit, false)
  | 's' => some (.space, false)
  | 'w' => some (.word, false)
  | 'D' => some (.digit, true)
  | 'S' => some (.space, true)
  | 'W' => some (.word, true)
  | _ => none

/-- Whether a backslash before a sign leaves the sign itself. -/
def isPlainSign (char : Char) : Bool :=
  char.toNat ≤ CharSet.lastNarrow && !char.isAlphanum && char ≠ '<' && char ≠ '>'

/-- Reads what starts with a backslash at a cursor. -/
def readEscape (cursor : Cursor) : Except ReadError (Expression × Cursor) :=
  let start := cursor.position
  let letter := cursor.skip 1
  let after := letter.skip 1
  let extent : Extent := ⟨start, after.position⟩
  match letter.rest with
  | [] => refuse .escapeIncomplete start letter.position
  | char :: _ =>
    if char.isDigit then refuse .backReference start after.position
    else if char = 'x' then readHex start 2 letter
    else if char = 'u' then readHex start 4 letter
    else if char = 'U' then readHex start 8 letter
    else if char = 'p' || char = 'P' then readProperty start letter
    else if char = 'b' then readWordMark start after
    else if isPlainSign char then .ok (.literal ⟨extent, char, false⟩, after)
    else match letteredClass? char, controlChar? char, markOf? char with
      | some (name, negated), _, _ => .ok (.lettered extent name negated, after)
      | none, some control, _ => .ok (.literal ⟨extent, control, false⟩, after)
      | none, none, some mark => .ok (.mark extent mark, after)
      | none, none, none => refuse .escapeUnknown start after.position

end UnitLinker.Text.Pattern
