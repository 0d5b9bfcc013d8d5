import UnitLinker.Text.Letter
import UnitLinker.Text.Pattern.Brackets

/-!
# Reading patterns

Characters stand for themselves. There are sets in brackets, groups in parentheses,
alternatives between bars, repetitions, marks for places, and backslashes. A group has
a number and possibly a name, or it sets flags. What cannot be read is refused with the
place of the flaw.
-/

namespace UnitLinker.Text.Pattern

/-- The greatest count of a repetition. -/
def countLimit : Nat := UInt32.size - 1

/-- Reads the digits of a number. -/
def readDigits (digits : List Char) (cursor : Cursor) : List Char × Cursor :=
  match _ : cursor.rest with
  | [] => (digits, cursor)
  | char :: _ => if char.isDigit then readDigits (digits ++ [char]) cursor.next else (digits, cursor)
termination_by cursor.rest.length
decreasing_by exact Cursor.length_next_lt ‹_›

/-- Passes over blanks after a number. -/
def skipTrailing (cursor : Cursor) : Cursor :=
  match _ : cursor.rest with
  | [] => cursor
  | char :: _ => if isBlank char then skipTrailing cursor.next else cursor
termination_by cursor.rest.length
decreasing_by exact Cursor.length_next_lt ‹_›

/-- Reads a number between blanks. -/
def readDecimal (cursor : Cursor) : Except ReadError Nat × Cursor :=
  let first := cursor.skipBlanks
  let (digits, last) := readDigits [] first
  let value := digits.foldl (fun total digit => 10 * total + (digit.toNat - '0'.toNat)) 0
  (if digits.isEmpty then refuse .countMissing first.position last.position
    else if countLimit < value then refuse .countHuge first.position last.position
    else .ok value,
    skipTrailing last)

/-- A question mark after a repetition changes which of several matches is found, not
whether there is one. -/
def skipQuestion (cursor : Cursor) : Cursor :=
  if cursor.rest.head? = some '?' then cursor.skip 1 else cursor

/-- The bounds of a repetition. -/
structure Count where
  low : Nat
  high : Option Nat
  deriving DecidableEq, Repr

/-- Reads a repetition in braces. -/
def readCount (cursor : Cursor) : Except ReadError (Count × Cursor) := do
  let opened := cursor.position
  let unclosed {α : Type} (here : Cursor) : Except ReadError α :=
    refuse .countUnclosed opened here.position
  let inner := cursor.next
  if inner.rest.isEmpty then unclosed inner
  let (low, middle) := readDecimal inner
  if middle.rest.isEmpty then unclosed middle
  let (count, closing) ←
    if middle.rest.head? = some ',' then do
      let second := middle.next
      match second.rest with
      | [] => unclosed second
      | '}' :: _ => pure (⟨← low, none⟩, second)
      | _ =>
        let least ← low
        let (high, last) := readDecimal second
        pure (⟨least, some (← high)⟩, last)
    else do
      let least ← low
      pure ((⟨least, some least⟩ : Count), middle)
  if closing.rest.head? ≠ some '}' then unclosed closing
  let after := skipQuestion closing.next
  if count.high.any (· < count.low) then refuse .countRange opened after.position
  return (count, after)

/-- Reads flags up to a colon or a closing parenthesis. A flag after a dash is off. The
items read so far are flags and dashes, each with its place. -/
def readFlags (items : List (Option Flag × Nat)) (cursor : Cursor) :
    Except ReadError (List (Option Flag × Nat) × Cursor) :=
  match _ : cursor.rest with
  | [] => cursor.refuseHere .flagMissing
  | char :: _ =>
    if char = ':' || char = ')' then
      match items.getLast? with
      | some (none, dash) => refuse .negationDangling dash (dash + 1)
      | _ => .ok (items, cursor)
    else
      let item := if char = '-' then none else Flag.ofChar? char
      if char ≠ '-' && item.isNone then cursor.refuseChar .flagUnknown
      else match items.find? (·.1 = item) with
        | some (_, earlier) =>
          refuseRepeated (if char = '-' then .negationRepeated else .flagRepeated)
            ⟨cursor.position, cursor.position + 1⟩ ⟨earlier, earlier + 1⟩
        | none => readFlags (items ++ [(item, cursor.position)]) (cursor.skip 1)
termination_by cursor.rest.length
decreasing_by
  have shorter := cursor.length_skip_le 1
  have here : cursor.rest = _ := ‹_›
  rw [here] at shorter ⊢
  simp only [List.length_cons] at shorter ⊢
  omega

/-- The changes that flags and dashes stand for. -/
def flagChanges (items : List (Option Flag × Nat)) : FlagChanges :=
  let enabled := items.takeWhile (·.1.isSome)
  let disabled := items.drop enabled.length
  enabled.filterMap (fun item => item.1.map (·, true))
    ++ disabled.filterMap (fun item => item.1.map (·, false))

/-- Whether flags count blanks, if they say anything on that. -/
def spacedBy? (changes : FlagChanges) : Option Bool :=
  (changes.find? (·.1 = .spaced)).map Prod.snd

/-- Whether a character may be in the name of a group, as its first one or later. -/
def isNameChar (first : Bool) (char : Char) : Bool :=
  char = '_' || isLetter char
    || (!first && (char = '.' || char = '[' || char = ']' || isNumber char))

/-- Reads the name of a group up to a closing angle bracket. -/
def readName (start : Nat) (name : List Char) (cursor : Cursor) :
    Except ReadError (List Char × Cursor) :=
  match _ : cursor.rest with
  | [] => cursor.refuseHere .nameIncomplete
  | char :: _ =>
    if char = '>' then
      if name.isEmpty then refuse .nameEmpty start start else .ok (name, cursor)
    else if isNameChar name.isEmpty char then readName start (name ++ [char]) (cursor.skip 1)
    else cursor.refuseChar .nameChar
termination_by cursor.rest.length
decreasing_by
  have shorter := cursor.length_skip_le 1
  have here : cursor.rest = _ := ‹_›
  rw [here] at shorter ⊢
  simp only [List.length_cons] at shorter ⊢
  omega

/-- Alternatives that are being read. -/
structure Level where
  /-- Where the first alternative starts. -/
  first : Nat
  /-- The finished alternatives, the last one first. -/
  alternatives : List Expression
  /-- Where the current alternative starts. -/
  start : Nat
  /-- The parts of the current alternative, the last one first. -/
  parts : List Expression
  deriving Repr

namespace Level

/-- Nothing read, from a place on. -/
def begin (position : Nat) : Level := ⟨position, [], position, []⟩

/-- One more part. -/
def push (level : Level) (part : Expression) : Level := { level with parts := part :: level.parts }

/-- The current alternative, which ends at a place. -/
def current (level : Level) (stop : Nat) : Expression :=
  match level.parts with
  | [] => .empty ⟨level.start, stop⟩
  | [part] => part
  | parts => .concat ⟨level.start, stop⟩ parts.reverse

/-- The next alternative starts after a bar. -/
def bar (level : Level) (position : Nat) : Level :=
  ⟨level.first, level.current position :: level.alternatives, position + 1, []⟩

/-- All alternatives, of which the last one ends at a place. -/
def close (level : Level) (stop : Nat) : Expression :=
  match level.alternatives with
  | [] => level.current stop
  | alternatives => .alternation ⟨level.first, stop⟩ (level.current stop :: alternatives).reverse

end Level

/-- A group that is open. -/
structure Opening where
  position : Nat
  kind : GroupKind
  /-- Whether blanks did not count before the group. -/
  spaced : Bool
  /-- What was read before the group. -/
  before : Level
  deriving Repr

/-- What has been read of a pattern. -/
structure Reading where
  cursor : Cursor
  level : Level
  /-- The open groups, the innermost one first. -/
  openings : List Opening
  /-- The names of groups. -/
  names : List (List Char × Extent)
  deriving Repr

namespace Reading

/-- Reading goes on with one more part. -/
def withPart (reading : Reading) (part : Expression) (after : Cursor) : Reading :=
  { reading with level := reading.level.push part, cursor := after }

/-- A group is opened. -/
def opened (reading : Reading) (kind : GroupKind) (after : Cursor) : Reading :=
  let spaced := match kind with
    | .numbered => none
    | .flagged changes => spacedBy? changes
  { reading with
    cursor := { after with spaced := spaced.getD after.spaced }
    level := .begin after.position
    openings := ⟨reading.cursor.position, kind, after.spaced, reading.level⟩ :: reading.openings }

/-- Reads the name of a group, which no other group has. -/
def readNamed (reading : Reading) (cursor : Cursor) : Except ReadError Reading := do
  let (name, closing) ← readName cursor.position [] cursor
  let extent : Extent := ⟨cursor.position, closing.position⟩
  match reading.names.lookup name with
  | some earlier => refuseRepeated .nameRepeated extent earlier
  | none =>
    return { reading with names := reading.names ++ [(name, extent)] }.opened .numbered (closing.skip 1)

/-- Reads flags, for a group or for what follows. Without any, the question mark before
them repeats nothing. -/
def readFlagged (reading : Reading) (question cursor : Cursor) : Except ReadError Reading := do
  let (items, closing) ← readFlags [] cursor
  let changes := flagChanges items
  let after := closing.skip 1
  if closing.rest.head? = some ':' then return reading.opened (.flagged changes) after
  if items.isEmpty then question.refuseHere .repetitionMissing
  return reading.withPart (.flags ⟨reading.cursor.position, after.position⟩ changes)
    { after with spaced := (spacedBy? changes).getD after.spaced }

/-- Reads the start of a group. -/
def readOpening (reading : Reading) : Except ReadError Reading := do
  let position := reading.cursor.position
  let inner := reading.cursor.next
  match inner.rest with
  | '?' :: '=' :: _ => refuse .lookAround position (inner.position + 2)
  | '?' :: '!' :: _ => refuse .lookAround position (inner.position + 2)
  | '?' :: '<' :: '=' :: _ => refuse .lookAround position (inner.position + 3)
  | '?' :: '<' :: '!' :: _ => refuse .lookAround position (inner.position + 3)
  | '?' :: 'P' :: '<' :: _ => reading.readNamed (inner.skip 3)
  | '?' :: '<' :: _ => reading.readNamed (inner.skip 2)
  | ['?'] => refuse .groupUnclosed position (position + 1)
  | '?' :: _ => reading.readFlagged inner (inner.skip 1)
  | _ => return reading.opened .numbered inner

/-- Reads the end of a group. -/
def readClosing (reading : Reading) : Except ReadError Reading :=
  match reading.openings with
  | [] => reading.cursor.refuseChar .groupUnopened
  | opening :: openings =>
    let after := reading.cursor.skip 1
    let body := reading.level.close reading.cursor.position
    .ok { reading with
      cursor := { after with spaced := opening.spaced }
      level := opening.before.push (.group ⟨opening.position, after.position⟩ opening.kind body)
      openings }

/-- The part that a repetition at the cursor repeats, and the parts before it. -/
def lastPart (reading : Reading) : Except ReadError (Expression × List Expression) :=
  match reading.level.parts with
  | [] => reading.cursor.refuseHere .repetitionMissing
  | .flags _ _ :: _ => reading.cursor.refuseHere .repetitionMissing
  | last :: earlier => .ok (last, earlier)

/-- A part is repeated. -/
def withCount (reading : Reading) (last : Expression) (earlier : List Expression) (count : Count)
    (after : Cursor) : Reading :=
  let extent : Extent := ⟨last.extent.start, after.position⟩
  { reading with
    cursor := after
    level := { reading.level with
      parts := .repetition extent count.low count.high last :: earlier } }

/-- Reads a repetition without braces. -/
def readRepetition (reading : Reading) (count : Count) : Except ReadError Reading := do
  let (last, earlier) ← reading.lastPart
  return reading.withCount last earlier count (skipQuestion (reading.cursor.skip 1))

/-- Reads the piece at the cursor. -/
def readPiece (reading : Reading) : Except ReadError Reading := do
  let cursor := reading.cursor
  let extent : Extent := ⟨cursor.position, cursor.position + 1⟩
  match cursor.rest with
  | [] => return reading
  | '(' :: _ => reading.readOpening
  | ')' :: _ => reading.readClosing
  | '|' :: _ =>
    return { reading with cursor := cursor.skip 1, level := reading.level.bar cursor.position }
  | '*' :: _ => reading.readRepetition ⟨0, none⟩
  | '+' :: _ => reading.readRepetition ⟨1, none⟩
  | '?' :: _ => reading.readRepetition ⟨0, some 1⟩
  | '{' :: _ =>
    let (last, earlier) ← reading.lastPart
    let (count, after) ← readCount cursor
    return reading.withCount last earlier count after
  | '[' :: _ =>
    let (set, after) ← readSet cursor
    return reading.withPart set after
  | '\\' :: _ =>
    let (part, after) ← readEscape cursor
    return reading.withPart part after
  | '.' :: _ => return reading.withPart (.dot extent) (cursor.skip 1)
  | '^' :: _ => return reading.withPart (.mark extent .lineStart) (cursor.skip 1)
  | '$' :: _ => return reading.withPart (.mark extent .lineEnd) (cursor.skip 1)
  | char :: _ => return reading.withPart (.literal ⟨extent, char, false⟩) (cursor.skip 1)

/-- Reads pieces until the end of the pattern. Each piece has a character at least, so
as many pieces as there are characters are enough. -/
def readAll : (pieces : Nat) → Reading → Except ReadError Expression
  | 0, reading =>
    match reading.openings with
    | [] => .ok (reading.level.close reading.cursor.position)
    | opening :: _ => refuse .groupUnclosed opening.position (opening.position + 1)
  | pieces + 1, reading => do
    readAll pieces (← { reading with cursor := reading.cursor.skipSpace }.readPiece)

end Reading

/-- Reads a whole pattern, whose parts do not lie too deep in each other. -/
def Expression.read (text : String) : Except ReadError Expression := do
  let expression ← Reading.readAll text.length ⟨.start text, .begin 0, [], []⟩
  match expression.tooDeep? depthLimit with
  | some extent => refuse .tooDeep extent.start extent.stop
  | none => return expression

end UnitLinker.Text.Pattern
