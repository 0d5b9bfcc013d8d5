import UnitLinker.Text.Pattern.Escape

/-!
# Sets in brackets

Brackets hold characters, ranges, classes and other brackets, all of which are joined.
Between them may stand operations on sets, which are applied from left to right. A
caret after the opening bracket stands for all characters that are not in the set.
-/

namespace UnitLinker.Text.Pattern

/-- Parts of a set that are being joined, the last one first. -/
structure Union where
  extent : Extent
  items : List SetExpression
  deriving Repr

namespace Union

/-- No parts, at a place. -/
def start (position : Nat) : Union := ⟨⟨position, position⟩, []⟩

/-- One more part. -/
def push (union : Union) (item : SetExpression) : Union :=
  ⟨⟨if union.items.isEmpty then item.extent.start else union.extent.start, item.extent.stop⟩,
    item :: union.items⟩

/-- The parts as one. -/
def toSet (union : Union) : SetExpression :=
  match union.items with
  | [] => .nothing union.extent
  | [item] => item
  | items => .union union.extent items.reverse

end Union

/-- The start of a set in brackets. -/
structure SetOpening where
  /-- The bracket with what belongs to it. -/
  extent : Extent
  negated : Bool
  deriving DecidableEq, Repr

/-- The error if a set is not closed. -/
def SetOpening.unclosed (opening : SetOpening) : ReadError := ⟨.setUnclosed, opening.extent, none⟩

/-- Reads dashes at the front of a set, which stand for themselves. -/
def readDashes (opened : Nat) (union : Union) (cursor : Cursor) : Except ReadError (Union × Cursor) :=
  match _ : cursor.rest with
  | [] => refuse .setUnclosed opened opened
  | char :: _ =>
    if char = '-' then
      readDashes opened
        (union.push (.literal ⟨⟨cursor.position, cursor.position + 1⟩, '-', false⟩)) cursor.next
    else .ok (union, cursor)
termination_by cursor.rest.length
decreasing_by exact Cursor.length_next_lt ‹_›

/-- Fails at the end of the text inside of the opening of a set. -/
def checkOpen (opened : Nat) (cursor : Cursor) : Except ReadError Unit :=
  if cursor.rest.isEmpty then refuse .setUnclosed opened cursor.position else .ok ()

/-- Reads the opening of a set: the bracket, possibly a caret, and either dashes or a
closing bracket, which stand for themselves here. -/
def openSet (cursor : Cursor) : Except ReadError (SetOpening × Union × Cursor) := do
  let opened := cursor.position
  let first := cursor.next
  checkOpen opened first
  let negated := first.rest.head? = some '^'
  let inner := if negated then first.next else first
  checkOpen opened inner
  let (union, plain) ← readDashes opened (.start inner.position) inner
  match union.items, plain.rest with
  | [], ']' :: _ =>
    let after := plain.next
    checkOpen opened after
    return (⟨⟨opened, after.position⟩, negated⟩,
      union.push (.literal ⟨⟨plain.position, plain.position + 1⟩, ']', false⟩), after)
  | _, _ => return (⟨⟨opened, plain.position⟩, negated⟩, union, plain)

/-- Reads a class by its name, between colons and brackets. -/
def readNamed? (cursor : Cursor) : Option (SetExpression × Cursor) :=
  match cursor.rest with
  | '[' :: ':' :: inner =>
    let (negated, name) := match inner with
      | '^' :: name => (true, name)
      | name => (false, name)
    let letters := name.takeWhile (· ≠ ':')
    match name.drop letters.length, ClassName.ofName? (String.ofList letters) with
    | ':' :: ']' :: _, some found =>
      let after := cursor.skip (letters.length + (if negated then 5 else 4))
      some (.named ⟨cursor.position, after.position⟩ found negated, after)
    | _, _ => none
  | _ => none

/-- Reads one character or class of a set. -/
def readMember (opening : SetOpening) (cursor : Cursor) : Except ReadError (Expression × Cursor) :=
  match cursor.rest with
  | [] => .error opening.unclosed
  | '\\' :: _ => readEscape cursor
  | char :: _ =>
    .ok (.literal ⟨⟨cursor.position, cursor.position + 1⟩, char, false⟩, cursor.skip 1)

/-- A part of a pattern as a part of a set. -/
def Expression.toMember : Expression → Except ReadError SetExpression
  | .literal written => .ok (.literal written)
  | .lettered extent name negated => .ok (.lettered extent name negated)
  | .property extent => .ok (.property extent)
  | other => refuse .setEscape other.extent.start other.extent.stop

/-- A part of a pattern as a bound of a range. -/
def Expression.toBound : Expression → Except ReadError Literal
  | .literal written => .ok written
  | other => refuse .setRangeBound other.extent.start other.extent.stop

/-- Reads a character, a class or a range of a set. A dash before a closing bracket or
another dash makes no range. -/
def readMembers (opening : SetOpening) (cursor : Cursor) :
    Except ReadError (SetExpression × Cursor) := do
  let (low, next) ← readMember opening cursor
  let dash := next.skipSpace
  match dash.rest with
  | [] => .error opening.unclosed
  | char :: _ =>
    if char ≠ '-' || dash.peek? = some ']' || dash.peek? = some '-' then
      return (← low.toMember, dash)
    else
      let (high, after) ← readMember opening dash.next
      let lowest ← low.toBound
      let highest ← high.toBound
      let extent : Extent := ⟨lowest.extent.start, highest.extent.stop⟩
      if highest.char < lowest.char then refuse .setRange extent.start extent.stop
      return (.range extent lowest highest, after)

/-- An operation and the set before it, if there is one, with the set after it. -/
def withPending (pending : Option (SetOperation × SetExpression)) (right : SetExpression) :
    SetExpression :=
  match pending with
  | some (kind, left) => .operation ⟨left.extent.start, right.extent.stop⟩ kind left right
  | none => right

/-- The operation on sets at the front of a text. -/
def operation? : List Char → Option SetOperation
  | '&' :: '&' :: _ => some .intersection
  | '-' :: '-' :: _ => some .difference
  | '~' :: '~' :: _ => some .symmetricDifference
  | _ => none

/-- Reads a set up to its closing bracket. Each step takes a character at least, so as
many steps as there are characters are enough. -/
def readItems : (steps : Nat) → SetOpening → Option (SetOperation × SetExpression) → Union →
    Cursor → Except ReadError (SetExpression × Cursor)
  | 0, opening, _, _, _ => .error opening.unclosed
  | steps + 1, opening, pending, union, between => do
    let cursor := between.skipSpace
    match cursor.rest with
    | [] => .error opening.unclosed
    | ']' :: _ =>
      let after := cursor.skip 1
      return (.bracket ⟨opening.extent.start, after.position⟩ opening.negated
        (withPending pending union.toSet), after)
    | '[' :: _ =>
      match readNamed? cursor with
      | some (item, after) => readItems steps opening pending (union.push item) after
      | none =>
        let (innerOpening, innerUnion, inner) ← openSet cursor
        let (item, after) ← readItems steps innerOpening none innerUnion inner
        readItems steps opening pending (union.push item) after
    | rest =>
      match operation? rest with
      | some kind =>
        let after := cursor.skip 2
        readItems steps opening (some (kind, withPending pending union.toSet))
          (.start after.position) after
      | none =>
        let (item, after) ← readMembers opening cursor
        readItems steps opening pending (union.push item) after

/-- Reads a set from its opening bracket on. -/
def readSet (cursor : Cursor) : Except ReadError (Expression × Cursor) := do
  let (opening, union, inner) ← openSet cursor
  let (members, after) ← readItems (inner.rest.length + 1) opening none union inner
  return (.set members, after)

end UnitLinker.Text.Pattern
