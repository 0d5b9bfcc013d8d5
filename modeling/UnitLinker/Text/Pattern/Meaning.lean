import UnitLinker.Text.Pattern.Expression

/-!
# The meaning of written patterns

A written pattern denotes a pattern under the flags in force. Flags hold from where they
are set to the end of the group around them. There are no tables for the cases and the
classes of all characters: what needs them is refused, and is only had for the first 128
codes, where Unicode is turned off. There in turn nothing may match a part of a
character.
-/

namespace UnitLinker.Text.Pattern

/-- The flags in force. -/
structure Modes where
  ignoreCase : Bool
  multiLine : Bool
  dotAll : Bool
  unicode : Bool
  returns : Bool
  deriving DecidableEq, Repr

namespace Modes

/-- The flags at the start of a pattern. -/
def standard : Modes := ⟨false, false, false, true, false⟩

/-- The flags after a change. Which of several matches is found, and how a pattern is
written, does not change whether there is a match. -/
def change (modes : Modes) (flag : Flag) (on : Bool) : Modes :=
  match flag with
  | .ignoreCase => { modes with ignoreCase := on }
  | .multiLine => { modes with multiLine := on }
  | .dotAll => { modes with dotAll := on }
  | .unicode => { modes with unicode := on }
  | .returns => { modes with returns := on }
  | .swapGreed => modes
  | .spaced => modes

/-- The flags after some changes. -/
def apply (modes : Modes) (changes : FlagChanges) : Modes :=
  changes.foldl (fun modes change => modes.change change.1 change.2) modes

/-- The characters that a dot stands for. -/
def dotChars (modes : Modes) : CharSet :=
  if modes.dotAll then .all
  else if modes.returns then (CharSet.ofRanges [(0xA, 0xA), (0xD, 0xD)]).complement
  else (CharSet.single '\n').complement

/-- The condition that a mark stands for. -/
def look (modes : Modes) : Mark → Look
  | .lineStart => if modes.multiLine then .lineStart modes.returns else .textStart
  | .lineEnd => if modes.multiLine then .lineEnd modes.returns else .textEnd
  | .textStart => .textStart
  | .textEnd => .textEnd
  | .word edge => .word edge modes.unicode

end Modes

/-- Fails with a flaw at an extent. -/
def Extent.refuse {α : Type} (extent : Extent) (flaw : Flaw) : Except ReadError α :=
  Pattern.refuse flaw extent.start extent.stop

/-- A set with both cases of its letters, if cases are ignored. -/
def foldCases (modes : Modes) (extent : Extent) (set : CharSet) : Except ReadError CharSet :=
  if !modes.ignoreCase then .ok set
  else if !modes.unicode then .ok set.withCases
  else if set.isEmpty then .ok set
  else extent.refuse .caseUnavailable

/-- A set as it is, or all characters outside of it. -/
def negate (modes : Modes) (extent : Extent) (negated : Bool) (set : CharSet) :
    Except ReadError CharSet :=
  let result := if negated then set.complement else set
  if !modes.unicode && !result.isNarrow then extent.refuse .bytesRefused else .ok result

/-- A set with the cases and the negation that are asked for. -/
def adjust (modes : Modes) (extent : Extent) (negated : Bool) (set : CharSet) :
    Except ReadError CharSet := do
  negate modes extent negated (← foldCases modes extent set)

/-- The characters of a class that is given by a letter. -/
def letteredChars (modes : Modes) (extent : Extent) (name : ClassName) (negated : Bool) :
    Except ReadError CharSet :=
  if modes.unicode then extent.refuse .classUnavailable
  else negate modes extent negated name.chars

/-- The characters with a property: no property is known. -/
def propertyChars (modes : Modes) (extent : Extent) : Except ReadError CharSet :=
  extent.refuse (if modes.unicode then .propertyUnknown else .unicodeRefused)

/-- The character that a literal stands for. Without Unicode, a byte that is not a
character is refused. -/
def Literal.value (modes : Modes) (literal : Literal) : Except ReadError Char :=
  if !modes.unicode && literal.asByte && CharSet.lastNarrow < literal.char.toNat then
    literal.extent.refuse .bytesRefused
  else .ok literal.char

/-- The character that a literal in a set stands for. Without Unicode, it has one byte. -/
def Literal.memberValue (modes : Modes) (literal : Literal) : Except ReadError Char := do
  let char ← literal.value modes
  if !modes.unicode && CharSet.lastNarrow < char.toNat then literal.extent.refuse .unicodeRefused
  return char

/-- The set that an operation gives. -/
def SetOperation.apply : SetOperation → CharSet → CharSet → CharSet
  | .intersection => .inter
  | .difference => .diff
  | .symmetricDifference => .symmDiff

mutual

/-- The characters of a part of a set. -/
def SetExpression.chars (modes : Modes) : SetExpression → Except ReadError CharSet
  | .nothing _ => .ok .empty
  | .literal written => do return .single (← written.memberValue modes)
  | .range _ low high => do
    let lowest ← low.memberValue modes
    let highest ← high.memberValue modes
    return .ofRanges [(lowest.toNat, highest.toNat)]
  | .named extent name negated => adjust modes extent negated name.chars
  | .lettered extent name negated => letteredChars modes extent name negated
  | .property extent => propertyChars modes extent
  | .bracket extent negated body => do adjust modes extent negated (← body.chars modes)
  | .union _ items => SetExpression.unionChars modes items
  | .operation _ kind left right => do
    let leftChars ← left.chars modes
    let rightChars ← right.chars modes
    let rightFolded ← foldCases modes right.extent rightChars
    let leftFolded ← foldCases modes left.extent leftChars
    return kind.apply leftFolded rightFolded

/-- The characters of some parts of a set together. -/
def SetExpression.unionChars (modes : Modes) : List SetExpression → Except ReadError CharSet
  | [] => .ok .empty
  | item :: rest => do
    let chars ← item.chars modes
    return chars.union (← SetExpression.unionChars modes rest)

end

/-- The pattern of a character that stands for itself. -/
def Literal.pattern (modes : Modes) (literal : Literal) : Except ReadError Pattern := do
  let char ← literal.value modes
  return .oneOf (← foldCases modes literal.extent (.single char))

mutual

/-- The pattern that is written under some flags, and the flags after it. -/
def Expression.pattern (modes : Modes) : Expression → Except ReadError (Pattern × Modes)
  | .empty _ => .ok (.empty, modes)
  | .flags _ changes => .ok (.empty, modes.apply changes)
  | .literal written => do return (← written.pattern modes, modes)
  | .dot extent =>
    if modes.unicode then .ok (.oneOf modes.dotChars, modes) else extent.refuse .bytesRefused
  | .mark _ sign => .ok (.look (modes.look sign), modes)
  | .lettered extent name negated => do
    return (.oneOf (← letteredChars modes extent name negated), modes)
  | .property extent => do return (.oneOf (← propertyChars modes extent), modes)
  | .set members => do return (.oneOf (← members.chars modes), modes)
  | .repetition _ low high body => do
    let (part, after) ← body.pattern modes
    return (part.times low high, after)
  | .group _ .numbered body => do
    let (part, _) ← body.pattern modes
    return (.group part, modes)
  | .group _ (.flagged changes) body => do
    let (part, _) ← body.pattern (modes.apply changes)
    return (part, modes)
  | .concat _ items => do
    let (parts, after) ← Expression.patterns modes items
    return (.sequence parts, after)
  | .alternation _ items => do
    let (parts, after) ← Expression.patterns modes items
    return (.anyOf parts, after)

/-- The patterns of several parts. Flags that one of them sets hold for those after it. -/
def Expression.patterns (modes : Modes) : List Expression → Except ReadError (List Pattern × Modes)
  | [] => .ok ([], modes)
  | item :: rest => do
    let (part, between) ← item.pattern modes
    let (parts, after) ← Expression.patterns between rest
    return (part :: parts, after)

end

end UnitLinker.Text.Pattern
