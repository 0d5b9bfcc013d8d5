import UnitLinker.Text.CharSet

/-!
# Patterns

Regular expressions over characters with conditions on places. The places of a text
are before, between and after its characters. A pattern leads from places to places:
from where a match starts to where it ends. Sets of places are numbers with one bit
for each place, so a pattern is matched from all places at once.
-/

namespace UnitLinker.Text

/-- How a place may lie to a word. -/
inductive WordEdge where
  /-- A word starts or ends here. -/
  | boundary
  /-- No word starts or ends here. -/
  | interior
  | start
  | stop
  /-- No word character is before the place. -/
  | startHalf
  /-- No word character is after the place. -/
  | stopHalf
  deriving DecidableEq, Repr

/-- A condition on a place. -/
inductive Look where
  | textStart
  | textEnd
  /-- The start of a line, where also carriage returns end lines or not. -/
  | lineStart (returns : Bool)
  | lineEnd (returns : Bool)
  /-- An edge of a word, of the word characters of all codes or of the first 128. -/
  | word (edge : WordEdge) (wide : Bool)
  deriving DecidableEq, Repr

/-- Whether a character is part of a word. -/
def isWordChar (char : Char) : Bool := char.isAlphanum || char = '_'

/-- Whether an edge of a word is between two characters, of which each is a word
character or not. -/
def WordEdge.holds (before after : Bool) : WordEdge → Bool
  | .boundary => before != after
  | .interior => before == after
  | .start => !before && after
  | .stop => before && !after
  | .startHalf => !before
  | .stopHalf => !after

/-- Whether a condition holds between two characters. There is none before the first
place and after the last one. There is no table of the word characters of all codes,
so an edge of such words is nowhere. -/
def Look.holds (before after : Option Char) : Look → Bool
  | .textStart => before.isNone
  | .textEnd => after.isNone
  | .lineStart false => before.isNone || before = some '\n'
  | .lineStart true =>
    before.isNone || before = some '\n' || (before = some '\r' && after ≠ some '\n')
  | .lineEnd false => after.isNone || after = some '\n'
  | .lineEnd true =>
    after.isNone || after = some '\r' || (after = some '\n' && before ≠ some '\r')
  | .word edge false => edge.holds (before.any isWordChar) (after.any isWordChar)
  | .word _ true => false

/-- A regular expression. -/
inductive Pattern where
  /-- The empty text. -/
  | empty
  /-- The empty text where a condition holds. -/
  | look (look : Look)
  /-- One character of a set. -/
  | oneOf (set : CharSet)
  | seq (first second : Pattern)
  | alt (left right : Pattern)
  /-- A pattern several times in a row: at least `low` times, and at most `high` times
  if there is such a bound. -/
  | repeated (low : Nat) (high : Option Nat) (body : Pattern)
  /-- A pattern whose match has a number. -/
  | group (body : Pattern)
  deriving DecidableEq, Repr

/-- A set of places, with bit `n` for the place after `n` characters. -/
abbrev Places := Nat

namespace Places

/-- The set of the places for which a list has true. -/
def ofList : List Bool → Places
  | [] => 0
  | here :: rest => here.toNat + 2 * ofList rest

/-- All places of a text with so many characters. -/
def all (length : Nat) : Places := ofList (List.replicate (length + 1) true)

/-- The places before the characters of a set. -/
def before (set : CharSet) (text : List Char) : Places := ofList (text.map set.contains)

/-- The places where a condition holds, after a character or at the front. -/
def holding (look : Look) : Option Char → List Char → List Bool
  | before, [] => [look.holds before none]
  | before, char :: rest => look.holds before (some char) :: holding look (some char) rest

/-- The places to which a step leads in a row of so many steps. -/
def iterate (step : Places → Places) : Nat → Places → Places
  | 0, places => places
  | count + 1, places =>
    let next := step places
    if next = places then places else iterate step count next

/-- The places `seen`, and those to which at most so many steps lead from some of them. -/
def gather (step : Places → Places) : Nat → Places → Places → Places
  | 0, _, seen => seen
  | count + 1, latest, seen =>
    let reached := step latest ||| seen
    if reached = seen then seen else gather step count (reached ^^^ seen) reached

end Places

namespace Pattern

/-- The places where a match ends that starts in one of some places. A repetition of
more rounds than there are places leads no further than one with as many rounds as
places: in some round no character is left to be taken. -/
def ends (text : List Char) : Pattern → Places → Places
  | .empty, starts => starts
  | .look condition, starts => starts &&& .ofList (Places.holding condition none text)
  | .oneOf set, starts => (starts &&& .before set text) <<< 1
  | .seq first second, starts => second.ends text (first.ends text starts)
  | .alt left right, starts => left.ends text starts ||| right.ends text starts
  | .group body, starts => body.ends text starts
  | .repeated low high body, starts =>
    let rounds := text.length + 1
    let least := Places.iterate (body.ends text) (min low rounds) starts
    let more := match high with
      | some high => min (high - low) rounds
      | none => rounds
    Places.gather (body.ends text) more least least

/-- Whether a pattern matches some part of a text. -/
def occursIn (pattern : Pattern) (text : String) : Bool :=
  pattern.ends text.toList (.all text.length) ≠ 0

/-- No text at all. -/
def never : Pattern := .oneOf .empty

/-- One pattern after the other, without needless empty texts. -/
def andThen : Pattern → Pattern → Pattern
  | .empty, second => second
  | first, .empty => first
  | first, second => .seq first second

/-- One pattern after another. -/
def sequence (parts : List Pattern) : Pattern := parts.foldr andThen .empty

/-- The alternatives of a pattern. -/
def alternatives : Pattern → List Pattern
  | .alt left right => left.alternatives ++ right.alternatives
  | other => [other]

/-- The set of a pattern for one character. -/
def set? : Pattern → Option CharSet
  | .oneOf set => some set
  | _ => none

/-- A pattern with some alternatives. -/
def ofAlternatives (first : Pattern) : List Pattern → Pattern
  | [] => first
  | second :: rest => .alt first (ofAlternatives second rest)

/-- One of some patterns. If all of them are sets, so is the result. -/
def anyOf (parts : List Pattern) : Pattern :=
  match parts.flatMap alternatives with
  | [] => .never
  | first :: rest =>
    match (first :: rest).mapM set? with
    | some sets => .oneOf (sets.foldl .union .empty)
    | none => .ofAlternatives first rest

/-- Whether a pattern matches empty texts only. -/
def isWidthless : Pattern → Bool
  | .empty => true
  | .look _ => true
  | .oneOf _ => false
  | .seq first second => first.isWidthless && second.isWidthless
  | .alt left right => left.isWidthless && right.isWidthless
  | .repeated _ _ body => body.isWidthless
  | .group body => body.isWidthless

/-- A pattern without the groups around it. -/
def bare : Pattern → Pattern
  | .group body => body.bare
  | other => other

/-- Whether the bounds of a repetition are none or one, and one or none. -/
def isSimple (low : Nat) (high : Option Nat) : Bool := low ≤ 1 && (high = none || high = some 1)

/-- A pattern several times in a row. One time is the pattern itself, no time is the
empty text, and for a pattern of empty texts one time is as good as many. A simple
repetition of a simple repetition is a simple repetition. -/
def times (low : Nat) (high : Option Nat) (body : Pattern) : Pattern :=
  let (low, high) :=
    if body.isWidthless then (min low 1, some (min (high.getD 1) 1)) else (low, high)
  if low = 0 ∧ high = some 0 then .empty
  else if low = 1 ∧ high = some 1 then body
  else match body.bare with
    | .repeated innerLow innerHigh inner =>
      if isSimple low high && isSimple innerLow innerHigh then
        .repeated (low * innerLow) (if high = none || innerHigh = none then none else some 1) inner
      else .repeated low high body
    | _ => .repeated low high body

/-- Whether a pattern asks for an edge of the words of all codes. -/
def needsWideWords : Pattern → Bool
  | .empty => false
  | .look (.word _ wide) => wide
  | .look _ => false
  | .oneOf _ => false
  | .seq first second => first.needsWideWords || second.needsWideWords
  | .alt left right => left.needsWideWords || right.needsWideWords
  | .repeated _ _ body => body.needsWideWords
  | .group body => body.needsWideWords

end Pattern

end UnitLinker.Text
