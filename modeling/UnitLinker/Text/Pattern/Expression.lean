import UnitLinker.Text.Pattern
import UnitLinker.Text.Pattern.Flaw

/-!
# Written patterns

What is written in a pattern, part by part, each part with the characters it takes.
A written pattern has its meaning only together with the flags that are in force.
-/

namespace UnitLinker.Text.Pattern

/-- What can be turned on and off inside a pattern. -/
inductive Flag where
  | ignoreCase
  | multiLine
  | dotAll
  /-- Repetitions are short where they else are long. -/
  | swapGreed
  | unicode
  | returns
  /-- Blanks and comments do not count. -/
  | spaced
  deriving DecidableEq, Repr

/-- The letter of a flag. -/
def Flag.ofChar? : Char → Option Flag
  | 'i' => some .ignoreCase
  | 'm' => some .multiLine
  | 's' => some .dotAll
  | 'U' => some .swapGreed
  | 'u' => some .unicode
  | 'R' => some .returns
  | 'x' => some .spaced
  | _ => none

/-- Changes of flags, each on or off. -/
abbrev FlagChanges := List (Flag × Bool)

/-- A character that stands for itself. -/
structure Literal where
  extent : Extent
  char : Char
  /-- Whether the character is written with two hexadecimal digits, like a byte. -/
  asByte : Bool
  deriving DecidableEq, Repr

/-- A class of characters with a name. -/
inductive ClassName where
  | alnum | alpha | ascii | blank | cntrl | digit | graph | lower | print | punct | space | upper
  | word | xdigit
  deriving DecidableEq, Repr

namespace ClassName

/-- The class with a name. -/
def ofName? : String → Option ClassName
  | "alnum" => some .alnum
  | "alpha" => some .alpha
  | "ascii" => some .ascii
  | "blank" => some .blank
  | "cntrl" => some .cntrl
  | "digit" => some .digit
  | "graph" => some .graph
  | "lower" => some .lower
  | "print" => some .print
  | "punct" => some .punct
  | "space" => some .space
  | "upper" => some .upper
  | "word" => some .word
  | "xdigit" => some .xdigit
  | _ => none

/-- The characters of a class. -/
def chars : ClassName → CharSet
  | .alnum => .ofRanges [(0x30, 0x39), (0x41, 0x5A), (0x61, 0x7A)]
  | .alpha => .ofRanges [(0x41, 0x5A), (0x61, 0x7A)]
  | .ascii => .ofRanges [(0x0, 0x7F)]
  | .blank => .ofRanges [(0x9, 0x9), (0x20, 0x20)]
  | .cntrl => .ofRanges [(0x0, 0x1F), (0x7F, 0x7F)]
  | .digit => .ofRanges [(0x30, 0x39)]
  | .graph => .ofRanges [(0x21, 0x7E)]
  | .lower => .ofRanges [(0x61, 0x7A)]
  | .print => .ofRanges [(0x20, 0x7E)]
  | .punct => .ofRanges [(0x21, 0x2F), (0x3A, 0x40), (0x5B, 0x60), (0x7B, 0x7E)]
  | .space => .ofRanges [(0x9, 0xD), (0x20, 0x20)]
  | .upper => .ofRanges [(0x41, 0x5A)]
  | .word => .ofRanges [(0x30, 0x39), (0x41, 0x5A), (0x5F, 0x5F), (0x61, 0x7A)]
  | .xdigit => .ofRanges [(0x30, 0x39), (0x41, 0x46), (0x61, 0x66)]

end ClassName

/-- What joins two sets in brackets. -/
inductive SetOperation where
  | intersection
  | difference
  | symmetricDifference
  deriving DecidableEq, Repr

/-- A part of what is written in brackets. -/
inductive SetExpression where
  | nothing (extent : Extent)
  | literal (literal : Literal)
  | range (extent : Extent) (low high : Literal)
  /-- A class by its name. -/
  | named (extent : Extent) (name : ClassName) (negated : Bool)
  /-- A class by its letter after a backslash. -/
  | lettered (extent : Extent) (name : ClassName) (negated : Bool)
  | property (extent : Extent)
  | bracket (extent : Extent) (negated : Bool) (body : SetExpression)
  | union (extent : Extent) (items : List SetExpression)
  | operation (extent : Extent) (kind : SetOperation) (left right : SetExpression)
  deriving Repr

/-- The characters of a part of a set. -/
def SetExpression.extent : SetExpression → Extent
  | .nothing extent => extent
  | .literal written => written.extent
  | .range extent _ _ => extent
  | .named extent _ _ => extent
  | .lettered extent _ _ => extent
  | .property extent => extent
  | .bracket extent _ _ => extent
  | .union extent _ => extent
  | .operation extent _ _ _ => extent

/-- A mark that stands for a condition on a place. -/
inductive Mark where
  | lineStart
  | lineEnd
  | textStart
  | textEnd
  | word (edge : WordEdge)
  deriving DecidableEq, Repr

/-- What the start of a group says: it has a number, or flags of its own. -/
inductive GroupKind where
  | numbered
  | flagged (changes : FlagChanges)
  deriving DecidableEq, Repr

/-- A part of a written pattern. -/
inductive Expression where
  | empty (extent : Extent)
  | flags (extent : Extent) (changes : FlagChanges)
  | literal (literal : Literal)
  | dot (extent : Extent)
  | mark (extent : Extent) (mark : Mark)
  | lettered (extent : Extent) (name : ClassName) (negated : Bool)
  | property (extent : Extent)
  | set (set : SetExpression)
  | repetition (extent : Extent) (low : Nat) (high : Option Nat) (body : Expression)
  | group (extent : Extent) (kind : GroupKind) (body : Expression)
  | concat (extent : Extent) (items : List Expression)
  | alternation (extent : Extent) (items : List Expression)
  deriving Repr

/-- The characters of a part of a written pattern. -/
def Expression.extent : Expression → Extent
  | .empty extent => extent
  | .flags extent _ => extent
  | .literal written => written.extent
  | .dot extent => extent
  | .mark extent _ => extent
  | .lettered extent _ _ => extent
  | .property extent => extent
  | .set members => members.extent
  | .repetition extent _ _ _ => extent
  | .group extent _ _ => extent
  | .concat extent _ => extent
  | .alternation extent _ => extent

mutual

/-- The first part of a set that lies deeper than allowed. -/
def SetExpression.tooDeep? (allowed : Nat) : SetExpression → Option Extent
  | .bracket extent _ body =>
    match allowed with
    | 0 => some extent
    | allowed + 1 => body.tooDeep? allowed
  | .union extent items =>
    match allowed with
    | 0 => some extent
    | allowed + 1 => SetExpression.anyTooDeep? allowed items
  | .operation extent _ left right =>
    match allowed with
    | 0 => some extent
    | allowed + 1 => left.tooDeep? allowed <|> right.tooDeep? allowed
  | _ => none

/-- The first part of some sets that lies deeper than allowed. -/
def SetExpression.anyTooDeep? (allowed : Nat) : List SetExpression → Option Extent
  | [] => none
  | item :: rest => item.tooDeep? allowed <|> SetExpression.anyTooDeep? allowed rest

end

mutual

/-- The first part of a pattern that lies deeper than allowed. -/
def Expression.tooDeep? (allowed : Nat) : Expression → Option Extent
  | .set members => members.tooDeep? allowed
  | .repetition extent _ _ body =>
    match allowed with
    | 0 => some extent
    | allowed + 1 => body.tooDeep? allowed
  | .group extent _ body =>
    match allowed with
    | 0 => some extent
    | allowed + 1 => body.tooDeep? allowed
  | .concat extent items =>
    match allowed with
    | 0 => some extent
    | allowed + 1 => Expression.anyTooDeep? allowed items
  | .alternation extent items =>
    match allowed with
    | 0 => some extent
    | allowed + 1 => Expression.anyTooDeep? allowed items
  | _ => none

/-- The first part of some patterns that lies deeper than allowed. -/
def Expression.anyTooDeep? (allowed : Nat) : List Expression → Option Extent
  | [] => none
  | item :: rest => item.tooDeep? allowed <|> Expression.anyTooDeep? allowed rest

end

end UnitLinker.Text.Pattern
