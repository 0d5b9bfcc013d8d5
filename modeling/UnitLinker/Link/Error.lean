import UnitLinker.ObjectUnit.Error

/-!
# Link errors

Every reason for which units cannot be linked, with its text and the message
that a user sees.
-/

namespace UnitLinker

/-- What a name refers to. -/
inductive SymbolKind where
  | routine
  | var
  deriving DecidableEq, Repr

/-- The name of a kind of symbol. -/
def SymbolKind.text : SymbolKind → String
  | .routine => "function"
  | .var => "variable"

/-- A bounded resource that units take blocks of. -/
inductive SpaceKind where
  /-- The global variable table. -/
  | globals
  /-- The instruction stream. -/
  | code
  deriving DecidableEq, Repr

/-- What the limit of a space counts. -/
def SpaceKind.text : SpaceKind → String
  | .globals => "global variable"
  | .code => "instruction"

/-- Why units cannot be linked. -/
inductive LinkError where
  /-- A unit could not be built. -/
  | declaration (error : DeclarationError)
  | duplicateUnit (name : String) (span : Option Span)
  | unexpectedProgram (name program : String) (span : Option Span)
  | notAProgram (name : String)
  | unresolvedUnit (unit usedBy : String) (span : Option Span)
  /-- Names in the order in which the uses were followed, the first one repeated
  at the end, and the position of the last use. -/
  | cyclicDependency (cycle : List String) (span : Option Span)
  | unresolvedSymbol (unit symbol : String) (kind : SymbolKind)
  | unitNotUsed (unit usedUnit symbol : String)
  | duplicateExport (unit symbol : String) (kind : SymbolKind) (exporters : List String)
  | undefinedLabel (unit label : String)
  | invalidOffset (unit : String) (stream : Section) (offset : UInt64) (length : Nat)
  | invalidEntry (unit routine : String) (entry : UInt64) (length : Nat) (span : Option Span)
  | slotOutOfRange (unit : String) (slot : UInt64) (count : Nat)
  | spaceOverflow (unit : String) (space : SpaceKind) (used : UInt64) (requested : Nat)
      (limit : UInt64)
  deriving DecidableEq, Repr

namespace LinkError

/-- The text of an error. -/
def text : LinkError → String
  | .declaration error => error.text
  | .duplicateUnit name _ => s!"unit `{name}` was supplied more than once"
  | .unexpectedProgram name program _ =>
    s!"`{name}` is a program and can't be linked into program `{program}`"
  | .notAProgram name => s!"`{name}` is a unit, not a program"
  | .unresolvedUnit unit usedBy _ => s!"unit `{unit}` used by `{usedBy}` was not found"
  | .cyclicDependency cycle _ => "circular unit reference: " ++ Text.joined " -> " cycle
  | .unresolvedSymbol unit symbol kind =>
    s!"{kind.text} `{symbol}` referenced from `{unit}` was not found"
  | .unitNotUsed unit usedUnit symbol =>
    s!"`{unit}` refers to `{usedUnit}.{symbol}` but doesn't use `{usedUnit}`"
  | .duplicateExport unit symbol kind exporters =>
    s!"{kind.text} `{symbol}` referenced from `{unit}` is ambiguous, it's exported by "
      ++ Text.joined " and " exporters
  | .undefinedLabel unit label => s!"label `{label}` used in `{unit}` is not defined"
  | .invalidOffset unit stream offset length =>
    s!"jump offset {offset} in the {stream.text} of `{unit}` is past the end of the section "
      ++ s!"({length} instructions)"
  | .invalidEntry unit routine entry length _ =>
    s!"entry offset {entry} of function `{routine}` in `{unit}` is past the end of the body "
      ++ s!"({length} instructions)"
  | .slotOutOfRange unit slot count =>
    s!"variable slot {slot} referenced in `{unit}` is out of range ({count} variables)"
  | .spaceOverflow unit space used requested limit =>
    s!"{space.text} limit of {limit} exceeded while linking `{unit}` "
      ++ s!"({used} in use, {requested} requested)"

/-- The message for an error: a label where the source position is known, and a
note where there is advice to give. -/
def message (error : LinkError) : Diagnostic.Message :=
  let plain := Diagnostic.Message.ofTitle error.text
  match error with
  | .declaration inner => inner.message
  | .unresolvedUnit _ _ (some span) => plain.withLabel (some "unit used here") span
  | .unresolvedUnit unit _ none =>
    plain.withNote s!"`{unit}` must be one of the units passed to the linker"
  | .cyclicDependency _ span => plain.labelledAt "unit used here" span
  | .duplicateUnit _ span => plain.labelledAt "unit declared here" span
  | .unexpectedProgram _ _ span => plain.labelledAt "program declared here" span
  | .invalidEntry _ _ _ _ span => plain.labelledAt "function declared here" span
  | .duplicateExport _ symbol _ exporters =>
    plain.withNote ("qualify the reference with the unit name" ++ match exporters with
      | exporter :: _ => s!", e.g. `{exporter}.{symbol}`"
      | [] => "")
  | .unitNotUsed _ usedUnit _ => plain.withNote s!"add `{usedUnit}` to the uses clause"
  | .spaceOverflow _ _ _ _ _ =>
    plain.withNote "the limit can be raised with the linker options"
  | .notAProgram _ | .unresolvedSymbol _ _ _ | .undefinedLabel _ _ | .invalidOffset _ _ _ _
  | .slotOutOfRange _ _ _ => plain

end LinkError

end UnitLinker
