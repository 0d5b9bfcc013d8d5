import UnitLinker.Source.Span

/-!
# Diagnostic messages

What a user is told about a failure: a title, notes below it, and possibly one
labelled stretch of a source file.
-/

namespace UnitLinker.Diagnostic

/-- A stretch of source with a remark on it. -/
structure Label where
  text : Option String
  span : Span
  deriving DecidableEq, Repr

/-- A title with notes and at most one label. -/
structure Message where
  title : String
  notes : List String := []
  label : Option Label := none
  deriving DecidableEq, Repr

namespace Message

/-- A message that is only a title. -/
def ofTitle (title : String) : Message := ⟨title, [], none⟩

/-- The message with one more note. -/
def withNote (message : Message) (note : String) : Message :=
  ⟨message.title, message.notes ++ [note], message.label⟩

/-- The message with this label in place of any other. -/
def withLabel (message : Message) (text : Option String) (span : Span) : Message :=
  ⟨message.title, message.notes, some ⟨text, span⟩⟩

/-- The message with a label if there is a span to put it on. -/
def labelledAt (message : Message) (text : String) : Option Span → Message
  | some span => message.withLabel (some text) span
  | none => message

end Message

end UnitLinker.Diagnostic
