import UnitLinker.Text.Pattern.Footprint
import UnitLinker.Text.Pattern.Meaning
import UnitLinker.Text.Pattern.Reader

/-!
# Patterns from texts

A text is taken as a pattern if it can be read, has a meaning, and its automata are not
too large and ask for no table that is not there.
-/

namespace UnitLinker.Text.Pattern

/-- Why a text is not taken as a pattern. -/
inductive Refusal where
  | flawed (error : ReadError)
  | tooLarge
  | wideWords
  deriving DecidableEq, Repr

/-- The text of a refusal of a text. -/
def Refusal.render (refusal : Refusal) (text : String) : String :=
  match refusal with
  | .flawed error => error.render text
  | .tooLarge => s!"Compiled regex exceeds size limit of {sizeLimit} bytes."
  | .wideWords => "error building NFA"

/-- Checks the automata of a pattern, of which the one that reads from the front comes
first. -/
def check (pattern : Pattern) : Except Refusal Unit :=
  if pattern.isTooLarge .forward then .error .tooLarge
  else if pattern.needsWideWords then .error .wideWords
  else if pattern.isTooLarge .backward then .error .tooLarge
  else .ok ()

/-- The pattern that a text denotes. -/
def ofText (text : String) : Except Refusal Pattern := do
  let expression ← (Expression.read text).mapError .flawed
  let (pattern, _) ← (expression.pattern .standard).mapError .flawed
  pattern.check
  return pattern

end UnitLinker.Text.Pattern
