import UnitLinker.Text.Blank
import UnitLinker.Text.Pattern.Flaw

/-!
# Reading along a pattern

A cursor stands before a character of a pattern. Where blanks do not count, a move to
the next piece passes over blanks and over comments, which go from a number sign to
the end of the line.
-/

namespace UnitLinker.Text.Pattern

/-- What is left of a text, and how many characters are before it. -/
structure Cursor where
  rest : List Char
  position : Nat
  /-- Whether blanks and comments do not count. -/
  spaced : Bool
  deriving DecidableEq, Repr

/-- The number of blanks and characters of comments at the front, possibly inside of a
comment. -/
def spaceLength : (inComment : Bool) → List Char → Nat
  | _, [] => 0
  | true, char :: rest => 1 + spaceLength (char ≠ '\n') rest
  | false, char :: rest =>
    if isBlank char then 1 + spaceLength false rest
    else if char = '#' then 1 + spaceLength true rest
    else 0

/-- The first character that is no blank, and is not the first number sign. -/
def firstPiece? : (marked : Bool) → List Char → Option Char
  | _, [] => none
  | marked, char :: rest =>
    if isBlank char then firstPiece? marked rest
    else if !marked && char = '#' then firstPiece? true rest
    else some char

namespace Cursor

/-- The cursor at the front of a text. -/
def start (text : String) : Cursor := ⟨text.toList, 0, false⟩

/-- The cursor after some characters. -/
def skip (cursor : Cursor) (count : Nat) : Cursor :=
  ⟨cursor.rest.drop count, cursor.position + count, cursor.spaced⟩

/-- The cursor before the next piece, from a place between pieces. -/
def skipSpace (cursor : Cursor) : Cursor :=
  if cursor.spaced then cursor.skip (spaceLength false cursor.rest) else cursor

/-- The cursor before the piece after a character. -/
def next (cursor : Cursor) : Cursor := (cursor.skip 1).skipSpace

/-- The character after the one at the cursor, or after blanks. -/
def peek? (cursor : Cursor) : Option Char :=
  let after := cursor.rest.drop 1
  if cursor.spaced then firstPiece? false after <|> after.head? else after.head?

/-- The cursor after blanks of any kind. -/
def skipBlanks (cursor : Cursor) : Cursor := cursor.skip (cursor.rest.takeWhile isBlank).length

/-- Fails with a flaw at the character of a cursor. -/
def refuseChar {α : Type} (cursor : Cursor) (flaw : Flaw) : Except ReadError α :=
  refuse flaw cursor.position (cursor.position + 1)

/-- Fails with a flaw at the place of a cursor. -/
def refuseHere {α : Type} (cursor : Cursor) (flaw : Flaw) : Except ReadError α :=
  refuse flaw cursor.position cursor.position

theorem length_skip_le (cursor : Cursor) (count : Nat) :
    (cursor.skip count).rest.length ≤ cursor.rest.length - count := by
  simp [skip]

theorem length_skipSpace_le (cursor : Cursor) :
    cursor.skipSpace.rest.length ≤ cursor.rest.length := by
  unfold skipSpace
  split
  · exact Nat.le_trans (length_skip_le _ _) (Nat.sub_le _ _)
  · exact Nat.le_refl _

/-- The next piece is nearer to the end. -/
theorem length_next_lt {cursor : Cursor} {char : Char} {rest : List Char}
    (here : cursor.rest = char :: rest) : cursor.next.rest.length < cursor.rest.length := by
  have shorter := length_skip_le cursor 1
  have further := length_skipSpace_le (cursor.skip 1)
  have nonempty : cursor.rest.length = rest.length + 1 := by rw [here]; rfl
  simp only [next]
  omega

end Cursor

end UnitLinker.Text.Pattern
