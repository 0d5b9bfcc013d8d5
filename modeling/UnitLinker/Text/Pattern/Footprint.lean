import UnitLinker.Text.Pattern

/-!
# The size of patterns

A pattern is matched by an automaton on bytes, and how large that automaton is can be
said without building it. There is one for each direction of reading. States, the
branches of states on bytes, and the ways out of splitting states all count.
-/

namespace UnitLinker.Text.Pattern

/-- The bytes of a state. -/
def stateSize : Nat := 32

/-- The bytes of a branch of a state on a range of bytes. -/
def branchSize : Nat := 8

/-- The bytes of a way out of a splitting state. -/
def wayOutSize : Nat := 4

/-- The most bytes that an automaton may take. -/
def sizeLimit : Nat := 10485760

/-- The greatest codes of characters with one, two and three bytes. -/
def widthBounds : List Nat := [0x7F, 0x7FF, 0xFFFF]

/-- Where a range of codes has to be cut so that its characters have the same number of
bytes, and each byte goes through a range of its own: the last code before the cut. -/
def cut? (low high : Nat) : Option Nat :=
  match widthBounds.find? (fun bound => low ≤ bound && bound < high) with
  | some bound => some bound
  | none =>
    if high ≤ CharSet.lastNarrow then none
    else [6, 12, 18].findSome? fun bits =>
      let block := Nat.pow 2 bits
      if low / block = high / block then none
      else if low % block ≠ 0 then some (low / block * block + block - 1)
      else if high % block ≠ block - 1 then some (high / block * block - 1)
      else none

/-- A range of codes cut into pieces, by a bounded number of cuts in a row. Codes that
belong to no character are left out. -/
def pieces : (cuts : Nat) → Nat → Nat → List (Nat × Nat)
  | 0, low, high => [(low, high)]
  | cuts + 1, low, high =>
    if high < low then []
    else if low < 0xE000 ∧ 0xD7FF < high then pieces cuts low 0xD7FF ++ pieces cuts 0xE000 high
    else match cut? low high with
      | some last => pieces cuts low last ++ pieces cuts (last + 1) high
      | none => [(low, high)]

/-- The bytes of a character. -/
def bytesOf (code : Nat) : List Nat :=
  (String.singleton (Char.ofNat code)).toUTF8.toList.map UInt8.toNat

/-- A range of values for one byte. -/
abbrev ByteRange := Nat × Nat

/-- The ranges of bytes for the characters of a set, one sequence for each piece. -/
def sequences (set : CharSet) : List (List ByteRange) :=
  (set.ranges.flatMap fun range => pieces 40 range.1 range.2).map fun piece =>
    (bytesOf piece.1).zip (bytesOf piece.2)

/-- What may follow after each first range of some sequences. -/
def successors : List (List ByteRange) → List (ByteRange × List (List ByteRange))
  | [] => []
  | [] :: rest => successors rest
  | (first :: later) :: rest =>
    match successors rest with
    | (range, followers) :: others =>
      if range = first then (range, later :: followers) :: others
      else (first, [later]) :: (range, followers) :: others
    | [] => [(first, [later])]

/-- The states from which some sequences can be read, as what can be read from them. A
character has four bytes at most. -/
def readStates : (bytes : Nat) → List (List ByteRange) → List (List (List ByteRange))
  | 0, _ => []
  | bytes + 1, choices =>
    if choices = [[]] then []
    else choices :: (successors choices).flatMap fun (_, followers) => readStates bytes followers

/-- The size of a set of characters with one byte: a state with a branch for each range,
and the state after it. -/
def narrowSetSize (set : CharSet) : Nat := 2 * stateSize + branchSize * set.ranges.length

/-- The size of a set where bytes are read from the front: equal states are shared. -/
def forwardSetSize (set : CharSet) : Nat :=
  let states := (readStates 4 (sequences set)).eraseDups
  states.foldr (fun state size => stateSize + branchSize * (successors state).length + size) stateSize

/-- The size of a set where bytes are read from the back: a state for each start of a
sequence, and a splitting state before all of them. -/
def backwardSetSize (set : CharSet) : Nat :=
  let ranges := sequences set
  let starts := (ranges.flatMap fun sequence =>
    (List.range sequence.length).map fun index => sequence.take (index + 1)).eraseDups
  stateSize * (starts.length + 2) + wayOutSize * ranges.length

/-- What differs between the automata for the two directions. -/
structure Direction where
  wideSetSize : CharSet → Nat
  /-- The states that note where a numbered group starts and ends. -/
  groupStates : Nat

/-- Reading from the front. -/
def Direction.forward : Direction := ⟨forwardSetSize, 2⟩

/-- Reading from the back, where groups are not noted. -/
def Direction.backward : Direction := ⟨backwardSetSize, 0⟩

/-- The size of a set of characters. A single character takes a state for each byte. -/
def setSize (direction : Direction) (set : CharSet) : Nat :=
  match set.single? with
  | some code => stateSize * (bytesOf code).length
  | none => if set.isNarrow then narrowSetSize set else direction.wideSetSize set

/-- Whether a pattern takes a character at least. -/
def consumes : Pattern → Bool
  | .empty => false
  | .look _ => false
  | .oneOf set => !set.isEmpty
  | .seq first second => first.consumes || second.consumes
  | .alt left right => left.consumes && right.consumes
  | .repeated low _ body => low ≠ 0 && body.consumes
  | .group body => body.consumes

/-- The size of a repetition of a pattern with some size. -/
def repeatedSize (low : Nat) (high : Option Nat) (consumes : Bool) (size : Nat) : Nat :=
  let split := stateSize + 2 * wayOutSize
  match low, high with
  | 0, some 1 => split + size + stateSize
  | 0, none => if consumes then split + size else 2 * split + size + stateSize
  | low, none => low * size + split
  | low, some high =>
    if low = high then low * size
    else (if low = 0 then stateSize else low * size) + stateSize + (high - low) * (split + size)

/-- The size of a pattern. Alternatives share a splitting state and a last state. -/
def size (direction : Direction) : Pattern → Nat
  | .empty => stateSize
  | .look _ => stateSize
  | .oneOf set => setSize direction set
  | .seq first second => first.size direction + second.size direction
  | .alt left right =>
    left.size direction + right.size direction + wayOutSize
      + (match right with
        | .alt _ _ => 0
        | _ => 2 * stateSize + wayOutSize)
  | .repeated low high body => repeatedSize low high body.consumes (body.size direction)
  | .group body => direction.groupStates * stateSize + body.size direction

/-- The size of the part of an automaton that passes over the text before a match. -/
def leadSize : Nat := 3 * stateSize + branchSize + 2 * wayOutSize

/-- Whether the automaton for a direction is too large: a pattern with what is before the
match, the whole match as a group, and the last state. -/
def isTooLarge (direction : Direction) (pattern : Pattern) : Bool :=
  sizeLimit < leadSize + (Pattern.group pattern).size direction + stateSize

end UnitLinker.Text.Pattern
