import Mathlib
import UnitLinker.Instruction.Listing

/-!
# Nesting of frames

Instruction lists are indented by a depth that goes up when a frame is opened and down when
one is closed, but never below zero. It is the largest number of frames that are opened and
not closed, counted from any place on. In code whose frames are nested it is the
number of frames that are open around an instruction.
-/

namespace UnitLinker.Instruction

/-- Opens a frame. -/
def isEnter : Instruction → Bool
  | .enter _ _ => true
  | _ => false

/-- Closes a frame. -/
def isLeave : Instruction → Bool
  | .leave => true
  | _ => false

/-- How many more frames are opened than closed. -/
def balance (code : List Instruction) : Int := code.countP isEnter - code.countP isLeave

/-- One for an instruction that closes a frame, which is shown at the depth after it. -/
def leavesAt (code : List Instruction) (place : Nat) : Nat :=
  if code[place]? = some .leave then 1 else 0

/-- The largest balance of the instructions from any place up to an instruction, itself
included if it closes a frame, and at least zero. -/
def nesting (code : List Instruction) (place : Nat) : Nat :=
  (Finset.range (place + 1)).sup fun start =>
    (balance ((code.take place).drop start) - leavesAt code place).toNat

variable {code : List Instruction} {instruction : Instruction} {place : Nat}

/-- Balances of parts add up. -/
theorem balance_append (front back : List Instruction) :
    balance (front ++ back) = balance front + balance back := by
  simp only [balance, List.countP_append]
  omega

/-- The depth after an instruction is the one before it with the change that the instruction
makes, cut off at zero. -/
theorem depthAfter_eq (depth : Nat) (instruction : Instruction) :
    (instruction.depthAfter depth : Int) = max 0 (depth + balance [instruction]) := by
  cases instruction <;> simp [depthAfter, balance, isEnter, isLeave] <;> omega

/-- The depth is at least every balance up to the end, and one of them is the depth. -/
theorem depth_isGreatest (code : List Instruction) :
    IsGreatest {total : Int | ∃ part, part <:+ code ∧ total = balance part}
      (code.foldl depthAfter 0 : Nat) := by
  -- The depth is that of the last instruction, so code is taken apart from the right.
  induction code using List.reverseRecOn with
  | nil =>
    refine ⟨⟨[], List.suffix_rfl, rfl⟩, ?_⟩
    rintro _ ⟨part, isPart, rfl⟩
    rw [List.suffix_nil.1 isPart]
    exact le_rfl
  | append_singleton front instruction ih =>
    rcases ih with ⟨⟨part, isPart, depthEq⟩, greatest⟩
    rw [List.foldl_append, List.foldl_cons, List.foldl_nil, depthAfter_eq]
    constructor
    · rcases le_total 0 (balance part + balance [instruction]) with positive | negative
      · refine ⟨part ++ [instruction], List.suffix_concat_iff.2 (.inr ⟨part, rfl, isPart⟩), ?_⟩
        rw [depthEq, balance_append, max_eq_right positive]
      · refine ⟨[], List.nil_suffix, ?_⟩
        rw [depthEq, max_eq_left negative]
        rfl
    · rintro _ ⟨other, isOther, rfl⟩
      rcases List.suffix_concat_iff.1 isOther with rfl | ⟨rest, rfl, isRest⟩
      · exact le_max_left _ _
      · have noMore := greatest ⟨rest, isRest, rfl⟩
        rw [balance_append]
        exact le_max_of_le_right (by omega)

/-- An instruction is shown at the depth before it, one less if it closes a frame. -/
theorem shownDepth_eq (found : code[place]? = some instruction) (depth : Nat) :
    instruction.shownDepth depth = depth - leavesAt code place := by
  unfold leavesAt
  rw [found]
  cases instruction <;> rfl

/-- An instruction is shown at the depth of its nesting. -/
theorem shownDepth_eq_nesting (found : code[place]? = some instruction) :
    instruction.shownDepth ((code.take place).foldl depthAfter 0) = nesting code place := by
  rcases depth_isGreatest (code.take place) with ⟨⟨part, isPart, depthEq⟩, greatest⟩
  rw [shownDepth_eq found]
  apply le_antisymm
  · have startLe : (code.take place).length - part.length ≤ place :=
      (Nat.sub_le _ _).trans (List.length_take_le _ _)
    have attained := Finset.le_sup (f := fun start =>
      (balance ((code.take place).drop start) - leavesAt code place).toNat)
      (Finset.mem_range.2 (Nat.lt_succ_of_le startLe))
    refine le_trans ?_ attained
    rw [← List.suffix_iff_eq_drop.1 isPart, ← depthEq]
    omega
  · apply Finset.sup_le
    intro start _
    have noMore := greatest ⟨_, List.drop_suffix start (code.take place), rfl⟩
    omega

/-- Closing a frame that was not opened takes nothing from the depth that follows. -/
example : nesting [.leave, .enter 1 0, .nop] 2 = 1 := by decide

/-- The depth of an instruction is counted from the instructions before it. -/
theorem getElem?_withDepths (depth : Nat) (code : List Instruction) (place : Nat) :
    (withDepths depth code)[place]? = (code[place]?).map fun instruction =>
      (instruction.shownDepth ((code.take place).foldl depthAfter depth), instruction) := by
  induction code generalizing depth place with
  | nil => rfl
  | cons first rest ih =>
    cases place with
    | zero => rfl
    | succ place => exact ih (first.depthAfter depth) place

/-! ## Nested frames -/

/-- Frames are nested: none is closed that was not opened, and all are closed in the end. -/
structure IsNested (code : List Instruction) : Prop where
  neverNegative : ∀ count, 0 ≤ balance (code.take count)
  closed : balance code = 0

theorem isNested_iff : IsNested code
    ↔ (∀ count ≤ code.length, 0 ≤ balance (code.take count)) ∧ balance code = 0 := by
  constructor
  · rintro ⟨neverNegative, closed⟩
    exact ⟨fun count _ => neverNegative count, closed⟩
  · rintro ⟨neverNegative, closed⟩
    refine ⟨fun count => ?_, closed⟩
    rcases Nat.le_total count code.length with inside | outside
    · exact neverNegative count inside
    · rw [List.take_of_length_le outside, closed]

instance : Decidable (IsNested code) := decidable_of_iff' _ isNested_iff

/-- A frame that is opened at one place is closed at another: what is between them is nested. -/
structure Matches (code : List Instruction) (opening closing : Nat) : Prop where
  opens : ∃ depth locals, code[opening]? = some (.enter depth locals)
  closes : code[closing]? = some .leave
  ordered : opening < closing
  inside : IsNested ((code.take closing).drop (opening + 1))

/-- The number of open frames after some instructions. -/
def height (code : List Instruction) (count : Nat) : Int := balance (code.take count)

/-- An instruction changes the height by its own balance. -/
theorem height_succ (found : code[place]? = some instruction) :
    height code (place + 1) = height code place + balance [instruction] := by
  rw [height, List.take_add_one, found, Option.toList_some, balance_append, height]

/-- One instruction opens a frame, closes a frame or leaves the height as it is. -/
theorem height_cases (code : List Instruction) (place : Nat) :
    (∃ depth locals, code[place]? = some (.enter depth locals))
        ∧ height code (place + 1) = height code place + 1
      ∨ code[place]? = some .leave ∧ height code (place + 1) = height code place - 1
      ∨ code[place]? ≠ some .leave ∧ height code (place + 1) = height code place := by
  cases found : code[place]? with
  | none =>
    refine .inr (.inr ⟨by simp, ?_⟩)
    rw [height, height, List.take_add_one, found, Option.toList_none, List.append_nil]
  | some instruction =>
    have stepped := height_succ found
    cases instruction with
    | enter depth locals => exact .inl ⟨⟨depth, locals, rfl⟩, stepped⟩
    | leave => exact .inr (.inl ⟨rfl, stepped⟩)
    | _ => exact .inr (.inr ⟨by simp, stepped.trans (add_zero _)⟩)

/-- The balance between two places is the difference of their heights. -/
theorem balance_slice {start stop : Nat} (ordered : start ≤ stop) :
    balance ((code.take stop).drop start) = height code stop - height code start := by
  have parts := balance_append ((code.take stop).take start) ((code.take stop).drop start)
  rw [List.take_append_drop, List.take_take, Nat.min_eq_left ordered] at parts
  rw [height, height, parts]
  omega

/-- A part of the code is nested if the height never goes below where it starts, and ends
there. -/
theorem isNested_slice_iff {start stop : Nat} (ordered : start ≤ stop) :
    IsNested ((code.take stop).drop start)
      ↔ (∀ place, start ≤ place → place ≤ stop → height code start ≤ height code place)
        ∧ height code stop = height code start := by
  have partEq : ∀ count, balance (((code.take stop).drop start).take count)
      = height code (min (start + count) stop) - height code start := by
    intro count
    rw [List.take_drop, List.take_take]
    exact balance_slice (le_min (Nat.le_add_right _ _) ordered)
  constructor
  · rintro ⟨neverNegative, closed⟩
    rw [balance_slice ordered] at closed
    refine ⟨fun place least most => ?_, by omega⟩
    have atPlace := neverNegative (place - start)
    rw [partEq, Nat.add_sub_of_le least, Nat.min_eq_left most] at atPlace
    omega
  · rintro ⟨least, closed⟩
    constructor
    · intro count
      rw [partEq]
      have atCount := least (min (start + count) stop) (le_min (Nat.le_add_right _ _) ordered)
        (Nat.min_le_right _ _)
      omega
    · rw [balance_slice ordered]
      omega

/-! ## Open frames -/

section Frames

variable {opening closing : Nat}

/-- Opening a frame adds one to the height. -/
theorem Matches.height_opening (isFrame : Matches code opening closing) :
    height code (opening + 1) = height code opening + 1 := by
  rcases isFrame.opens with ⟨depth, locals, found⟩
  exact height_succ found

/-- Inside a frame the height does not fall, and at its end it is as at its start. -/
theorem Matches.height_inside (isFrame : Matches code opening closing) :
    (∀ place, opening + 1 ≤ place → place ≤ closing →
        height code (opening + 1) ≤ height code place)
      ∧ height code closing = height code (opening + 1) :=
  (isNested_slice_iff isFrame.ordered).1 isFrame.inside

/-- Closing a frame gives the height from before it was opened. -/
theorem Matches.height_closing (isFrame : Matches code opening closing) :
    height code closing = height code opening + 1
      ∧ height code (closing + 1) = height code opening := by
  have atClosing := isFrame.height_inside.2
  have opened := isFrame.height_opening
  have closed : height code (closing + 1) = height code closing - 1 :=
    height_succ isFrame.closes
  omega

/-- Inside a frame the code is higher than outside. -/
theorem Matches.height_lt (isFrame : Matches code opening closing) (after : opening < place)
    (before : place ≤ closing) : height code opening < height code place := by
  have atLeast := isFrame.height_inside.1 place after before
  have opened := isFrame.height_opening
  omega

/-- Frames around one place that are opened at one height are the same. -/
theorem Matches.unique {otherOpening otherClosing : Nat} (isFrame : Matches code opening closing)
    (isOther : Matches code otherOpening otherClosing) (after : opening < place)
    (before : place < closing) (otherAfter : otherOpening < place)
    (otherBefore : place < otherClosing) (sameHeight : height code opening = height code otherOpening) :
    opening = otherOpening ∧ closing = otherClosing := by
  have sameOpening : opening = otherOpening := by
    rcases lt_trichotomy opening otherOpening with earlier | same | later
    · have higher := isFrame.height_lt earlier (by omega)
      omega
    · exact same
    · have higher := isOther.height_lt later (by omega)
      omega
  refine ⟨sameOpening, ?_⟩
  have closed := isFrame.height_closing.2
  have otherClosed := isOther.height_closing.2
  rcases lt_trichotomy closing otherClosing with earlier | same | later
  · have higher := isOther.height_lt (show otherOpening < closing + 1 by omega) (by omega)
    omega
  · exact same
  · have higher := isFrame.height_lt (show opening < otherClosing + 1 by omega) (by omega)
    omega

end Frames

/-- Before a place that is above a level, the code was last at that level where a frame was
opened. -/
theorem exists_opening {level : Int} (nonneg : 0 ≤ level) (above : level < height code place) :
    ∃ opening < place, (∃ depth locals, code[opening]? = some (.enter depth locals))
      ∧ height code opening = level
      ∧ ∀ between, opening < between → between ≤ place → level < height code between := by
  induction place with
  | zero =>
    have atStart : height code 0 = 0 := rfl
    omega
  | succ place ih =>
    by_cases wasAbove : level < height code place
    · rcases ih wasAbove with ⟨opening, earlier, opens, levelEq, stays⟩
      refine ⟨opening, by omega, opens, levelEq, fun between after before => ?_⟩
      rcases Nat.lt_or_ge place between with last | inside
      · have isLast : between = place + 1 := by omega
        rwa [isLast]
      · exact stays between after inside
    · rcases height_cases code place with ⟨opens, up⟩ | ⟨_, down⟩ | ⟨_, level⟩
      · refine ⟨place, by omega, opens, by omega, fun between after before => ?_⟩
        have isLast : between = place + 1 := by omega
        rwa [isLast]
      · omega
      · omega

/-- After a place that is above a level, the code is first at that level where a frame was
closed. -/
theorem exists_closing {level : Int} {gap : Nat} (above : level < height code place)
    (reached : height code (place + gap) ≤ level) :
    ∃ closing, place ≤ closing ∧ code[closing]? = some .leave
      ∧ height code closing = level + 1
      ∧ ∀ between, place ≤ between → between ≤ closing → level < height code between := by
  induction gap generalizing place with
  | zero => exact absurd above (not_lt.2 reached)
  | succ gap ih =>
    by_cases staysAbove : level < height code (place + 1)
    · have reachedLater : height code (place + 1 + gap) ≤ level := by
        rwa [Nat.add_assoc, Nat.add_comm 1]
      rcases ih staysAbove reachedLater with ⟨closing, later, closes, heightEq, stays⟩
      refine ⟨closing, by omega, closes, heightEq, fun between after before => ?_⟩
      rcases Nat.eq_or_lt_of_le after with same | inside
      · rwa [← same]
      · exact stays between inside before
    · rcases height_cases code place with ⟨_, up⟩ | ⟨closes, down⟩ | ⟨_, level⟩
      · omega
      · refine ⟨place, le_rfl, closes, by omega, fun between after before => ?_⟩
        rwa [Nat.le_antisymm before after]
      · omega

theorem IsNested.height_nonneg (nested : IsNested code) (count : Nat) :
    0 ≤ height code count := nested.neverNegative count

/-- In nested code there is a frame to close. -/
theorem IsNested.leavesAt_le (nested : IsNested code) (place : Nat) :
    (leavesAt code place : Int) ≤ height code place := by
  have now := nested.height_nonneg place
  have next := nested.height_nonneg (place + 1)
  unfold leavesAt
  split
  · rename_i closes
    have down : height code (place + 1) = height code place - 1 := height_succ closes
    omega
  · exact now

/-- In nested code the depth of an instruction is the height before it, or one less where a
frame is closed. -/
theorem IsNested.nesting_eq (nested : IsNested code) (place : Nat) :
    (nesting code place : Int) = height code place - leavesAt code place := by
  have nonneg := nested.leavesAt_le place
  have depthEq : nesting code place = (height code place - leavesAt code place).toNat := by
    apply le_antisymm
    · apply Finset.sup_le
      intro start inRange
      have startLe : start ≤ place := Nat.lt_succ_iff.1 (Finset.mem_range.1 inRange)
      have below := nested.height_nonneg start
      rw [balance_slice startLe]
      omega
    · exact Finset.le_sup (f := fun start =>
        (balance ((code.take place).drop start) - leavesAt code place).toNat)
        (Finset.mem_range.2 (Nat.succ_pos place))
  rw [depthEq]
  omega

/-- The frames that are open around an instruction, by the places where they are opened and
closed. -/
def framesAround (code : List Instruction) (place : Nat) : Set (Nat × Nat) :=
  {frame | Matches code frame.1 frame.2 ∧ frame.1 < place ∧ place < frame.2}

/-- A frame around an instruction is opened below the depth of the instruction. -/
theorem Matches.height_lt_nesting {opening closing : Nat} (nested : IsNested code)
    (isFrame : Matches code opening closing) (after : opening < place) (before : place < closing) :
    height code opening < nesting code place := by
  have now := isFrame.height_lt after (Nat.le_of_lt before)
  have next := isFrame.height_lt (Nat.lt_succ_of_lt after) before
  rw [nested.nesting_eq]
  unfold leavesAt
  split
  · rename_i closes
    have down : height code (place + 1) = height code place - 1 := height_succ closes
    change height code opening < height code (place + 1) at next
    omega
  · simpa using now

/-- Below the depth of an instruction, a frame around it is opened at every height. -/
theorem IsNested.exists_frame (nested : IsNested code) (inside : place < code.length)
    {level : Nat} (below : level < nesting code place) :
    ∃ opening closing, Matches code opening closing ∧ opening < place ∧ place < closing
      ∧ height code opening = level := by
  have depthEq := nested.nesting_eq place
  have next : (level : Int) < height code (place + 1) := by
    rcases height_cases code place with ⟨_, up⟩ | ⟨closes, down⟩ | ⟨_, same⟩
    · omega
    · rw [leavesAt, if_pos closes] at depthEq
      omega
    · omega
  have atEnd : height code (place + 1 + (code.length - (place + 1))) ≤ level := by
    rw [Nat.add_sub_of_le inside, height, List.take_length, nested.closed]
    exact Int.natCast_nonneg level
  rcases exists_opening (Int.natCast_nonneg level) (show (level : Int) < height code place by omega)
    with ⟨opening, earlier, opens, openingEq, aboveBefore⟩
  rcases exists_closing next atEnd with ⟨closing, later, closes, closingEq, aboveAfter⟩
  have first : height code (opening + 1) = level + 1 := by
    rcases opens with ⟨depth, locals, found⟩
    rw [height_succ found, openingEq]
    rfl
  refine ⟨opening, closing, ⟨opens, closes, by omega, ?_⟩, earlier, later, openingEq⟩
  rw [isNested_slice_iff (by omega)]
  refine ⟨fun between least most => ?_, by omega⟩
  rcases Nat.lt_or_ge place between with after | before
  · have above := aboveAfter between after most
    omega
  · have above := aboveBefore between least before
    omega

/-- In nested code the depth of an instruction is the number of frames around it. -/
theorem IsNested.encard_framesAround (nested : IsNested code) (inside : place < code.length) :
    (framesAround code place).encard = nesting code place := by
  have injective : Set.InjOn (fun frame : Nat × Nat => (height code frame.1).toNat)
      (framesAround code place) := by
    rintro ⟨opening, closing⟩ ⟨isFrame, after, before⟩ ⟨otherOpening, otherClosing⟩
      ⟨isOther, otherAfter, otherBefore⟩ same
    have sameHeight : height code opening = height code otherOpening := by
      have nonneg := nested.height_nonneg opening
      have otherNonneg := nested.height_nonneg otherOpening
      simp only at same
      omega
    rcases isFrame.unique isOther after before otherAfter otherBefore sameHeight with ⟨rfl, rfl⟩
    rfl
  have levels : (fun frame : Nat × Nat => (height code frame.1).toNat) '' framesAround code place
      = (Finset.range (nesting code place) : Set Nat) := by
    ext level
    rw [Finset.mem_coe, Finset.mem_range]
    constructor
    · rintro ⟨⟨opening, closing⟩, ⟨isFrame, after, before⟩, rfl⟩
      have nonneg := nested.height_nonneg opening
      have lower : height code opening < nesting code place :=
        isFrame.height_lt_nesting nested after before
      show (height code opening).toNat < nesting code place
      omega
    · intro below
      rcases nested.exists_frame inside below with
        ⟨opening, closing, isFrame, after, before, levelEq⟩
      exact ⟨(opening, closing), ⟨isFrame, after, before⟩, by simp [levelEq]⟩
  rw [← injective.encard_image, levels, Set.encard_coe_eq_coe_finsetCard, Finset.card_range]

/-- A frame is opened and closed at one depth. -/
theorem IsNested.nesting_of_matches (nested : IsNested code) {opening closing : Nat}
    (isFrame : Matches code opening closing) : nesting code opening = nesting code closing := by
  have opened := nested.nesting_eq opening
  have closed := nested.nesting_eq closing
  have heightEq := isFrame.height_closing.1
  rcases isFrame.opens with ⟨depth, locals, opens⟩
  have openingEq : leavesAt code opening = 0 := by
    rw [leavesAt, opens]
    rfl
  have closingEq : leavesAt code closing = 1 := by
    rw [leavesAt, isFrame.closes]
    rfl
  omega

end UnitLinker.Instruction
