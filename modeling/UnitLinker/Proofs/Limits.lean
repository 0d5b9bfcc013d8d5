import Mathlib
import UnitLinker.Proofs.Turns

/-!
# Limits

A run reads its limits when it takes blocks and never again. So two runs of the same units
under different limits place the same things at the same places for as long as both have
room, and a run that has no room left says which space it is and by how much.

The limits are checked unit by unit. Since taking blocks only ever uses up words, there is
room at every unit if and only if there is room for all of them together.
-/

namespace UnitLinker.Link

/-- The limit of a space. -/
def Options.limit (options : Options) : SpaceKind → UInt64
  | .globals => options.maxGlobals
  | .code => options.maxInstructions

/-- An error for want of room: what is in use is within the limit of the space, and what is
requested on top of it is not. -/
inductive IsOverflow (options : Options) : LinkError → Prop where
  | full {unit : String} {space : SpaceKind} {used : UInt64} {requested : Nat}
      (within : used.toNat ≤ (options.limit space).toNat)
      (exceeds : (options.limit space).toNat < used.toNat + requested) :
      IsOverflow options (.spaceOverflow unit space used requested (options.limit space))

variable {layout next final : Layout} {unit : ObjectUnit} {rest : List ObjectUnit}
  {limits : Options}

section Blocks

/-- A block is refused exactly if it does not fit. -/
theorem Space.reserve_eq_error {space : Space} {name : String} {length : Nat} {error : LinkError} :
    space.reserve name length = .error error
      ↔ space.limit.toNat < space.next.toNat + length
        ∧ error = .spaceOverflow name space.kind space.next length space.limit := by
  unfold Space.reserve
  by_cases fits : space.next.toNat + length ≤ space.limit.toNat
  · simp [fits]
  · rw [if_neg fits, Except.error.injEq, and_iff_right (Nat.not_le.1 fits)]
    exact eq_comm

/-- A unit gets no blocks if there is no room for its globals, or else none for its code. -/
theorem Layout.reserve_eq_error {error : LinkError} :
    layout.reserve unit = .error error
      ↔ (layout.globals.limit.toNat < layout.globals.next.toNat + slotCount unit
          ∧ error = .spaceOverflow unit.name layout.globals.kind layout.globals.next
            (slotCount unit) layout.globals.limit)
        ∨ (layout.globals.next.toNat + slotCount unit ≤ layout.globals.limit.toNat
          ∧ layout.code.limit.toNat < layout.code.next.toNat + codeLength unit
          ∧ error = .spaceOverflow unit.name layout.code.kind layout.code.next (codeLength unit)
            layout.code.limit) := by
  unfold Layout.reserve
  rw [bind_eq_error, Space.reserve_eq_error]
  refine or_congr Iff.rfl ⟨?_, ?_⟩
  · rintro ⟨⟨globals, globalsLeft⟩, globalsReserved, codeRefused⟩
    have globalsFit := (Space.reserve_eq_ok.1 globalsReserved).1
    rcases bind_eq_error.1 codeRefused with full | ⟨_, _, given⟩
    · exact ⟨globalsFit, Space.reserve_eq_error.1 full⟩
    · cases given
  · rintro ⟨globalsFit, codeFull⟩
    refine ⟨_, Space.reserve_eq_ok.2 ⟨globalsFit, rfl, rfl⟩, ?_⟩
    exact bind_eq_error.2 (.inl (Space.reserve_eq_error.2 codeFull))

/-- A unit whose blocks do not fit is refused for that. -/
theorem Layout.place_of_reserve_eq_error {error : LinkError}
    (full : layout.reserve unit = .error error) :
    layout.place unit = .error (.refused error) := by
  rw [Layout.place, full]
  rfl

end Blocks

namespace Layout

/-- The same units placed under the limits of some options. -/
def withLimits (layout : Layout) (limits : Options) : Layout :=
  { layout with
    globals := ⟨.globals, layout.globals.next, limits.maxGlobals⟩
    code := ⟨.code, layout.code.next, limits.maxInstructions⟩ }

/-- What is placed is within the limits of some options. -/
def FitsIn (layout : Layout) (limits : Options) : Prop :=
  layout.globals.next.toNat ≤ limits.maxGlobals.toNat
    ∧ layout.code.next.toNat ≤ limits.maxInstructions.toNat

/-- A fresh layout fits into any limits. -/
theorem fitsIn_fresh (options limits : Options) : (fresh options).FitsIn limits :=
  ⟨Nat.zero_le _, Nat.zero_le _⟩

/-- Placing units never gives words back. -/
theorem toNat_next_le_of_placeAll (placedAll : layout.placeAll rest = .ok final) :
    layout.globals.next.toNat ≤ final.globals.next.toNat
      ∧ layout.code.next.toNat ≤ final.code.next.toNat := by
  induction rest generalizing layout with
  | nil =>
    cases pure_eq_ok.1 placedAll
    exact ⟨Nat.le_refl _, Nat.le_refl _⟩
  | cons unit rest ih =>
    obtain ⟨next, placedUnit, placedRest⟩ := placeAll_cons_eq_ok.1 placedAll
    have taken := toNat_next_of_place placedUnit
    have later := ih placedRest
    omega

/-- A layout fits into limits that a later one fits into. -/
theorem FitsIn.of_placeAll (fits : final.FitsIn limits)
    (placedAll : layout.placeAll rest = .ok final) : layout.FitsIn limits := by
  obtain ⟨globalsLe, codeLe⟩ := toNat_next_le_of_placeAll placedAll
  exact ⟨Nat.le_trans globalsLe fits.1, Nat.le_trans codeLe fits.2⟩

/-- A unit that is placed under some limits is placed alike under others that leave room. -/
theorem place_withLimits (placedUnit : layout.place unit = .ok next)
    (fits : next.FitsIn limits) :
    (layout.withLimits limits).place unit = .ok (next.withLimits limits) := by
  obtain ⟨globalsNext, codeNext⟩ := toNat_next_of_place placedUnit
  obtain ⟨globalsFit, codeFits⟩ := fits
  rw [globalsNext] at globalsFit
  rw [codeNext] at codeFits
  obtain ⟨reservation, map, code, reserved, mapped, relocated, rfl⟩ := place_eq_ok.1 placedUnit
  obtain ⟨_, _, rfl⟩ := reserve_eq_ok.1 reserved
  refine place_eq_ok.2 ⟨_, map, code, reserve_eq_ok.2 ⟨globalsFit, codeFits, rfl⟩, ?_, relocated,
    rfl⟩
  -- the map of a unit comes from its blocks, which are the same
  exact unitMap_eq_ok.2 (unitMap_eq_ok.1 mapped)

/-- A unit that is placed under some limits is refused for want of room under others that
leave none, and for no other reason. -/
theorem place_withLimits_eq_error (placedUnit : layout.place unit = .ok next)
    (before : layout.FitsIn limits) (full : ¬ next.FitsIn limits) :
    ∃ error, IsOverflow limits error
      ∧ (layout.withLimits limits).place unit = .error (.refused error) := by
  rw [FitsIn] at full
  obtain ⟨globalsNext, codeNext⟩ := toNat_next_of_place placedUnit
  rw [globalsNext, codeNext] at full
  by_cases globalsFit : layout.globals.next.toNat + slotCount unit ≤ limits.maxGlobals.toNat
  · have codeFull := Nat.not_le.1 fun codeFits => full ⟨globalsFit, codeFits⟩
    have error : IsOverflow limits (.spaceOverflow unit.name .code layout.code.next
      (codeLength unit) (limits.limit .code)) := .full before.2 codeFull
    exact ⟨_, error, place_of_reserve_eq_error (reserve_eq_error.2 (.inr
      ⟨globalsFit, codeFull, rfl⟩))⟩
  · have globalsFull := Nat.not_le.1 globalsFit
    have error : IsOverflow limits (.spaceOverflow unit.name .globals layout.globals.next
      (slotCount unit) (limits.limit .globals)) := .full before.1 globalsFull
    exact ⟨_, error, place_of_reserve_eq_error (reserve_eq_error.2 (.inl ⟨globalsFull, rfl⟩))⟩

/-- A run that succeeds under some limits ends alike under others, or for want of room. -/
theorem placeAll_withLimits (placedAll : layout.placeAll rest = .ok final)
    (before : layout.FitsIn limits) :
    (final.FitsIn limits → (layout.withLimits limits).placeAll rest = .ok (final.withLimits limits))
      ∧ (¬ final.FitsIn limits → ∃ error, IsOverflow limits error
        ∧ (layout.withLimits limits).placeAll rest = .error (.refused error)) := by
  induction rest generalizing layout with
  | nil =>
    cases pure_eq_ok.1 placedAll
    exact ⟨fun _ => rfl, fun full => absurd before full⟩
  | cons unit rest ih =>
    obtain ⟨next, placedUnit, placedRest⟩ := placeAll_cons_eq_ok.1 placedAll
    by_cases fits : next.FitsIn limits
    · have same : (layout.withLimits limits).placeAll (unit :: rest)
          = (next.withLimits limits).placeAll rest := by
        rw [placeAll, List.foldlM_cons, place_withLimits placedUnit fits]
        rfl
      rw [same]
      exact ih placedRest fits
    · -- what is taken is not given back, so there is no room at the end either
      obtain ⟨error, overflow, refused⟩ := place_withLimits_eq_error placedUnit before fits
      refine ⟨fun allFits => absurd (allFits.of_placeAll placedRest) fits, fun _ => ?_⟩
      refine ⟨error, overflow, ?_⟩
      rw [placeAll, List.foldlM_cons, refused]
      rfl

/-- A run never changes its limits. -/
theorem withLimits_of_placeAll {options : Options}
    (placedAll : (fresh options).placeAll rest = .ok final) :
    final.withLimits options = final := by
  -- the run is compared with itself
  obtain ⟨alike, refused⟩ := placeAll_withLimits placedAll (fitsIn_fresh options options)
  by_cases fits : final.FitsIn options
  · exact Except.ok.inj ((alike fits).symm.trans placedAll)
  · obtain ⟨_, _, failed⟩ := refused fits
    cases placedAll.symm.trans failed

end Layout

variable {units : List ObjectUnit} {program : ObjectUnit} {options : Options} {image : Image}

/-- What is placed, and in which order, does not depend on limits. -/
theorem sequence_eq_of_stripUnused (same : limits.stripUnused = options.stripUnused) :
    sequence units program limits = sequence units program options := by
  rw [sequence, sequence, same]

/-- Once the units are in order, a run only places them. -/
theorem link_of_sequence {ordered : List ObjectUnit}
    (sequenced : sequence units program options = .ok ordered) :
    link units program options = (do
      let layout ← (Layout.fresh options).placeAll ordered
      return layout.toImage layout.mainAddress) := by
  rw [link, sequenced]
  rfl

/-- Limits gate the output of a run and do nothing else. What links under some limits links
to the same image under all limits that the image keeps, and is refused under all others
because a space is full. -/
theorem limits_gate_output (linked : link units program options = .ok image)
    (same : limits.stripUnused = options.stripUnused) :
    (image.globals.length ≤ limits.maxGlobals.toNat
        ∧ image.instructions.length ≤ limits.maxInstructions.toNat →
      link units program limits = .ok image)
    ∧ (¬ (image.globals.length ≤ limits.maxGlobals.toNat
        ∧ image.instructions.length ≤ limits.maxInstructions.toNat) →
      ∃ error, IsOverflow limits error ∧ link units program limits = .error (.refused error)) := by
  obtain ⟨ordered, layout, sequenced, placed, rfl⟩ := link_eq_ok.1 linked
  have holds := (holds_fresh options).placeAll (sequence_names_nodup sequenced) placed
  have globalsLength : layout.globalVars.length = layout.globals.next.toNat := by
    rw [holds.globalVars, holds.globalsNext]
    exact length_flatMap_ownedVars ordered
  have codeLength : layout.instructions.length = layout.code.next.toNat :=
    holds.length.trans holds.codeNext.symm
  simp only [Layout.toImage, globalsLength, codeLength]
  obtain ⟨alike, refused⟩ := Layout.placeAll_withLimits placed (Layout.fitsIn_fresh options limits)
  have sequencedAlike := (sequence_eq_of_stripUnused same).trans sequenced
  constructor
  · intro fits
    exact link_eq_ok.2 ⟨ordered, layout.withLimits limits, sequencedAlike, alike fits, rfl⟩
  · intro full
    obtain ⟨error, overflow, notPlaced⟩ := refused full
    refine ⟨error, overflow, ?_⟩
    rw [link_of_sequence sequencedAlike]
    exact bind_eq_error.2 (.inl notPlaced)

/-- The tally takes three slots and twelve instructions: it links under exactly these limits,
and not with one instruction less. -/
theorem limits_gate_output_tally :
    ∃ image, link [tally] tallyProgram .standard = .ok image
      ∧ link [tally] tallyProgram ⟨false, 3, 12⟩ = .ok image
      ∧ ∃ error, IsOverflow ⟨false, 3, 11⟩ error
        ∧ link [tally] tallyProgram ⟨false, 3, 11⟩ = .error (.refused error) := by
  obtain ⟨image, linked⟩ := link_tally
  have sequenced : sequence [tally] tallyProgram .standard = .ok [tally, tallyProgram] := by cbv
  obtain ⟨_, code, globals⟩ := holds_of_link linked sequenced
  have globalsLength : image.globals.length = 3 := by
    rw [globals]
    cbv
  have codeLength : image.instructions.length = 12 := by
    rw [code]
    cbv
  have exactly : (⟨false, 3, 12⟩ : Options).stripUnused = Options.standard.stripUnused := rfl
  have oneLess : (⟨false, 3, 11⟩ : Options).stripUnused = Options.standard.stripUnused := rfl
  refine ⟨image, linked, (limits_gate_output linked exactly).1 ?_,
    (limits_gate_output linked oneLess).2 ?_⟩
  · rw [globalsLength, codeLength]
    decide
  · rw [globalsLength, codeLength]
    decide

end UnitLinker.Link
