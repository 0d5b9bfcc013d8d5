import Mathlib
import UnitLinker.Proofs.Mirrors
import UnitLinker.Proofs.StoredFormats
import UnitLinker.Proofs.Turns

/-!
# Linking stored units

Units and images are read back from their stored forms, whatever follows them. Of a
unit, only the section that its builder was working on is lost. Linking does not
depend on it, so units that were stored and read again link as before.
-/

namespace UnitLinker.Dependency

variable (units : List ObjectUnit) (program : ObjectUnit)

/-- The place of a unit among the units that were read again. -/
def resetPlace : Fin units.length ↪o Fin (units.map ObjectUnit.reset).length :=
  (Fin.castOrderIso (List.length_map ObjectUnit.reset).symm).toOrderEmbedding

theorem resetPlace_surjective : Function.Surjective (resetPlace units) :=
  (Fin.castOrderIso (List.length_map ObjectUnit.reset).symm).surjective

/-- Places correspond to places in their order. -/
theorem map_resetPlace_finRange : (List.finRange units.length).map (resetPlace units)
    = List.finRange (units.map ObjectUnit.reset).length := by
  apply List.ext_getElem
  · simp
  · intro position _ _
    ext
    simp [resetPlace]

/-- At corresponding places are units that differ in their active section only. -/
theorem reset_resetPlace (position : Fin units.length) :
    ((units.map ObjectUnit.reset).get (resetPlace units position)).reset
      = (units.get position).reset := by
  simp [resetPlace, ObjectUnit.reset]

/-- Units that were read again correspond to the units that were stored. -/
def resetPart : ClosedPart units (units.map ObjectUnit.reset) program where
  place := resetPlace units
  reset_place := reset_resetPlace units
  closed _ _ position _ := resetPlace_surjective units position

/-- Both lists of units are indexed, or refused in the same way. -/
theorem indexUnits_reset : SameOutcome (fun _ _ => True) (indexUnits units program)
    (indexUnits (units.map ObjectUnit.reset) program) := by
  have indexed : SameOutcome
      (fun index others => ∀ name, others.contains name = index.contains name)
      (indexUnits units program) (indexUnits (units.map ObjectUnit.reset) program) := by
    rw [indexUnits, indexUnits, ← map_resetPlace_finRange units]
    apply SameOutcome.foldlM_map
    · intro index others position same
      have kindEq := (resetPart units program).kind_place position
      have nameEq := (resetPart units program).name_place position
      have spanEq := (resetPart units program).span_place position
      simp only [resetPart] at kindEq nameEq spanEq
      simp only [addToIndex, kindEq, nameEq, spanEq, same]
      split
      · exact .refused _
      · split
        · exact .refused _
        · refine .given fun name => ?_
          rw [Table.contains_insert, Table.contains_insert, same]
    · exact fun _ => rfl
  exact indexed.mono fun _ _ _ => trivial

/-- Units that were read again are put in the same order. -/
theorem resolveOrder_reset (stripUnused : Bool) :
    SameOutcome (fun order others => others = order.map (resetPlace units))
      (resolveOrder units program stripUnused)
      (resolveOrder (units.map ObjectUnit.reset) program stripUnused) := by
  apply (resetPart units program).resolveOrder (indexUnits_reset units program)
  intro position
  rcases resetPlace_surjective units position with ⟨inner, rfl⟩
  constructor
  · intro isIncluded
    exact ⟨inner, fun stripping =>
      (resetPart units program).reachable_place_iff.1 (isIncluded stripping), rfl⟩
  · rintro ⟨other, isIncluded, placeEq⟩ stripping
    rw [← placeEq]
    exact (resetPart units program).reachable_place_iff.2 (isIncluded stripping)

end UnitLinker.Dependency

namespace UnitLinker.Link

theorem place_reset (layout : Layout) (unit : ObjectUnit) :
    layout.place unit.reset = layout.place unit := rfl

/-- Placing units does not depend on their active sections. -/
theorem placeAll_reset (layout : Layout) (units : List ObjectUnit) :
    layout.placeAll (units.map ObjectUnit.reset) = layout.placeAll units := by
  rw [Layout.placeAll, Layout.placeAll, List.foldlM_map]
  simp only [place_reset]

/-- The sequence of a run does not depend on active sections. -/
theorem sequence_reset (units : List ObjectUnit) (program : ObjectUnit) (options : Options) :
    sequence (units.map ObjectUnit.reset) program.reset options
      = (sequence units program options).map (List.map ObjectUnit.reset) := by
  have same := Dependency.resolveOrder_reset units program options.stripUnused
  have programEq : ∀ units, Dependency.resolveOrder units program.reset options.stripUnused
      = Dependency.resolveOrder units program options.stripUnused := fun _ => rfl
  simp only [sequence, programEq]
  generalize Dependency.resolveOrder (units.map ObjectUnit.reset) program _ = others at same ⊢
  generalize Dependency.resolveOrder units program _ = outcome at same ⊢
  cases same with
  | refused error => rfl
  | @given order _ orderEq =>
    subst orderEq
    have orderUnits : (order.map (Dependency.resetPlace units)).map
        (units.map ObjectUnit.reset).get = (order.map units.get).map ObjectUnit.reset := by
      simp [Dependency.resetPlace]
    simp [bind, Except.bind, pure, Except.pure, Except.map, orderUnits]

/-- Linking does not depend on the sections that builders work on. -/
theorem link_reset (units : List ObjectUnit) (program : ObjectUnit) (options : Options) :
    link (units.map ObjectUnit.reset) program.reset options = link units program options := by
  rw [link, link, sequence_reset]
  cases sequence units program options with
  | error error => rfl
  | ok sequence =>
    have placed := placeAll_reset (.fresh options) sequence
    simp only [Except.map, refusing, bind, Except.bind, Except.mapError, placed]

/-- A unit that was read from the stored form of another one, whatever followed it. A word
can count the bytes of the stored form. -/
structure IsCopy (unit copy : ObjectUnit) : Prop where
  fits : unit.encode.length < Word.count
  read : ∃ rest, ObjectUnit.decode (unit.encode ++ rest) = .ok copy

/-- A stored unit is read back without its active section, whatever follows it. -/
theorem decode_unit {unit : ObjectUnit} (fits : unit.encode.length < Word.count)
    (rest : Binary.Bytes) : ObjectUnit.decode (unit.encode ++ rest) = .ok unit.reset :=
  (Binary.restores_unit .lastWins unit).decode fits rest

/-- A stored image is read back, whatever follows it. -/
theorem decode_image {image : Image} (fits : image.encode.length < Word.count)
    (rest : Binary.Bytes) : Image.decode (image.encode ++ rest) = .ok image :=
  (Binary.restores .lastWins image).decode fits rest

/-- A copy is the unit with the body as its active section. -/
theorem IsCopy.eq_reset {unit copy : ObjectUnit} (isCopy : IsCopy unit copy) :
    copy = unit.reset := by
  rcases isCopy.read with ⟨rest, read⟩
  rw [decode_unit isCopy.fits] at read
  exact (Except.ok.inj read).symm

/-- Copies are the units with the body as their active section. -/
theorem eq_map_reset {units copies : List ObjectUnit}
    (areCopies : List.Forall₂ IsCopy units copies) : copies = units.map ObjectUnit.reset := by
  induction areCopies with
  | nil => rfl
  | cons isCopy _ ih => rw [List.map_cons, ih, isCopy.eq_reset]

/-- Storing loses nothing of a unit but the section that its builder was working on
and nothing of an image, and units that were stored and read again link as before. The
bytes of a stored form can be counted by a word, as all that a machine holds can. -/
theorem storage_transparent :
    (∀ (unit : ObjectUnit) (rest : Binary.Bytes), unit.encode.length < Word.count →
      ObjectUnit.decode (unit.encode ++ rest) = .ok { unit with active := .body })
    ∧ (∀ (image : Image) (rest : Binary.Bytes), image.encode.length < Word.count →
      Image.decode (image.encode ++ rest) = .ok image)
    ∧ ∀ (units copies : List ObjectUnit) (program copy : ObjectUnit) (options : Options),
      List.Forall₂ IsCopy units copies → IsCopy program copy →
        link copies copy options = link units program options := by
  refine ⟨?_, ?_, ?_⟩
  · intro unit rest fits
    exact decode_unit fits rest
  · intro image rest fits
    exact decode_image fits rest
  · intro units copies program copy options areCopies isCopy
    rw [eq_map_reset areCopies, isCopy.eq_reset, link_reset]

section Chart

/-- A unit whose builder stopped in its final code, with a not-a-number constant. -/
def chart : ObjectUnit :=
  (ObjectUnit.empty "Chart" .unit (some (.zero "größe.pas"))).attemptAll
    [.use "Tally" (some (.zero "größe.pas")), .var "scale" .interface,
      .type "Color" (.enum ⟨["red", "green"]⟩), .type "Grid" (.array ⟨[⟨0, 9⟩], "Color"⟩),
      .begin "draw" (.ofSignature ⟨[⟨"at", "Grid", true⟩], some "Color"⟩ .interface),
      .emit (.push (.real ⟨0x7FF8000000000001⟩)), .emit (.push (.char '😀')), .emit .ret,
      .select .final, .emit (.push (.int (-1)))]

/-- An image of one instruction. -/
def idleImage : Image := ⟨[.halt], [⟨"Main", "größe"⟩], [⟨"Main", 0⟩], [], 0, .empty⟩

theorem isCopy_of_length {unit : ObjectUnit} (fits : unit.encode.length < Word.count) :
    IsCopy unit { unit with active := .body } := ⟨fits, [], decode_unit fits []⟩

theorem link_chart : ∃ image, link [tally, chart] tallyProgram .standard = .ok image :=
  exists_ok_of_isOk (by cbv)

end Chart

theorem storage_transparent_chart :
    chart.active = .final
    ∧ ObjectUnit.decode (chart.encode ++ [0xFF]) = .ok { chart with active := .body }
    ∧ Image.decode (idleImage.encode ++ [0xFF]) = .ok idleImage
    ∧ ∃ image, link [tally, chart] tallyProgram .standard = .ok image
      ∧ link [{ tally with active := .body }, { chart with active := .body }]
        { tallyProgram with active := .body } .standard = .ok image := by
  have tallyFits : tally.encode.length < Word.count := by decide +kernel
  have chartFits : chart.encode.length < Word.count := by decide +kernel
  have programFits : tallyProgram.encode.length < Word.count := by decide +kernel
  have imageFits : idleImage.encode.length < Word.count := by decide +kernel
  have areCopies := List.Forall₂.cons (isCopy_of_length tallyFits)
    (.cons (isCopy_of_length chartFits) .nil)
  rcases link_chart with ⟨image, linked⟩
  rcases storage_transparent with ⟨units, images, links⟩
  refine ⟨by decide +kernel, units chart _ chartFits, images idleImage _ imageFits, image, linked,
    ?_⟩
  rw [links _ _ _ _ _ areCopies (isCopy_of_length programFits), linked]

end UnitLinker.Link
