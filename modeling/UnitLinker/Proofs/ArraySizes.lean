import Mathlib
import UnitLinker.Proofs.Results
import UnitLinker.Types

/-!
# Sizes of arrays

The size of an array is the product of the lengths of its index ranges, taken from the left.
It is refused if a length or a product on the way does not fit into a word, even where a
later range is empty. A size that is given is exact: it is the number of the tuples
of indices that the array has an element for.
-/

namespace UnitLinker

theorem Word.exists_toNat_eq {number : Nat} (fits : number < 2 ^ 64) :
    ∃ word : UInt64, word.toNat = number := ⟨_, UInt64.toNat_ofNat_of_lt' fits⟩

/-- A product of words is given exactly if it is a word. -/
theorem Word.mul_eq_ok {left right product : UInt64} :
    Word.mul left right = .ok product
      ↔ left.toNat * right.toNat < 2 ^ 64 ∧ product.toNat = left.toNat * right.toNat := by
  have toNat_mul : left.toNat * right.toNat < 2 ^ 64 →
      (left * right).toNat = left.toNat * right.toNat := by
    intro fits
    rw [UInt64.toNat_mul, Nat.mod_eq_of_lt fits]
  unfold Word.mul
  constructor
  · intro given
    split at given
    · rename_i fits
      cases given
      exact ⟨fits, toNat_mul fits⟩
    · cases given
  · rintro ⟨fits, productEq⟩
    have isProduct : product = left * right :=
      UInt64.toNat_inj.1 (productEq.trans (toNat_mul fits).symm)
    rw [isProduct]
    exact if_pos fits

namespace IndexRange

/-- The number of indices, which is zero if the high bound is below the low one. -/
def indexCount (range : IndexRange) : Nat :=
  if range.high < range.low then 0 else (range.high.toInt - range.low.toInt + 1).toNat

/-- The distance of the bounds is a signed word, unless there are no indices. -/
def IsMeasurable (range : IndexRange) : Prop :=
  range.low ≤ range.high → range.high.toInt - range.low.toInt ≤ 2 ^ 63 - 1

/-- A range that can be measured has fewer indices than there are words. -/
theorem IsMeasurable.indexCount_lt {range : IndexRange} (measurable : range.IsMeasurable) :
    range.indexCount < 2 ^ 64 := by
  unfold indexCount
  split
  · decide
  · rename_i notEmpty
    have near := measurable (Int64.not_lt.1 notEmpty)
    omega

/-- The length of a range is given exactly if it can be measured. -/
theorem length_eq_ok {range : IndexRange} {length : UInt64} :
    range.length = .ok length ↔ range.IsMeasurable ∧ length.toNat = range.indexCount := by
  by_cases isEmpty : range.high < range.low
  · have notLe : ¬ range.low ≤ range.high := Int64.not_le.2 isEmpty
    simp only [IndexRange.length, indexCount, IsMeasurable, isEmpty, notLe, if_true,
      false_implies, true_and, Except.ok.injEq]
    rw [eq_comm, ← UInt64.toNat_inj]
    rfl
  · have isLe : range.low ≤ range.high := Int64.not_lt.1 isEmpty
    have ordered := Int64.le_iff_toInt_le.1 isLe
    have maxEq : Int64.maxValue.toInt = 2 ^ 63 - 1 := rfl
    simp only [IndexRange.length, indexCount, IsMeasurable, isEmpty, isLe, if_false,
      forall_true_left, maxEq]
    by_cases near : range.high.toInt - range.low.toInt ≤ 2 ^ 63 - 1
    · have countEq : (range.high.toInt - range.low.toInt + 1).toNat
          = (range.high.toInt - range.low.toInt).toNat + 1 := by omega
      have fits : (range.high.toInt - range.low.toInt).toNat + 1 < 2 ^ 64 := by omega
      simp only [near, if_true, true_and, Except.ok.injEq, countEq]
      rw [eq_comm, ← UInt64.toNat_inj, UInt64.toNat_ofNat_of_lt' fits]
    · simp only [near, if_false, false_and, reduceCtorEq]

/-- As numbers, the indices of a range are those between its bounds. -/
theorem image_toInt (range : IndexRange) :
    Int64.toInt '' {index | range.contains index = true}
      = Set.Icc range.low.toInt range.high.toInt := by
  ext number
  constructor
  · rintro ⟨index, isIndex, rfl⟩
    have bounds : range.low ≤ index ∧ index ≤ range.high := by
      simpa [contains] using isIndex
    exact ⟨Int64.le_iff_toInt_le.1 bounds.1, Int64.le_iff_toInt_le.1 bounds.2⟩
  · rintro ⟨low, high⟩
    have least := range.low.le_toInt
    have most := range.high.toInt_lt
    have numberEq : (Int64.ofInt number).toInt = number :=
      Int64.toInt_ofInt_of_le (by omega) (by omega)
    refine ⟨Int64.ofInt number, ?_, numberEq⟩
    simp only [Set.mem_ofPred_eq, contains, Bool.and_eq_true, decide_eq_true_eq,
      Int64.le_iff_toInt_le, numberEq]
    exact ⟨low, high⟩

/-- The indices of a range are counted by its length. -/
theorem encard_indices (range : IndexRange) :
    {index | range.contains index = true}.encard = range.indexCount := by
  have injective : Function.Injective Int64.toInt := fun _ _ => Int64.toInt_inj.1
  rw [← injective.encard_image, image_toInt, ← Finset.coe_Icc, Set.encard_coe_eq_coe_finsetCard,
    Int.card_Icc, indexCount]
  congr 1
  split
  · rename_i isEmpty
    have below := Int64.lt_iff_toInt_lt.1 isEmpty
    omega
  · omega

end IndexRange

namespace ArrayType

/-- The tuples with an index of each range. -/
def tuples (ranges : List IndexRange) : Set (List Int64) :=
  {tuple | List.Forall₂ (fun range index => range.contains index = true) ranges tuple}

theorem tuples_nil : tuples [] = {[]} := by
  ext tuple
  exact List.forall₂_nil_left_iff

/-- The tuples are those of the further ranges with an index of the first one in front. -/
theorem tuples_cons (range : IndexRange) (ranges : List IndexRange) :
    tuples (range :: ranges) = (fun pair : Int64 × List Int64 => pair.1 :: pair.2) ''
      ({index | range.contains index = true} ×ˢ tuples ranges) := by
  ext tuple
  simp only [tuples, Set.mem_ofPred_eq, List.forall₂_cons_left_iff, Set.mem_image, Set.mem_prod,
    Prod.exists]
  constructor
  · rintro ⟨index, rest, isIndex, isTuple, rfl⟩
    exact ⟨index, rest, ⟨isIndex, isTuple⟩, rfl⟩
  · rintro ⟨index, rest, ⟨isIndex, isTuple⟩, rfl⟩
    exact ⟨index, rest, isIndex, isTuple, rfl⟩

/-- There are as many tuples as the product of the numbers of indices says. -/
theorem encard_tuples (ranges : List IndexRange) :
    (tuples ranges).encard = (ranges.map IndexRange.indexCount).prod := by
  induction ranges with
  | nil => simp [tuples_nil]
  | cons range ranges ih =>
    have injective : Function.Injective fun pair : Int64 × List Int64 => pair.1 :: pair.2 := by
      rintro ⟨first, rest⟩ ⟨other, others⟩ same
      cases same
      rfl
    rw [tuples_cons, injective.encard_image, Set.encard_prod, range.encard_indices, ih,
      List.map_cons, List.prod_cons, Nat.cast_mul]

/-- Products that start with a range are products after its length. -/
theorem forall_prefix_cons {factor : Nat} {range : IndexRange} {ranges : List IndexRange} :
    (∀ front, front <+: range :: ranges →
        factor * (front.map IndexRange.indexCount).prod < 2 ^ 64)
      ↔ factor < 2 ^ 64 ∧ ∀ front, front <+: ranges →
        factor * range.indexCount * (front.map IndexRange.indexCount).prod < 2 ^ 64 := by
  constructor
  · intro small
    refine ⟨by simpa using small [] List.nil_prefix, fun front starts => ?_⟩
    have product := small (range :: front) (List.cons_prefix_cons.2 ⟨rfl, starts⟩)
    rwa [List.map_cons, List.prod_cons, ← Nat.mul_assoc] at product
  · rintro ⟨factorSmall, small⟩ front starts
    rcases List.prefix_cons_iff.1 starts with rfl | ⟨rest, rfl, restStarts⟩
    · simpa using factorSmall
    · rw [List.map_cons, List.prod_cons, ← Nat.mul_assoc]
      exact small rest restStarts

/-- Counting succeeds exactly if all ranges can be measured and all partial products are
words. -/
theorem countFrom_eq_ok {factor count : UInt64} {ranges : List IndexRange} :
    countFrom factor ranges = .ok count
      ↔ (∀ range ∈ ranges, range.IsMeasurable)
        ∧ (∀ front, front <+: ranges →
          factor.toNat * (front.map IndexRange.indexCount).prod < 2 ^ 64)
        ∧ count.toNat = factor.toNat * (ranges.map IndexRange.indexCount).prod := by
  induction ranges generalizing factor with
  | nil =>
    have small := factor.toNat_lt
    simp only [countFrom, Except.ok.injEq, List.not_mem_nil, false_implies, implies_true,
      List.prefix_nil, forall_eq, List.map_nil, List.prod_nil, Nat.mul_one, small, true_and]
    rw [eq_comm, UInt64.toNat_inj]
  | cons range ranges ih =>
    rw [forall_prefix_cons, List.forall_mem_cons]
    constructor
    · intro counted
      rcases bind_eq_ok.1 counted with ⟨length, measured, multiplying⟩
      rcases bind_eq_ok.1 multiplying with ⟨product, multiplied, counting⟩
      rcases IndexRange.length_eq_ok.1 measured with ⟨measurable, lengthEq⟩
      rcases Word.mul_eq_ok.1 multiplied with ⟨_, productEq⟩
      rcases ih.1 counting with ⟨othersMeasurable, small, countEq⟩
      rw [productEq, lengthEq] at small countEq
      refine ⟨⟨measurable, othersMeasurable⟩, ⟨factor.toNat_lt, small⟩, ?_⟩
      rw [countEq, List.map_cons, List.prod_cons, Nat.mul_assoc]
    · rintro ⟨⟨measurable, othersMeasurable⟩, ⟨_, small⟩, countEq⟩
      have fits : factor.toNat * range.indexCount < 2 ^ 64 := by
        simpa using small [] List.nil_prefix
      rcases Word.exists_toNat_eq measurable.indexCount_lt with ⟨length, lengthEq⟩
      rcases Word.exists_toNat_eq fits with ⟨product, productEq⟩
      have measured : range.length = .ok length :=
        IndexRange.length_eq_ok.2 ⟨measurable, lengthEq⟩
      have multiplied : Word.mul factor length = .ok product := by
        rw [Word.mul_eq_ok, lengthEq]
        exact ⟨fits, productEq⟩
      have counting : countFrom product ranges = .ok count := by
        rw [ih, productEq, countEq, List.map_cons, List.prod_cons, Nat.mul_assoc]
        exact ⟨othersMeasurable, small, rfl⟩
      exact bind_eq_ok.2 ⟨length, measured, bind_eq_ok.2 ⟨product, multiplied, counting⟩⟩

/-- The size of an array is given exactly if the lengths of its ranges and all products of them
from the left are words, and then it is the number of the tuples of its indices. -/
theorem elementCount_exact (array : ArrayType) :
    ((∃ count, array.elementCount = .ok count)
      ↔ (∀ range ∈ array.dimensions, range.low ≤ range.high →
          range.high.toInt - range.low.toInt ≤ 2 ^ 63 - 1)
        ∧ ∀ front, front <+: array.dimensions →
          (front.map IndexRange.indexCount).prod < 2 ^ 64)
    ∧ ∀ count, array.elementCount = .ok count →
      (tuples array.dimensions).encard = count.toNat := by
  have counted_iff := fun count => @countFrom_eq_ok 1 count array.dimensions
  simp only [UInt64.toNat_one, Nat.one_mul] at counted_iff
  refine ⟨⟨?_, ?_⟩, ?_⟩
  · rintro ⟨count, counted⟩
    rcases (counted_iff count).1 counted with ⟨measurable, small, _⟩
    exact ⟨measurable, small⟩
  · rintro ⟨measurable, small⟩
    rcases Word.exists_toNat_eq (small array.dimensions (List.prefix_refl _)) with ⟨count, countEq⟩
    exact ⟨count, (counted_iff count).2 ⟨measurable, small, countEq⟩⟩
  · intro count counted
    rcases (counted_iff count).1 counted with ⟨_, _, countEq⟩
    rw [encard_tuples, countEq]

section Board

/-- An array with indices below zero. -/
def board : ArrayType := ⟨[⟨-1, 1⟩, ⟨0, 3⟩], "Integer"⟩

/-- A range as long as a signed word allows. -/
def longest : IndexRange := ⟨-1, 0x7FFFFFFFFFFFFFFE⟩

end Board

/-- An empty range saves the product only of the ranges after it. -/
theorem elementCount_exact_board :
    board.elementCount = .ok 12
    ∧ (tuples board.dimensions).encard = 12
    ∧ (tuples [⟨1, 0⟩, longest, longest]).encard = 0
    ∧ ¬ (∀ front, front <+: [longest, longest, ⟨1, 0⟩] →
      (front.map IndexRange.indexCount).prod < 2 ^ 64) := by
  have boardCount : board.elementCount = .ok 12 := by decide +kernel
  have emptyCount : elementCount ⟨[⟨1, 0⟩, longest, longest], "Integer"⟩ = .ok 0 := by
    decide +kernel
  have refused : elementCount ⟨[longest, longest, ⟨1, 0⟩], "Integer"⟩ = .error .overflow := by
    decide +kernel
  have measurable : ∀ range ∈ [longest, longest, ⟨1, 0⟩], range.low ≤ range.high →
      range.high.toInt - range.low.toInt ≤ 2 ^ 63 - 1 := by decide +kernel
  refine ⟨boardCount, (elementCount_exact board).2 12 boardCount,
    (elementCount_exact ⟨_, "Integer"⟩).2 0 emptyCount, fun small => ?_⟩
  rcases (elementCount_exact ⟨[longest, longest, ⟨1, 0⟩], "Integer"⟩).1.2 ⟨measurable, small⟩ with
    ⟨count, counted⟩
  cases refused.symm.trans counted

end ArrayType

end UnitLinker
