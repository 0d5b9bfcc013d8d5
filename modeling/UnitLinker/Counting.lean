/-!
# Counting

A search that ends because it keeps removing candidates needs to know that fewer
of them pass a stronger test.
-/

namespace UnitLinker

/-- A stronger test counts fewer elements, if some element tells the tests apart. -/
theorem countP_lt_countP {α : Type} {stronger weaker : α → Bool} {items : List α}
    (implies : ∀ item, stronger item = true → weaker item = true) (witness : α)
    (member : witness ∈ items) (passes : weaker witness = true)
    (fails : stronger witness = false) : items.countP stronger < items.countP weaker := by
  induction items with
  | nil => cases member
  | cons head tail ih =>
    rw [List.countP_cons, List.countP_cons]
    have tailLe : tail.countP stronger ≤ tail.countP weaker :=
      List.countP_mono_left fun item _ => implies item
    rcases List.mem_cons.1 member with rfl | later
    · rw [passes, fails]
      simp only [Bool.false_eq_true, ↓reduceIte]
      omega
    · have tailLt := ih later
      have headLe : (if stronger head = true then 1 else 0) ≤ if weaker head = true then 1 else 0 := by
        split
        · exact Nat.le_of_eq (if_pos (implies head ‹_›)).symm
        · omega
      omega

end UnitLinker
