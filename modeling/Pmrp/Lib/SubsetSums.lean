import Mathlib.Algebra.Order.BigOperators.Group.Finset
import Mathlib.Algebra.Order.Group.Abs
import Mathlib.Tactic.Abel
import Mathlib.Tactic.Common

/-!
# `Lib.SubsetSums` — what a sum over an unknown part of a set can be

Some of the signed contributions `δ i` of a set will happen, and nobody knows which. The worst cases are the
part with all the positive ones and the part with all the negative ones.
-/

namespace Pmrp

variable {ι α : Type*} [AddCommGroup α] [LinearOrder α] [IsOrderedAddMonoid α]
variable {s t : Finset ι} {δ : ι → α} {a M : α}

/-- No part sums to more than the positive contributions. -/
theorem sum_subset_le_sum_pos (h : t ⊆ s) : ∑ i ∈ t, δ i ≤ ∑ i ∈ s with 0 < δ i, δ i := by
  have hrest : ∑ i ∈ t with ¬0 < δ i, δ i ≤ 0 :=
    Finset.sum_nonpos fun i hi => not_lt.mp (Finset.mem_filter.mp hi).2
  have hmore : ∑ i ∈ t with 0 < δ i, δ i ≤ ∑ i ∈ s with 0 < δ i, δ i :=
    Finset.sum_le_sum_of_subset_of_nonneg (Finset.filter_subset_filter _ h)
      fun i hi _ => (Finset.mem_filter.mp hi).2.le
  calc ∑ i ∈ t, δ i
      = ∑ i ∈ t with 0 < δ i, δ i + ∑ i ∈ t with ¬0 < δ i, δ i :=
        (Finset.sum_filter_add_sum_filter_not _ _ _).symm
    _ ≤ ∑ i ∈ t with 0 < δ i, δ i + 0 := add_le_add le_rfl hrest
    _ ≤ ∑ i ∈ s with 0 < δ i, δ i := by rwa [add_zero]

/-- No part sums to less than the negative contributions. -/
theorem sum_neg_le_sum_subset (h : t ⊆ s) : ∑ i ∈ s with δ i < 0, δ i ≤ ∑ i ∈ t, δ i := by
  have hneg := sum_subset_le_sum_pos (δ := fun i => -δ i) h
  simp only [Left.neg_pos_iff, Finset.sum_neg_distrib] at hneg
  exact neg_le_neg_iff.mp hneg

/-- **The two worst cases decide.** Every part keeps `a` within `M` exactly when the two extreme parts do. -/
theorem forall_subset_abs_le_iff :
    (∀ t ⊆ s, |a + ∑ i ∈ t, δ i| ≤ M) ↔
      a + ∑ i ∈ s with 0 < δ i, δ i ≤ M ∧ -M ≤ a + ∑ i ∈ s with δ i < 0, δ i := by
  constructor
  · intro h
    exact ⟨(abs_le.mp (h _ (Finset.filter_subset _ _))).2, (abs_le.mp (h _ (Finset.filter_subset _ _))).1⟩
  · rintro ⟨hpos, hneg⟩ t ht
    have hle : a + ∑ i ∈ t, δ i ≤ a + ∑ i ∈ s with 0 < δ i, δ i :=
      add_le_add le_rfl (sum_subset_le_sum_pos ht)
    have hge : a + ∑ i ∈ s with δ i < 0, δ i ≤ a + ∑ i ∈ t, δ i :=
      add_le_add le_rfl (sum_neg_le_sum_subset ht)
    exact abs_le.mpr ⟨hneg.trans hge, hle.trans hpos⟩

/-- What the whole keeps within `M`, a part exceeds by no more than what was left out. -/
theorem abs_add_sum_subset_le [DecidableEq ι] (hall : |a + ∑ i ∈ s, δ i| ≤ M) (h : t ⊆ s) :
    |a + ∑ i ∈ t, δ i| ≤ M + |∑ i ∈ s \ t, δ i| := by
  have hsplit : a + ∑ i ∈ t, δ i = (a + ∑ i ∈ s, δ i) - ∑ i ∈ s \ t, δ i := by
    rw [← Finset.sum_sdiff h]; abel
  calc |a + ∑ i ∈ t, δ i|
      ≤ |a + ∑ i ∈ s, δ i| + |∑ i ∈ s \ t, δ i| := by rw [hsplit]; exact abs_sub _ _
    _ ≤ M + |∑ i ∈ s \ t, δ i| := by gcongr

end Pmrp
