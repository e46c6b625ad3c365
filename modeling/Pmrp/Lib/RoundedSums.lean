import Mathlib.Algebra.BigOperators.Group.List.Basic
import Pmrp.Lib.Rounding

/-!
# `Lib.RoundedSums` — running sums in a context

A sum in a context rounds after every addition. It is exact when every partial sum fits, and only if the sum itself
fits.
-/

namespace Pmrp
namespace DecimalContext

variable {ctx : DecimalContext}

/-- No partial sum from an accumulator on is rounded. -/
def PartialSumsFit (ctx : DecimalContext) (acc : ℚ) : List ℚ → Prop
  | [] => True
  | x :: xs => ctx.Fits (acc + x) ∧ PartialSumsFit ctx (acc + x) xs

theorem PartialSumsFit.foldl_add_eq {acc : ℚ} {xs : List ℚ} (h : ctx.PartialSumsFit acc xs) :
    xs.foldl ctx.add acc = acc + xs.sum := by
  induction xs generalizing acc with
  | nil => rw [List.foldl_nil, List.sum_nil, add_zero]
  | cons x xs ih =>
      obtain ⟨hfits, hrest⟩ := h
      have hadd : ctx.add acc x = acc + x := hfits
      rw [List.foldl_cons, hadd, ih hrest, List.sum_cons, add_assoc]

theorem PartialSumsFit.sum_eq {xs : List ℚ} (h : ctx.PartialSumsFit 0 xs) : ctx.sum xs = xs.sum := by
  rw [sum, h.foldl_add_eq, zero_add]

/-- A sum is a rounded value, or that of no values. -/
theorem fits_sum (xs : List ℚ) : ctx.Fits (ctx.sum xs) := by
  induction xs using List.reverseRecOn with
  | nil => exact fits_zero
  | append_singleton xs x =>
      rw [sum_append, List.foldl_cons, List.foldl_nil]
      exact fits_round _

end DecimalContext
end Pmrp
