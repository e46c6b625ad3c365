import Mathlib.Algebra.Order.Group.Nat
import Mathlib.Data.List.Basic
import Mathlib.Data.Nat.ModEq
import Mathlib.Tactic.Linarith
import Mathlib.Tactic.Ring

/-!
# `Lib.Numerals` — numbers as digits of a fixed count

The digits of a number in a base, most significant first and as many as asked for. Reading them back gives the number up
to the power of the base, and a spelling of digits that keeps their order keeps the order of the numbers.
-/

namespace Pmrp
namespace Numerals

variable {α : Type} {base count value other : ℕ}

/-- The last `count` digits of `value`. -/
def digits (base : ℕ) : ℕ → ℕ → List ℕ
  | 0, _ => []
  | count + 1, value => value / base ^ count % base :: digits base count value

@[simp] theorem length_digits : (digits base count value).length = count := by
  induction count with
  | zero => rfl
  | succ count ih => rw [digits, List.length_cons, ih]

theorem lt_of_mem_digits (hbase : 0 < base) {digit : ℕ} (h : digit ∈ digits base count value) : digit < base := by
  induction count with
  | zero => cases h
  | succ count ih =>
      rcases List.mem_cons.mp h with rfl | hrest
      · exact Nat.mod_lt _ hbase
      · exact ih hrest

/-- The places below the first digit and the first digit. -/
theorem mod_pow_succ (value : ℕ) :
    value % base ^ (count + 1) = base ^ count * (value / base ^ count % base) + value % base ^ count := by
  rw [Nat.mod_pow_succ, Nat.add_comm]

/-- The number that these digits continue. -/
theorem foldl_digits (start : ℕ) :
    (digits base count value).foldl (fun number digit => number * base + digit) start =
      start * base ^ count + value % base ^ count := by
  induction count generalizing start with
  | zero => simp [digits, Nat.mod_one]
  | succ count ih =>
      rw [digits, List.foldl_cons, ih, mod_pow_succ, pow_succ]
      ring

/-- Digits are in the order of the numbers, however they are spelled in that order. -/
theorem map_digits_lt [LT α] {spell : ℕ → α} (hspell : ∀ d e, d < e → e < base → spell d < spell e)
    (hbase : 0 < base) (h : value % base ^ count < other % base ^ count) :
    (digits base count value).map spell < (digits base count other).map spell := by
  induction count with
  | zero =>
      rw [pow_zero, Nat.mod_one, Nat.mod_one] at h
      exact absurd h (lt_irrefl 0)
  | succ count ih =>
      rw [digits, digits, List.map_cons, List.map_cons, List.cons_lt_cons_iff]
      rw [mod_pow_succ, mod_pow_succ] at h
      rcases lt_trichotomy (value / base ^ count % base) (other / base ^ count % base) with hlt | heq | hgt
      · exact Or.inl (hspell _ _ hlt (Nat.mod_lt _ hbase))
      · rw [heq] at h ⊢
        exact Or.inr ⟨rfl, ih (Nat.lt_of_add_lt_add_left h)⟩
      · -- a greater first digit outweighs all the places below
        have hrest : other % base ^ count < base ^ count := Nat.mod_lt _ (Nat.pow_pos hbase)
        have hdigit := Nat.mul_le_mul_left (base ^ count) (Nat.succ_le_of_lt hgt)
        rw [Nat.mul_succ] at hdigit
        linarith [Nat.zero_le (value % base ^ count)]

end Numerals
end Pmrp
