import Mathlib.Algebra.Order.Field.Basic
import Mathlib.Algebra.Order.Ring.Abs
import Mathlib.Tactic.Linarith
import Mathlib.Tactic.Ring
import Mathlib.Tactic.FieldSimp

/-!
# `Lib.AverageCost` — weighted-average inventory accounting

An inventory holds a signed quantity at an average price. A trade in the direction of the inventory
re-averages it; a trade against it closes at the average, books the difference as realized profit, and
opens the remainder, if any, at its own price. Everything is over a linearly ordered field.

## Contents
- **The inventory.** `Inventory.apply` with its parts `closed` and `opened`.
- **Conservation.** `apply_realized_sub_cost`: realized profit less book cost moves by the cash paid.
- **The average.** `Between.apply`: the average stays within the prices of the trades since the inventory
  was last flat or flipped, tracked by `nextEpoch`.
-/

namespace Pmrp
namespace AverageCost

variable {K : Type*} [LinearOrder K]

/-- `a` lies between the least and the greatest of `prices`. -/
def Between (prices : List K) (a : K) : Prop := (∃ p ∈ prices, p ≤ a) ∧ ∃ p ∈ prices, a ≤ p

theorem Between.append {prices : List K} {a : K} (h : Between prices a) (more : List K) :
    Between (prices ++ more) a := by
  obtain ⟨⟨p, hp, hpa⟩, q, hq, haq⟩ := h
  exact ⟨⟨p, List.mem_append_left _ hp, hpa⟩, q, List.mem_append_left _ hq, haq⟩

variable [Field K]

/-- A trade of a signed quantity at a price. -/
structure Trade (K : Type*) where
  quantity : K
  price : K

/-- A signed quantity at an average price, with the profit realized so far. -/
@[ext] structure Inventory (K : Type*) where
  quantity : K
  average : K
  realized : K

/-- `1` for a purchase, `-1` for a sale. -/
def Trade.dir (t : Trade K) : K := if 0 < t.quantity then 1 else -1

namespace Inventory

/-- What the quantity is carried at. -/
def cost (i : Inventory K) : K := i.quantity * i.average

/-- The part of the trade that closes inventory. -/
def closed (i : Inventory K) (t : Trade K) : K :=
  if i.quantity * t.quantity < 0 then min |i.quantity| |t.quantity| else 0

/-- The part of the trade that opens inventory. -/
def opened (i : Inventory K) (t : Trade K) : K := |t.quantity| - i.closed t

/-- The inventory after a trade. -/
def apply (i : Inventory K) (t : Trade K) : Inventory K where
  quantity := i.quantity + t.quantity
  average :=
    if i.quantity + t.quantity = 0 then 0
    else if 0 < i.quantity * t.quantity then
      (|i.quantity| * i.average + |t.quantity| * t.price) / |i.quantity + t.quantity|
    else if 0 < i.quantity * (i.quantity + t.quantity) then i.average
    else t.price
  realized := i.realized - t.dir * i.closed t * (t.price - i.average)

@[simp] theorem apply_quantity (i : Inventory K) (t : Trade K) :
    (i.apply t).quantity = i.quantity + t.quantity := rfl

@[simp] theorem apply_realized (i : Inventory K) (t : Trade K) :
    (i.apply t).realized = i.realized - t.dir * i.closed t * (t.price - i.average) := rfl

end Inventory

/-- The trades since the inventory was last flat or flipped, after one more trade `x` of quantity `q`. -/
def nextEpoch {α : Type*} (Q q : K) (epoch : List α) (x : α) : List α :=
  if Q + q = 0 then [] else if 0 < Q * (Q + q) then epoch ++ [x] else [x]

theorem map_nextEpoch {α β : Type*} (f : α → β) (Q q : K) (epoch : List α) (x : α) :
    (nextEpoch Q q epoch x).map f = nextEpoch Q q (epoch.map f) (f x) := by
  unfold nextEpoch; split_ifs <;> simp

/-! ## Conservation -/

variable [IsStrictOrderedRing K]

theorem Trade.dir_mul_abs (t : Trade K) : t.dir * |t.quantity| = t.quantity := by
  unfold Trade.dir
  split_ifs with h
  · rw [abs_of_pos h, one_mul]
  · rw [abs_of_nonpos (not_lt.mp h)]; ring

namespace Inventory

/-- A trade moves the book cost by what it closes at the average and what it opens at its price. -/
theorem apply_cost (i : Inventory K) (t : Trade K) :
    (i.apply t).cost = i.cost + t.dir * (i.closed t * i.average + i.opened t * t.price) := by
  obtain ⟨Q, a, r⟩ := i
  obtain ⟨q, p⟩ := t
  have hdir := Trade.dir_mul_abs (⟨q, p⟩ : Trade K)
  simp only [cost, apply, opened, closed, Trade.dir] at hdir ⊢
  rcases lt_trichotomy (Q * q) 0 with hopp | hzero | hsame
  · -- against the inventory: the smaller of the two quantities closes
    rw [if_pos hopp, if_neg (not_lt.mpr hopp.le)]
    rcases mul_neg_iff.mp hopp with ⟨hQ, hq⟩ | ⟨hQ, hq⟩
    · rw [abs_of_pos hQ, abs_of_neg hq, if_neg (not_lt.mpr hq.le)]
      rcases lt_trichotomy (Q + q) 0 with h | h | h
      · rw [if_neg h.ne, if_neg (not_lt.mpr (mul_nonpos_of_nonneg_of_nonpos hQ.le h.le)),
          min_eq_left (by linarith)]; ring
      · rw [if_pos h, min_eq_left (by linarith), show q = -Q by linarith]; ring
      · rw [if_neg h.ne', if_pos (mul_pos hQ h), min_eq_right (by linarith)]; ring
    · rw [abs_of_neg hQ, abs_of_pos hq, if_pos hq]
      rcases lt_trichotomy (Q + q) 0 with h | h | h
      · rw [if_neg h.ne, if_pos (mul_pos_of_neg_of_neg hQ h), min_eq_right (by linarith)]; ring
      · rw [if_pos h, min_eq_left (by linarith), show q = -Q by linarith]; ring
      · rw [if_neg h.ne', if_neg (not_lt.mpr (mul_nonpos_of_nonpos_of_nonneg hQ.le h.le)),
          min_eq_left (by linarith)]; ring
  · -- one of the two quantities is zero: nothing closes
    rw [if_neg hzero.not_lt, if_neg hzero.not_gt]
    rcases mul_eq_zero.mp hzero with rfl | rfl
    · simp only [zero_mul, zero_add, sub_zero, lt_irrefl, if_false]
      rw [← mul_assoc, hdir]
      split_ifs with h
      · rw [h]; ring
      · rfl
    · rw [add_zero, abs_zero]
      rcases eq_or_ne Q 0 with rfl | hQ
      · rw [if_pos rfl]; ring
      · rw [if_neg hQ, if_pos (mul_self_pos.mpr hQ)]; ring
  · -- with the inventory: the average is re-weighted
    rw [if_neg (not_lt.mpr hsame.le), if_pos hsame]
    rcases mul_pos_iff.mp hsame with ⟨hQ, hq⟩ | ⟨hQ, hq⟩
    · have hsum : 0 < Q + q := add_pos hQ hq
      rw [if_neg hsum.ne', abs_of_pos hQ, abs_of_pos hq, abs_of_pos hsum, if_pos hq]
      field_simp
      ring
    · have hsum : Q + q < 0 := add_neg hQ hq
      rw [if_neg hsum.ne, abs_of_neg hQ, abs_of_neg hq, abs_of_neg hsum, if_neg (not_lt.mpr hq.le)]
      have hne : Q + q ≠ 0 := hsum.ne
      field_simp
      ring

/-- **Cash conservation.** Realized profit less book cost moves by the cash the trade pays out. -/
theorem apply_realized_sub_cost (i : Inventory K) (t : Trade K) :
    (i.apply t).realized - (i.apply t).cost = i.realized - i.cost - t.quantity * t.price := by
  have hq : t.quantity * t.price = t.dir * (i.closed t + i.opened t) * t.price := by
    rw [opened, add_sub_cancel, Trade.dir_mul_abs]
  rw [apply_cost, apply_realized, hq]
  ring

end Inventory

/-! ## The average lies among the prices paid -/

/-- A weighted mean with a new price stays between the old prices and the new one. -/
theorem Between.mean {prices : List K} {a p w v : K} (h : Between prices a) (hw : 0 < w) (hv : 0 < v) :
    Between (prices ++ [p]) ((w * a + v * p) / (w + v)) := by
  obtain ⟨⟨lo, hlo, hloa⟩, hi, hhi, hahi⟩ := h
  have hsum : 0 < w + v := add_pos hw hv
  rcases le_total a p with hap | hpa
  · refine ⟨⟨lo, List.mem_append_left _ hlo, ?_⟩, p, by simp, ?_⟩
    · rw [le_div_iff₀ hsum]; nlinarith
    · rw [div_le_iff₀ hsum]; nlinarith
  · refine ⟨⟨p, by simp, ?_⟩, hi, List.mem_append_left _ hhi, ?_⟩
    · rw [le_div_iff₀ hsum]; nlinarith
    · rw [div_le_iff₀ hsum]; nlinarith

/-- **The average stays among the prices** of the trades since the inventory was last flat or flipped. -/
theorem Between.apply {i : Inventory K} {t : Trade K} {prices : List K}
    (h : i.quantity ≠ 0 → Between prices i.average) (hopen : (i.apply t).quantity ≠ 0) :
    Between (nextEpoch i.quantity t.quantity prices t.price) (i.apply t).average := by
  rw [Inventory.apply_quantity] at hopen
  simp only [Inventory.apply, nextEpoch, if_neg hopen]
  by_cases hsame : 0 < i.quantity * t.quantity
  · -- re-averaging keeps the side, so the epoch grows by this trade
    have hQ : i.quantity ≠ 0 := left_ne_zero_of_mul hsame.ne'
    have hside : 0 < i.quantity * (i.quantity + t.quantity) := by
      rw [mul_add]; exact add_pos (mul_self_pos.mpr hQ) hsame
    have habs : |i.quantity + t.quantity| = |i.quantity| + |t.quantity| := by
      rcases mul_pos_iff.mp hsame with ⟨h1, h2⟩ | ⟨h1, h2⟩
      · rw [abs_of_pos h1, abs_of_pos h2, abs_of_pos (add_pos h1 h2)]
      · rw [abs_of_neg h1, abs_of_neg h2, abs_of_neg (add_neg h1 h2)]; ring
    rw [if_pos hsame, if_pos hside, habs]
    exact (h hQ).mean (abs_pos.mpr hQ) (abs_pos.mpr (right_ne_zero_of_mul hsame.ne'))
  · rw [if_neg hsame]
    by_cases hside : 0 < i.quantity * (i.quantity + t.quantity)
    · rw [if_pos hside, if_pos hside]
      exact (h (left_ne_zero_of_mul hside.ne')).append _
    · rw [if_neg hside, if_neg hside]
      exact ⟨⟨t.price, by simp, le_rfl⟩, t.price, by simp, le_rfl⟩

end AverageCost
end Pmrp
