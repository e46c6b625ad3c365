import Pmrp.Lib.Rounding
import Mathlib.Data.Nat.Log
import Mathlib.Tactic.GCongr

/-!
# `Lib.DecimalSpan` — the digits a decimal value can have

`Spans low high x` says that every digit of `x` stands between two powers of ten. Sums and products of such values
have such digits again, so that a chain of operations is exact in a context as soon as the last span is not wider
than the precision.

## Contents
- **Decimals.** A `Decimal` is a coefficient and an exponent; `digits` and `adjusted` are read off them.
- **Spans.** `Spans.mul`, `Spans.add`, `Spans.sub`, `Spans.div_pow` and `Spans.fits`.
-/

namespace Pmrp

/-! ## Decimals -/

/-- A finite decimal: its sign, its digits as a number, and its exponent. -/
structure Decimal where
  negative : Bool := false
  coefficient : ℕ
  exponent : ℤ
  deriving DecidableEq, Repr

namespace Decimal

variable (d : Decimal)

def signed : ℤ := if d.negative then -d.coefficient else d.coefficient

def value : ℚ := d.signed * 10 ^ d.exponent

/-- The number of digits of the coefficient; zero has one. -/
def digits : ℕ := Nat.log 10 d.coefficient + 1

/-- The exponent of the first digit. -/
def adjusted : ℤ := d.exponent + d.digits - 1

theorem abs_signed : |d.signed| = d.coefficient := by
  unfold signed
  split_ifs
  · rw [abs_neg, Nat.abs_cast]
  · exact Nat.abs_cast _

theorem signed_lt : |d.signed| < 10 ^ d.digits := by
  have hlt : d.coefficient < 10 ^ d.digits := Nat.lt_pow_succ_log_self (by norm_num) _
  rw [abs_signed]
  exact_mod_cast hlt

end Decimal

/-! ## Spans -/

/-- Every digit of `x` stands at `10 ^ low` or above and below `10 ^ high`. -/
structure Spans (low high : ℤ) (x : ℚ) : Prop where
  grid : ∃ n : ℤ, x = n * 10 ^ low
  lt : |x| < 10 ^ high

theorem Decimal.spans_digits (d : Decimal) : Spans d.exponent (d.exponent + d.digits) d.value where
  grid := ⟨d.signed, rfl⟩
  lt := by
    have hsigned : |(d.signed : ℚ)| < 10 ^ (d.digits : ℤ) := by exact_mod_cast d.signed_lt
    rw [Decimal.value, abs_mul, abs_of_pos (ten_zpow_pos d.exponent), zpow_add₀ (by norm_num : (10 : ℚ) ≠ 0), mul_comm]
    exact mul_lt_mul_of_pos_left hsigned (ten_zpow_pos d.exponent)

namespace Spans

variable {low high low' high' : ℤ} {x y : ℚ}

theorem zero : Spans low high 0 := ⟨⟨0, by simp⟩, by simpa using ten_zpow_pos high⟩

/-- Fewer digits are needed to span more. -/
theorem widen (h : Spans low high x) (hlow : low' ≤ low) (hhigh : high ≤ high') : Spans low' high' x := by
  obtain ⟨⟨n, rfl⟩, hlt⟩ := h
  obtain ⟨k, rfl⟩ : ∃ k : ℕ, low = low' + k := ⟨(low - low').toNat, by omega⟩
  refine ⟨⟨n * 10 ^ k, ?_⟩, hlt.trans_le (zpow_le_zpow_right₀ (by norm_num) hhigh)⟩
  rw [zpow_add₀ (by norm_num : (10 : ℚ) ≠ 0), zpow_natCast]
  push_cast
  ring

theorem mul (hx : Spans low high x) (hy : Spans low' high' y) : Spans (low + low') (high + high') (x * y) := by
  obtain ⟨⟨n, hn⟩, hlt⟩ := hx
  obtain ⟨⟨m, hm⟩, hlt'⟩ := hy
  refine ⟨⟨n * m, ?_⟩, ?_⟩
  · rw [hn, hm, zpow_add₀ (by norm_num : (10 : ℚ) ≠ 0)]
    push_cast
    ring
  · rw [abs_mul, zpow_add₀ (by norm_num : (10 : ℚ) ≠ 0)]
    exact mul_lt_mul'' hlt hlt' (abs_nonneg x) (abs_nonneg y)

/-- Dividing by a power of ten moves the digits. -/
theorem div_pow (h : Spans low high x) (k : ℕ) : Spans (low - k) (high - k) (x / 10 ^ k) := by
  obtain ⟨⟨n, hn⟩, hlt⟩ := h
  have hpow : (0 : ℚ) < 10 ^ k := by positivity
  refine ⟨⟨n, ?_⟩, ?_⟩
  · rw [hn, zpow_sub₀ (by norm_num : (10 : ℚ) ≠ 0), zpow_natCast]
    ring
  · rw [abs_div, abs_of_pos hpow, zpow_sub₀ (by norm_num : (10 : ℚ) ≠ 0), zpow_natCast]
    exact div_lt_div_of_pos_right hlt hpow

/-- One digit for the carry. -/
theorem add (hx : Spans low high x) (hy : Spans low high y) : Spans low (high + 1) (x + y) := by
  obtain ⟨⟨n, hn⟩, hlt⟩ := hx
  obtain ⟨⟨m, hm⟩, hlt'⟩ := hy
  refine ⟨⟨n + m, ?_⟩, ?_⟩
  · rw [hn, hm]
    push_cast
    ring
  · have hpow := ten_zpow_pos high
    have hcarry : (10 : ℚ) ^ (high + 1) = 10 * 10 ^ high := by
      rw [zpow_add₀ (by norm_num : (10 : ℚ) ≠ 0), zpow_one, mul_comm]
    calc |x + y| ≤ |x| + |y| := abs_add_le x y
      _ < 10 ^ high + 10 ^ high := add_lt_add hlt hlt'
      _ ≤ 10 ^ (high + 1) := by rw [hcarry]; linarith

theorem neg (h : Spans low high x) : Spans low high (-x) := by
  obtain ⟨⟨n, hn⟩, hlt⟩ := h
  exact ⟨⟨-n, by rw [hn]; push_cast; ring⟩, by rwa [abs_neg]⟩

theorem sub (hx : Spans low high x) (hy : Spans low high y) : Spans low (high + 1) (x - y) := by
  rw [sub_eq_add_neg]
  exact hx.add hy.neg

theorem abs (h : Spans low high x) : Spans low high |x| := by
  rcases abs_choice x with hx | hx <;> rw [hx]
  · exact h
  · exact h.neg

/-- **A span that is not wider than the precision is kept**, where it ends above the last digit of the context. -/
theorem fits (h : Spans low high x) {prec : ℕ} {hprec : 1 ≤ prec} {emin emax : ℤ} {hemin : emin ≤ 0}
    (hwide : high ≤ low + prec) (htiny : DecimalContext.etiny prec emin ≤ low) :
    (DecimalContext.halfEven prec hprec emin emax hemin).Fits x := by
  obtain ⟨⟨n, hn⟩, hlt⟩ := h.widen le_rfl hwide
  refine DecimalContext.fits_halfEven_iff.mpr ⟨n, low, ?_, htiny, hn⟩
  have hpow := ten_zpow_pos low
  rw [hn, abs_mul, abs_of_pos hpow, zpow_add₀ (by norm_num : (10 : ℚ) ≠ 0), mul_comm, zpow_natCast] at hlt
  exact_mod_cast lt_of_mul_lt_mul_left hlt hpow.le

/-- The first digit stands below the end of the span. -/
theorem log_lt (h : Spans low high x) (hx : x ≠ 0) : Int.log 10 |x| < high := by
  refine (Int.lt_zpow_iff_log_lt (b := 10) (by norm_num) (abs_pos.mpr hx)).mp ?_
  exact_mod_cast h.lt

end Spans
end Pmrp
