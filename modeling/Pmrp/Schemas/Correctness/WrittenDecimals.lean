import Pmrp.Schemas.Primitives

/-!
# `Schemas.Correctness.WrittenDecimals` — the decimals that the default context writes

A value with at most 28 digits whose exponents are in range is left as it is by every operation that gives it.

## Contents
- **Digits.** `InDigits`, `Written`, `OnDigits`, `Written.onDigits`.
- **What the context does.** `fits_default_iff`, `round_eq_of_written`, `not_overflows_of_written`,
  `eq_zero_of_round_eq_zero`.
-/

namespace Pmrp

/-- The exponent of the last digit the default context writes: that of its smallest subnormal number. -/
def lastDigit : ℤ := -1000026

/-- At most 28 significant digits, the last at `1E-1000026` or before. -/
def InDigits (x : ℚ) : Prop := ∃ n k : ℤ, |n| < 10 ^ 28 ∧ lastDigit ≤ k ∧ x = n * 10 ^ k

/-- That, and below `1E+1000000`. -/
structure Written (x : ℚ) : Prop where
  digits : InDigits x
  lt : |x| < 10 ^ (1000000 : ℤ)

/-- No digit stands below `1E-1000026`. -/
def OnDigits (x : ℚ) : Prop := ∃ n : ℤ, x = n * 10 ^ lastDigit

theorem defaultContext_prec : defaultContext.prec = some 28 := rfl

theorem etiny_default : DecimalContext.etiny 28 (-999999) = lastDigit := by decide

theorem Written.onDigits {x : ℚ} (h : Written x) : OnDigits x := by
  obtain ⟨n, k, -, hk, rfl⟩ := h.digits
  obtain ⟨j, rfl⟩ : ∃ j : ℕ, k = lastDigit + j := ⟨(k - lastDigit).toNat, by omega⟩
  refine ⟨n * 10 ^ j, ?_⟩
  rw [zpow_add₀ (by norm_num : (10 : ℚ) ≠ 0), zpow_natCast]
  push_cast
  ring

/-- The values that the context leaves as they are. -/
theorem fits_default_iff {x : ℚ} : defaultContext.Fits x ↔ InDigits x := by
  constructor
  · intro h
    obtain ⟨n, k, hn, hk, hx⟩ := DecimalContext.fits_halfEven_iff.mp h
    exact ⟨n, k, hn, etiny_default.ge.trans hk, hx⟩
  · rintro ⟨n, k, hn, hk, hx⟩
    exact DecimalContext.fits_halfEven_iff.mpr ⟨n, k, hn, etiny_default.trans_le hk, hx⟩

theorem round_eq_of_written {x : ℚ} (h : Written x) : defaultContext.round x = x := fits_default_iff.mpr h.digits

theorem not_overflows_of_written {x : ℚ} (h : Written x) : defaultContext.overflows x = false := by
  show decide ((999999 : ℤ) < Int.log 10 |defaultContext.round x|) = false
  rw [round_eq_of_written h, decide_eq_false_iff_not, not_lt]
  by_cases hx : x = 0
  · rw [hx, abs_zero, Int.log_of_right_le_zero 10 le_rfl]
    decide
  · have hlog : Int.log 10 |x| < 1000000 :=
      (Int.lt_zpow_iff_log_lt (b := 10) (by norm_num) (abs_pos.mpr hx)).mp (by simpa only [Nat.cast_ofNat] using h.lt)
    omega

/-- What has no digit below the last is not rounded to zero. -/
theorem eq_zero_of_round_eq_zero {x : ℚ} (h : OnDigits x) (hzero : defaultContext.round x = 0) : x = 0 := by
  obtain ⟨n, rfl⟩ := h
  by_contra hne
  refine DecimalContext.round_ne_zero_of_tiny_le ?_ hzero
  have hn : n ≠ 0 := by
    rintro rfl
    exact hne (by rw [Int.cast_zero, zero_mul])
  have hone : (1 : ℚ) ≤ |(n : ℚ)| := by exact_mod_cast Int.one_le_abs hn
  rw [etiny_default, abs_mul, abs_of_pos (ten_zpow_pos _)]
  exact le_mul_of_one_le_left (ten_zpow_pos _).le hone

theorem written_shortDecimal (n k : ℤ) (h : |n| < 10 ^ 28) (hlow : lastDigit ≤ k) (hhigh : k ≤ 999972) :
    Written (n * 10 ^ k) := by
  refine ⟨⟨n, k, h, hlow, rfl⟩, ?_⟩
  have hn : |(n : ℚ)| < 10 ^ (28 : ℤ) := by exact_mod_cast h
  calc |(n : ℚ) * 10 ^ k| = |(n : ℚ)| * 10 ^ k := by rw [abs_mul, abs_of_pos (ten_zpow_pos k)]
    _ < 10 ^ (28 : ℤ) * 10 ^ k := mul_lt_mul_of_pos_right hn (ten_zpow_pos k)
    _ = 10 ^ (28 + k) := (zpow_add₀ (by norm_num) _ _).symm
    _ ≤ 10 ^ (1000000 : ℤ) := zpow_le_zpow_right₀ (by norm_num) (by omega)

/-- Decimals with a numerator of at most 28 digits. -/
theorem written_div {x : ℚ} (n : ℤ) (k : ℕ) (h : |n| < 10 ^ 28) (hk : k ≤ 1000026) (hx : x = n / 10 ^ k) :
    Written x := by
  rw [hx, div_eq_mul_inv, ← zpow_natCast, ← zpow_neg]
  refine written_shortDecimal n (-k) h ?_ ?_
  · unfold lastDigit
    omega
  · omega

end Pmrp
