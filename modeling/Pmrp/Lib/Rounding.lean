import Mathlib.Data.Int.Log
import Mathlib.Data.Rat.Floor
import Mathlib.Algebra.Order.Floor.Ring
import Mathlib.Tactic.Linarith
import Mathlib.Tactic.Ring
import Mathlib.Tactic.FieldSimp
import Mathlib.Tactic.Positivity
import Mathlib.Tactic.NormNum

/-!
# `Lib.Rounding` — decimal arithmetic as rational arithmetic with a rounding step

A decimal context computes the exact rational result of an operation and then rounds it once. Only the
*value* of a decimal matters to comparison and to the next operation, so a decimal is its rational value
here and a context is the function applied to every exact result.

## Contents
- **Half-even rounding.** `roundHalfEven` to integers and `roundSig prec tiny` to `prec` significant digits, none of
  them below the exponent `tiny`.
- **Contexts.** `DecimalContext` packages a rounding function with the laws every proof uses and says which exact
  results overflow. `DecimalContext.exact` rounds nothing; `DecimalContext.halfEven prec` keeps `prec` digits, loses
  what is below its least exponent and overflows above its greatest. The operations give the rounded value, and `trap`
  raises for a result that overflows. `rem` has no value when the quotient is too long.
- **Representable values.** `Fits ctx x` says that `x` survives the context unchanged, and `fits_halfEven_iff` reads it
  as a count of digits.
-/

namespace Pmrp

/-! ## Rounding to an integer, ties to even -/

/-- The nearest integer, the even one when two are equally near. -/
def roundHalfEven (x : ℚ) : ℤ :=
  if x - ⌊x⌋ < 1 / 2 then ⌊x⌋
  else if 1 / 2 < x - ⌊x⌋ then ⌊x⌋ + 1
  else if Even ⌊x⌋ then ⌊x⌋
  else ⌊x⌋ + 1

theorem roundHalfEven_intCast (n : ℤ) : roundHalfEven (n : ℚ) = n := by
  simp [roundHalfEven]

/-- Rounding lands on the floor or the next integer, and on the floor when `x` is an integer. -/
theorem roundHalfEven_cases (x : ℚ) :
    roundHalfEven x = ⌊x⌋ ∨ (roundHalfEven x = ⌊x⌋ + 1 ∧ (⌊x⌋ : ℚ) < x) := by
  unfold roundHalfEven
  split_ifs with h1 h2 h3
  · exact Or.inl rfl
  · exact Or.inr ⟨rfl, by linarith⟩
  · exact Or.inl rfl
  · exact Or.inr ⟨rfl, by linarith⟩

/-- Rounding does not cross an integer from above. -/
theorem le_roundHalfEven {n : ℤ} {x : ℚ} (h : (n : ℚ) ≤ x) : n ≤ roundHalfEven x := by
  have hf : n ≤ ⌊x⌋ := Int.le_floor.mpr h
  rcases roundHalfEven_cases x with he | ⟨he, _⟩ <;> omega

/-- Rounding does not cross an integer from below. -/
theorem roundHalfEven_le {n : ℤ} {x : ℚ} (h : x ≤ (n : ℚ)) : roundHalfEven x ≤ n := by
  rcases roundHalfEven_cases x with he | ⟨he, hlt⟩
  · rw [he]; exact_mod_cast (Int.floor_le x).trans h
  · have : (⌊x⌋ : ℚ) < n := lt_of_lt_of_le hlt h
    rw [he]; exact_mod_cast this

/-- Rounding keeps the order. -/
theorem roundHalfEven_mono {x y : ℚ} (h : x ≤ y) : roundHalfEven x ≤ roundHalfEven y := by
  rcases (Int.floor_le_floor h).lt_or_eq with hlt | heq
  · -- an integer lies between the two
    have hx : roundHalfEven x ≤ ⌊x⌋ + 1 := by rcases roundHalfEven_cases x with he | ⟨he, -⟩ <;> omega
    have hy : ⌊y⌋ ≤ roundHalfEven y := by rcases roundHalfEven_cases y with he | ⟨he, -⟩ <;> omega
    omega
  · unfold roundHalfEven
    rw [heq]
    split_ifs <;> first | omega | linarith

/-! ## Rounding to significant digits -/

/-- The exponent of the last kept digit of a positive `x`: the `prec`-th digit, and none below `tiny`. -/
def quantum (prec : ℕ) (tiny : ℤ) (x : ℚ) : ℤ := max (Int.log 10 x - (prec - 1)) tiny

/-- A positive `x` rounded to `prec` significant digits, none of them below `tiny`. -/
def roundPos (prec : ℕ) (tiny : ℤ) (x : ℚ) : ℚ :=
  roundHalfEven (x / 10 ^ quantum prec tiny x) * 10 ^ quantum prec tiny x

/-- `x` rounded to `prec` significant digits, none of them below `tiny`, half to even. -/
def roundSig (prec : ℕ) (tiny : ℤ) (x : ℚ) : ℚ :=
  if x = 0 then 0 else if x < 0 then -roundPos prec tiny (-x) else roundPos prec tiny x

theorem ten_zpow_pos (e : ℤ) : (0 : ℚ) < 10 ^ e := zpow_pos (by norm_num) e

section RoundPos

variable {prec : ℕ} {tiny : ℤ} {x y : ℚ}

theorem le_quantum (prec : ℕ) (tiny : ℤ) (x : ℚ) : tiny ≤ quantum prec tiny x := le_max_right _ _

/-- The scaled coefficient of a positive `x` has at most `prec` digits before the point. -/
theorem coefficient_lt (prec : ℕ) (tiny : ℤ) (x : ℚ) : x / 10 ^ quantum prec tiny x < 10 ^ (prec : ℤ) := by
  have hhi : x < (10 : ℚ) ^ (Int.log 10 x + 1) := by
    exact_mod_cast Int.lt_zpow_succ_log_self (b := 10) (by norm_num) x
  have hle : Int.log 10 x + 1 ≤ prec + quantum prec tiny x := by
    have h := le_max_left (Int.log 10 x - (prec - 1)) tiny
    unfold quantum
    omega
  rw [div_lt_iff₀ (ten_zpow_pos _), ← zpow_add₀ (by norm_num : (10 : ℚ) ≠ 0)]
  exact hhi.trans_le (zpow_le_zpow_right₀ (by norm_num) hle)

/-- A value written with a coefficient below `10 ^ prec` and no digit below `tiny` is not changed by rounding. -/
theorem roundPos_of_lt {n : ℕ} {k : ℤ} (hn : 0 < n) (hlt : n < 10 ^ prec) (htiny : tiny ≤ k) :
    roundPos prec tiny ((n : ℚ) * 10 ^ k) = (n : ℚ) * 10 ^ k := by
  set x : ℚ := (n : ℚ) * 10 ^ k with hx
  have hxpos : 0 < x := mul_pos (by exact_mod_cast hn) (ten_zpow_pos k)
  have hbig : x < (10 : ℚ) ^ ((prec : ℤ) + k) := by
    rw [hx, zpow_add₀ (by norm_num : (10 : ℚ) ≠ 0)]
    exact mul_lt_mul_of_pos_right (by exact_mod_cast hlt) (ten_zpow_pos k)
  have hlog : Int.log 10 x < (prec : ℤ) + k :=
    (Int.lt_zpow_iff_log_lt (b := 10) (by norm_num) hxpos).mp (by exact_mod_cast hbig)
  -- the kept digits reach at least as far as the exponent `k`, so the scaled value is an integer
  have hle : quantum prec tiny x ≤ k := max_le (by omega) htiny
  unfold roundPos
  generalize quantum prec tiny x = e at hle
  obtain ⟨j, rfl⟩ : ∃ j : ℕ, k = e + j := ⟨(k - e).toNat, by omega⟩
  have hscaled : x / 10 ^ e = ((n * 10 ^ j : ℕ) : ℤ) := by
    rw [hx, div_eq_iff (ten_zpow_pos e).ne', zpow_add₀ (by norm_num : (10 : ℚ) ≠ 0), zpow_natCast]
    push_cast
    ring
  rw [hscaled, roundHalfEven_intCast, ← hscaled, div_mul_cancel₀ _ (ten_zpow_pos e).ne']

/-- Rounding a positive value gives a coefficient of at most `10 ^ prec`. -/
theorem roundPos_eq (prec : ℕ) (tiny : ℤ) (hx : 0 < x) :
    ∃ n : ℕ, n ≤ 10 ^ prec ∧ roundPos prec tiny x = (n : ℚ) * 10 ^ quantum prec tiny x := by
  have h0 : 0 ≤ roundHalfEven (x / 10 ^ quantum prec tiny x) :=
    le_roundHalfEven (by exact_mod_cast (div_pos hx (ten_zpow_pos _)).le)
  have h2 : roundHalfEven (x / 10 ^ quantum prec tiny x) ≤ ((10 ^ prec : ℕ) : ℤ) :=
    roundHalfEven_le (by push_cast; exact_mod_cast (coefficient_lt prec tiny x).le)
  obtain ⟨n, hn⟩ : ∃ n : ℕ, roundHalfEven (x / 10 ^ quantum prec tiny x) = n :=
    ⟨_, (Int.toNat_of_nonneg h0).symm⟩
  rw [hn] at h2
  refine ⟨n, by exact_mod_cast h2, ?_⟩
  unfold roundPos; rw [hn]; push_cast; rfl

theorem roundPos_nonneg (hx : 0 < x) : 0 ≤ roundPos prec tiny x := by
  obtain ⟨n, -, he⟩ := roundPos_eq prec tiny hx
  rw [he]; exact mul_nonneg (Nat.cast_nonneg n) (ten_zpow_pos _).le

/-- What reaches the last digit is not rounded to zero. -/
theorem roundPos_pos (hprec : 1 ≤ prec) (hx : (10 : ℚ) ^ tiny ≤ x) : 0 < roundPos prec tiny x := by
  have hxpos : 0 < x := (ten_zpow_pos tiny).trans_le hx
  have hlo : (10 : ℚ) ^ quantum prec tiny x ≤ x := by
    rcases max_choice (Int.log 10 x - (prec - 1)) tiny with h | h <;> rw [quantum, h]
    · have hlog : (10 : ℚ) ^ Int.log 10 x ≤ x := by
        exact_mod_cast Int.zpow_log_le_self (b := 10) (r := x) (by norm_num) hxpos
      exact (zpow_le_zpow_right₀ (by norm_num) (by omega)).trans hlog
    · exact hx
  have hone : 1 ≤ roundHalfEven (x / 10 ^ quantum prec tiny x) :=
    le_roundHalfEven (by rw [Int.cast_one]; exact (one_le_div₀ (ten_zpow_pos _)).mpr hlo)
  exact mul_pos (by exact_mod_cast hone) (ten_zpow_pos _)

/-- Rounding twice is rounding once. -/
theorem roundPos_roundPos (hprec : 1 ≤ prec) (hx : 0 < x) (hpos : 0 < roundPos prec tiny x) :
    roundPos prec tiny (roundPos prec tiny x) = roundPos prec tiny x := by
  obtain ⟨n, hle, he⟩ := roundPos_eq prec tiny hx
  have hn : 0 < n := by
    rcases Nat.eq_zero_or_pos n with rfl | hn
    · rw [he, Nat.cast_zero, zero_mul] at hpos
      exact absurd hpos (lt_irrefl 0)
    · exact hn
  have htiny := le_quantum prec tiny x
  rw [he]
  rcases Nat.lt_or_eq_of_le hle with hlt | rfl
  · exact roundPos_of_lt hn hlt htiny
  · -- the coefficient carried to `10 ^ prec`: one digit suffices, at a larger exponent
    have hcarry : (((10 ^ prec : ℕ) : ℚ)) * 10 ^ quantum prec tiny x
        = ((1 : ℕ) : ℚ) * 10 ^ ((prec : ℤ) + quantum prec tiny x) := by
      rw [zpow_add₀ (by norm_num : (10 : ℚ) ≠ 0), zpow_natCast]; push_cast; ring
    rw [hcarry]
    exact roundPos_of_lt Nat.one_pos (Nat.one_lt_pow (by omega) (by norm_num)) (by omega)

theorem roundPos_mono (hprec : 1 ≤ prec) (hx : 0 < x) (h : x ≤ y) : roundPos prec tiny x ≤ roundPos prec tiny y := by
  have hlog : Int.log 10 x ≤ Int.log 10 y := Int.log_mono_right hx h
  have hquantum : quantum prec tiny x ≤ quantum prec tiny y := max_le_max_right tiny (by omega)
  rcases hquantum.lt_or_eq with hlt | heq
  · -- the digits of `y` start higher: a power of ten lies between the two
    have hq : quantum prec tiny y = Int.log 10 y - (prec - 1) := by
      have hx' := le_quantum prec tiny x
      unfold quantum at hlt hx' ⊢
      omega
    have hbelow : roundPos prec tiny x ≤ 10 ^ Int.log 10 y := by
      obtain ⟨n, hn, he⟩ := roundPos_eq prec tiny hx
      have hn' : (n : ℚ) ≤ 10 ^ (prec : ℤ) := by
        rw [zpow_natCast]
        exact_mod_cast hn
      calc roundPos prec tiny x = n * 10 ^ quantum prec tiny x := he
        _ ≤ 10 ^ (prec : ℤ) * 10 ^ quantum prec tiny x := mul_le_mul_of_nonneg_right hn' (ten_zpow_pos _).le
        _ = 10 ^ ((prec : ℤ) + quantum prec tiny x) := (zpow_add₀ (by norm_num) _ _).symm
        _ ≤ 10 ^ Int.log 10 y := zpow_le_zpow_right₀ (by norm_num) (by omega)
    have habove : (10 : ℚ) ^ Int.log 10 y ≤ roundPos prec tiny y := by
      have hy : 0 < y := hx.trans_le h
      have hlo : (10 : ℚ) ^ Int.log 10 y ≤ y := by
        exact_mod_cast Int.zpow_log_le_self (b := 10) (r := y) (by norm_num) hy
      have hsplit : (10 : ℚ) ^ Int.log 10 y = 10 ^ (prec - 1) * 10 ^ quantum prec tiny y := by
        rw [← zpow_natCast, ← zpow_add₀ (by norm_num : (10 : ℚ) ≠ 0), hq]
        congr 1
        omega
      have hcoefficient : ((10 ^ (prec - 1) : ℕ) : ℤ) ≤ roundHalfEven (y / 10 ^ quantum prec tiny y) := by
        refine le_roundHalfEven ?_
        rw [le_div_iff₀ (ten_zpow_pos _)]
        push_cast
        exact hsplit ▸ hlo
      rw [hsplit]
      exact mul_le_mul_of_nonneg_right (by exact_mod_cast hcoefficient) (ten_zpow_pos _).le
    exact hbelow.trans habove
  · unfold roundPos
    rw [heq]
    have hdiv : x / 10 ^ quantum prec tiny y ≤ y / 10 ^ quantum prec tiny y :=
      div_le_div_of_nonneg_right h (ten_zpow_pos _).le
    exact mul_le_mul_of_nonneg_right (by exact_mod_cast roundHalfEven_mono hdiv) (ten_zpow_pos _).le

@[simp] theorem roundSig_zero : roundSig prec tiny 0 = 0 := if_pos rfl

theorem roundSig_neg (prec : ℕ) (tiny : ℤ) (x : ℚ) : roundSig prec tiny (-x) = -roundSig prec tiny x := by
  rcases lt_trichotomy x 0 with h | rfl | h
  · simp [roundSig, h.ne, h, not_lt.mpr h.le]
  · simp [roundSig]
  · simp [roundSig, h.ne', h, not_lt.mpr h.le]

theorem roundSig_of_pos (h : 0 < x) : roundSig prec tiny x = roundPos prec tiny x := by
  rw [roundSig, if_neg h.ne', if_neg (not_lt.mpr h.le)]

theorem roundSig_nonneg (h : 0 ≤ x) : 0 ≤ roundSig prec tiny x := by
  rcases h.eq_or_lt with rfl | h
  · rw [roundSig_zero]
  · rw [roundSig_of_pos h]
    exact roundPos_nonneg h

theorem roundSig_roundSig (hprec : 1 ≤ prec) (x : ℚ) :
    roundSig prec tiny (roundSig prec tiny x) = roundSig prec tiny x := by
  have hpos : ∀ y : ℚ, 0 < y → roundSig prec tiny (roundSig prec tiny y) = roundSig prec tiny y := by
    intro y hy
    rw [roundSig_of_pos hy]
    rcases (@roundPos_nonneg prec tiny y hy).eq_or_lt with h0 | h0
    · rw [← h0, roundSig_zero]
    · rw [roundSig_of_pos h0, roundPos_roundPos hprec hy h0]
  rcases lt_trichotomy x 0 with h | rfl | h
  · have hneg := hpos (-x) (neg_pos.mpr h)
    rwa [roundSig_neg, roundSig_neg, neg_inj] at hneg
  · rw [roundSig_zero, roundSig_zero]
  · exact hpos x h

theorem roundSig_mono (hprec : 1 ≤ prec) : Monotone (roundSig prec tiny) := by
  have hpos : ∀ x y : ℚ, 0 < x → x ≤ y → roundSig prec tiny x ≤ roundSig prec tiny y := by
    intro x y hx h
    rw [roundSig_of_pos hx, roundSig_of_pos (hx.trans_le h)]
    exact roundPos_mono hprec hx h
  intro x y h
  rcases lt_or_ge 0 x with hx | hx
  · exact hpos x y hx h
  rcases lt_or_ge y 0 with hy | hy
  · have hneg := hpos (-y) (-x) (neg_pos.mpr hy) (neg_le_neg h)
    rwa [roundSig_neg, roundSig_neg, neg_le_neg_iff] at hneg
  · have hx' : 0 ≤ roundSig prec tiny (-x) := roundSig_nonneg (neg_nonneg.mpr hx)
    rw [roundSig_neg, neg_nonneg] at hx'
    exact hx'.trans (roundSig_nonneg hy)

end RoundPos

/-! ## Decimal contexts -/

/-- A decimal context: the rounding applied to the exact result of every operation, the exact results that are too
    large for it, and the number of digits an integer quotient may have (`none` for unbounded). -/
structure DecimalContext where
  prec : Option ℕ
  round : ℚ → ℚ
  overflows : ℚ → Bool
  round_neg : ∀ x, round (-x) = -round x
  round_round : ∀ x, round (round x) = round x
  round_mono : Monotone round
  round_one : round 1 = 1
  overflows_neg : ∀ x, overflows (-x) = overflows x

namespace DecimalContext

/-- Exact rational arithmetic. -/
def exact : DecimalContext where
  prec := none
  round x := x
  overflows _ := false
  round_neg _ := rfl
  round_round _ := rfl
  round_mono _ _ h := h
  round_one := rfl
  overflows_neg _ := rfl

/-- The exponent of the last digit of a context: that of the smallest subnormal number. -/
def etiny (prec : ℕ) (emin : ℤ) : ℤ := emin - (prec - 1)

/-- `prec` significant digits, half to even, with exponents from `emin` to `emax`: a result below them loses digits,
    down to zero, and one above them overflows. -/
def halfEven (prec : ℕ) (hprec : 1 ≤ prec) (emin emax : ℤ) (hemin : emin ≤ 0) : DecimalContext where
  prec := some prec
  round := roundSig prec (etiny prec emin)
  overflows x := decide (emax < Int.log 10 |roundSig prec (etiny prec emin) x|)
  round_neg := roundSig_neg prec _
  round_round := roundSig_roundSig hprec
  round_mono := roundSig_mono hprec
  round_one := by
    have htiny : etiny prec emin ≤ 0 := by
      unfold etiny
      omega
    have h := @roundPos_of_lt prec (etiny prec emin) 1 0 Nat.one_pos (Nat.one_lt_pow (by omega) (by norm_num)) htiny
    rw [Nat.cast_one, zpow_zero, mul_one] at h
    rw [roundSig_of_pos one_pos, h]
  overflows_neg x := by rw [roundSig_neg, abs_neg]

variable (ctx : DecimalContext)

def add (x y : ℚ) : ℚ := ctx.round (x + y)
def sub (x y : ℚ) : ℚ := ctx.round (x - y)
def mul (x y : ℚ) : ℚ := ctx.round (x * y)
def div (x y : ℚ) : ℚ := ctx.round (x / y)
def neg (x : ℚ) : ℚ := ctx.round (-x)
def abs (x : ℚ) : ℚ := ctx.round |x|

@[simp] theorem exact_round (x : ℚ) : exact.round x = x := rfl
@[simp] theorem exact_overflows (x : ℚ) : exact.overflows x = false := rfl
@[simp] theorem exact_add (x y : ℚ) : exact.add x y = x + y := rfl
@[simp] theorem exact_sub (x y : ℚ) : exact.sub x y = x - y := rfl
@[simp] theorem exact_mul (x y : ℚ) : exact.mul x y = x * y := rfl
@[simp] theorem exact_div (x y : ℚ) : exact.div x y = x / y := rfl
@[simp] theorem exact_neg (x : ℚ) : exact.neg x = -x := rfl
@[simp] theorem exact_abs (x : ℚ) : exact.abs x = |x| := rfl

/-- The integer part, towards zero. -/
def truncate (x : ℚ) : ℤ := if 0 ≤ x then ⌊x⌋ else ⌈x⌉

/-- The remainder of the division truncated towards zero. There is none when the integer quotient has more
    digits than the context keeps. -/
def rem (x y : ℚ) : Option ℚ :=
  if ∃ p ∈ ctx.prec, 10 ^ p ≤ |truncate (x / y)| then none
  else some (ctx.round (x - y * truncate (x / y)))

theorem exact_rem (x y : ℚ) : exact.rem x y = some (x - y * truncate (x / y)) := by simp [rem, exact]

/-- In exact arithmetic a zero remainder is divisibility. -/
theorem exact_rem_eq_zero {x y : ℚ} (hy : y ≠ 0) : exact.rem x y = some 0 ↔ ∃ k : ℤ, x = k * y := by
  rw [exact_rem, Option.some_inj]
  constructor
  · intro h
    exact ⟨truncate (x / y), by linarith⟩
  · rintro ⟨k, rfl⟩
    have hk : truncate (k * y / y) = k := by rw [mul_div_cancel_right₀ _ hy]; simp [truncate]
    rw [hk]; ring

theorem truncate_of_nonneg {x : ℚ} (h : 0 ≤ x) : truncate x = ⌊x⌋ := if_pos h

/-- Summing left to right, rounding after every addition. -/
def sum (xs : List ℚ) : ℚ := xs.foldl ctx.add 0

theorem sum_append (xs ys : List ℚ) : ctx.sum (xs ++ ys) = ys.foldl ctx.add (ctx.sum xs) := by
  rw [sum, List.foldl_append]; rfl

@[simp] theorem exact_sum (xs : List ℚ) : exact.sum xs = xs.sum := by
  have h : ∀ (ys : List ℚ) (a : ℚ), ys.foldl exact.add a = a + ys.sum := by
    intro ys
    induction ys with
    | nil => intro a; simp
    | cons y ys ih => intro a; rw [List.foldl_cons, ih, List.sum_cons, exact_add, add_assoc]
  rw [sum, h, zero_add]

/-! ## Signs survive rounding -/

variable {ctx}

@[simp] theorem round_zero : ctx.round 0 = 0 := by
  have h := ctx.round_neg 0
  rw [neg_zero] at h
  linarith

theorem round_nonneg {x : ℚ} (h : 0 ≤ x) : 0 ≤ ctx.round x := round_zero.symm.trans_le (ctx.round_mono h)

theorem round_nonpos {x : ℚ} (h : x ≤ 0) : ctx.round x ≤ 0 := (ctx.round_mono h).trans_eq round_zero

protected theorem sub_nonpos {x y : ℚ} (h : x ≤ y) : ctx.sub x y ≤ 0 := round_nonpos (sub_nonpos.mpr h)

protected theorem sub_nonneg {x y : ℚ} (h : y ≤ x) : 0 ≤ ctx.sub x y := round_nonneg (sub_nonneg.mpr h)

@[simp] protected theorem sub_self (x : ℚ) : ctx.sub x x = 0 := by
  rw [DecimalContext.sub, show x - x = 0 by ring, round_zero]

@[simp] protected theorem zero_mul (x : ℚ) : ctx.mul 0 x = 0 := by
  rw [DecimalContext.mul, show (0 : ℚ) * x = 0 by ring, round_zero]

/-- A remainder that exists is zero exactly for a multiple, where rounding keeps what is left from zero. -/
theorem rem_eq_some_zero_iff {x y : ℚ} (hy : y ≠ 0)
    (hkept : ctx.round (x - y * truncate (x / y)) = 0 → x - y * truncate (x / y) = 0) :
    ctx.rem x y = some 0 ↔ ctx.rem x y ≠ none ∧ ∃ k : ℤ, x = k * y := by
  have hexact : x - y * truncate (x / y) = 0 ↔ ∃ k : ℤ, x = k * y := by
    rw [← exact_rem_eq_zero hy, exact_rem, Option.some_inj]
  have hround : ctx.round (x - y * truncate (x / y)) = 0 ↔ x - y * truncate (x / y) = 0 :=
    ⟨hkept, fun h => by rw [h, round_zero]⟩
  unfold rem
  split_ifs with hlong
  · simp
  · simp [hround, hexact]

/-- There is no remainder when the quotient of two nonnegative values reaches the power of ten. -/
theorem rem_eq_none_iff {x y : ℚ} {p : ℕ} (hp : ctx.prec = some p) (hx : 0 ≤ x) (hy : 0 < y) :
    ctx.rem x y = none ↔ 10 ^ p * y ≤ x := by
  have hquotient : 0 ≤ x / y := div_nonneg hx hy.le
  have hlong : (∃ q ∈ ctx.prec, 10 ^ q ≤ |truncate (x / y)|) ↔ (10 : ℚ) ^ p * y ≤ x := by
    have hfloor : (0 : ℤ) ≤ ⌊x / y⌋ := Int.floor_nonneg.mpr hquotient
    rw [hp, truncate_of_nonneg hquotient, abs_of_nonneg hfloor]
    simp only [Option.mem_some_iff, exists_eq_left', Int.le_floor]
    rw [le_div_iff₀ hy]
    push_cast
    rfl
  unfold rem
  split_ifs with h
  · simp [hlong.mp h]
  · exact iff_of_false id fun hle => h (hlong.mpr hle)

/-! ## Representable values -/

/-- `x` needs no rounding in this context. -/
def Fits (ctx : DecimalContext) (x : ℚ) : Prop := ctx.round x = x

theorem fits_round (x : ℚ) : ctx.Fits (ctx.round x) := ctx.round_round x

theorem fits_exact (x : ℚ) : exact.Fits x := rfl

theorem fits_zero : ctx.Fits 0 := round_zero

theorem Fits.neg {x : ℚ} (h : ctx.Fits x) : ctx.Fits (-x) := by
  unfold Fits at *; rw [ctx.round_neg, h]

theorem Fits.abs {x : ℚ} (h : ctx.Fits x) : ctx.Fits |x| := by
  rcases abs_choice x with hx | hx <;> rw [hx]
  · exact h
  · exact h.neg

/-- **Fitting is a digit count.** A value survives the context exactly when its digits number at most `prec` and none
    of them stands below the last digit of the context. -/
theorem fits_halfEven_iff {prec : ℕ} {hprec : 1 ≤ prec} {emin emax : ℤ} {hemin : emin ≤ 0} {x : ℚ} :
    (halfEven prec hprec emin emax hemin).Fits x ↔
      ∃ (n : ℤ) (k : ℤ), |n| < 10 ^ prec ∧ etiny prec emin ≤ k ∧ x = n * 10 ^ k := by
  have hpos : ∀ {y : ℚ}, 0 < y → ((halfEven prec hprec emin emax hemin).Fits y ↔
      ∃ (n : ℤ) (k : ℤ), |n| < 10 ^ prec ∧ etiny prec emin ≤ k ∧ y = n * 10 ^ k) := by
    intro y hy
    have hround : (halfEven prec hprec emin emax hemin).round y = roundPos prec (etiny prec emin) y :=
        roundSig_of_pos hy
    have htiny := le_quantum prec (etiny prec emin) y
    unfold Fits
    rw [hround]
    constructor
    · intro h
      obtain ⟨n, hle, he⟩ := roundPos_eq prec (etiny prec emin) hy
      rcases Nat.lt_or_eq_of_le hle with hlt | rfl
      · exact ⟨n, _, by rw [Nat.abs_cast]; exact_mod_cast hlt, htiny, h.symm.trans he⟩
      · refine ⟨1, prec + quantum prec (etiny prec emin) y, ?_, by omega, ?_⟩
        · rw [abs_one]
          exact one_lt_pow₀ (by norm_num) (by omega)
        · refine h.symm.trans (he.trans ?_)
          rw [zpow_add₀ (by norm_num : (10 : ℚ) ≠ 0), zpow_natCast]; push_cast; ring
    · rintro ⟨n, k, hn, hk, rfl⟩
      have hnpos : 0 < n := by
        by_contra hle
        exact absurd hy (not_lt.mpr (mul_nonpos_of_nonpos_of_nonneg
          (by exact_mod_cast not_lt.mp hle) (ten_zpow_pos k).le))
      lift n to ℕ using hnpos.le
      rw [Nat.abs_cast] at hn
      exact_mod_cast roundPos_of_lt (k := k) (by exact_mod_cast hnpos) (by exact_mod_cast hn) hk
  rcases lt_trichotomy x 0 with hx | rfl | hx
  · have hneg : (halfEven prec hprec emin emax hemin).Fits x ↔ (halfEven prec hprec emin emax hemin).Fits (-x) :=
      ⟨Fits.neg, fun h => by simpa using h.neg⟩
    rw [hneg, hpos (neg_pos.mpr hx)]
    constructor
    · rintro ⟨n, k, hn, hk, he⟩
      exact ⟨-n, k, by rwa [abs_neg], hk, by push_cast; linarith⟩
    · rintro ⟨n, k, hn, hk, he⟩
      exact ⟨-n, k, by rwa [abs_neg], hk, by push_cast; linarith⟩
  · exact ⟨fun _ => ⟨0, max 0 (etiny prec emin), by simp, le_max_right _ _, by simp⟩, fun _ => fits_zero⟩
  · exact hpos hx

/-- What reaches the last digit of the context is not rounded to zero. -/
theorem round_ne_zero_of_tiny_le {prec : ℕ} {hprec : 1 ≤ prec} {emin emax : ℤ} {hemin : emin ≤ 0} {x : ℚ}
    (h : (10 : ℚ) ^ etiny prec emin ≤ |x|) : (halfEven prec hprec emin emax hemin).round x ≠ 0 := by
  have hpos : ∀ y : ℚ, (10 : ℚ) ^ etiny prec emin ≤ y → 0 < (halfEven prec hprec emin emax hemin).round y := by
    intro y hy
    exact (roundPos_pos hprec hy).trans_eq (roundSig_of_pos ((ten_zpow_pos _).trans_le hy)).symm
  rcases abs_choice x with hx | hx <;> rw [hx] at h
  · exact (hpos x h).ne'
  · have hneg := hpos (-x) h
    rw [(halfEven prec hprec emin emax hemin).round_neg] at hneg
    exact (neg_pos.mp hneg).ne

end DecimalContext
end Pmrp
