import Mathlib.Data.Rat.Floor
import Mathlib.Algebra.Order.Floor.Ring
import Mathlib.Tactic.FieldSimp
import Mathlib.Tactic.Linarith
import Mathlib.Tactic.NormNum
import Mathlib.Tactic.Positivity

/-!
# `Lib.FixedPoint` — rounding to a fixed number of fractional digits

`roundScale scale` rounds a rational to `scale` decimal digits after the point, ties away from zero. It keeps exactly
the values that have no more digits (`roundScale_eq_self`).
-/

namespace Pmrp

/-- The nearest integer, the one further from zero when two are equally near. -/
def roundHalfAway (x : ℚ) : ℤ := if x < 0 then -⌊-x + 1 / 2⌋ else ⌊x + 1 / 2⌋

theorem roundHalfAway_intCast (n : ℤ) : roundHalfAway (n : ℚ) = n := by
  have hfloor : ∀ m : ℤ, ⌊(m : ℚ) + 1 / 2⌋ = m := by
    intro m
    rw [Int.floor_eq_iff]
    constructor <;> linarith
  unfold roundHalfAway
  split_ifs
  · rw [← Int.cast_neg, hfloor, neg_neg]
  · exact hfloor n

def roundScale (scale : ℕ) (x : ℚ) : ℚ := roundHalfAway (x * 10 ^ scale) / 10 ^ scale

/-- `x` is written with at most `scale` digits after the point. -/
def HasScale (scale : ℕ) (x : ℚ) : Prop := ∃ n : ℤ, x = n / 10 ^ scale

theorem roundScale_eq_self {scale : ℕ} {x : ℚ} : roundScale scale x = x ↔ HasScale scale x := by
  constructor
  · intro h
    exact ⟨_, h.symm⟩
  · rintro ⟨n, rfl⟩
    have hpow : (10 : ℚ) ^ scale ≠ 0 := by positivity
    rw [roundScale, div_mul_cancel₀ _ hpow, roundHalfAway_intCast]

instance (scale : ℕ) (x : ℚ) : Decidable (HasScale scale x) := decidable_of_iff _ roundScale_eq_self

end Pmrp
