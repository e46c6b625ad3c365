import Mathlib.Data.List.Basic
import Mathlib.Data.Nat.Find

/-!
# `Lib.Stopping` — what comes before the first position of a kind

A run over a list stops at the first position that satisfies a predicate, or at the end. Two predicates, one of which
implies the other, stop it at the same place exactly when the first position of the weaker one satisfies the stronger.
-/

namespace Pmrp
namespace Stopping

variable {α ε : Type} {xs ys : List α} {stop : ε} {out : Option ε} {P Q : ℕ → Prop}

/-- No position before `i` satisfies `P`, and `i` does. -/
def IsFirst (P : ℕ → Prop) (i : ℕ) : Prop := P i ∧ ∀ j < i, ¬P j

/-- `ys` is what comes before the first position with `P`, and `out` is `stop` if there is one. -/
def StopsAtFirst (P : ℕ → Prop) (xs : List α) (stop : ε) (ys : List α) (out : Option ε) : Prop :=
  (∃ i, IsFirst P i ∧ ys = xs.take i ∧ out = some stop) ∨ ((∀ i, ¬P i) ∧ ys = xs ∧ out = none)

theorem IsFirst.unique {i j : ℕ} (hi : IsFirst P i) (hj : IsFirst P j) : i = j := by
  rcases lt_trichotomy i j with hlt | heq | hlt
  · exact absurd hi.1 (hj.2 i hlt)
  · exact heq
  · exact absurd hj.1 (hi.2 j hlt)

theorem exists_first {i : ℕ} (h : P i) : ∃ first, IsFirst P first := by
  classical
  exact ⟨Nat.find ⟨i, h⟩, Nat.find_spec ⟨i, h⟩, fun _ hj => Nat.find_min ⟨i, h⟩ hj⟩

theorem stopsAtFirst_nil (h : ∀ i, ¬P i) : StopsAtFirst P xs stop xs none := Or.inr ⟨h, rfl, rfl⟩

theorem stopsAtFirst_zero (h : P 0) : StopsAtFirst P xs stop [] (some stop) :=
  Or.inl ⟨0, ⟨h, fun j hj => absurd hj (Nat.not_lt_zero j)⟩, List.take_zero.symm, rfl⟩

/-- The first element is no place to stop. -/
theorem StopsAtFirst.cons {x : α} (hzero : ¬P 0) (h : StopsAtFirst (fun i => P (i + 1)) xs stop ys out) :
    StopsAtFirst P (x :: xs) stop (x :: ys) out := by
  rcases h with ⟨i, ⟨hi, hbefore⟩, hys, hout⟩ | ⟨hnone, hys, hout⟩
  · refine Or.inl ⟨i + 1, ⟨hi, ?_⟩, by rw [hys, List.take_succ_cons], hout⟩
    intro j hj
    cases j with
    | zero => exact hzero
    | succ j => exact hbefore j (Nat.lt_of_succ_lt_succ hj)
  · refine Or.inr ⟨?_, by rw [hys], hout⟩
    intro i
    cases i with
    | zero => exact hzero
    | succ i => exact hnone i

/-- A run that stops at `P` stops at the weaker `Q` too exactly when the first position with `Q` has `P`. -/
theorem StopsAtFirst.weaken_iff (hrun : StopsAtFirst P xs stop ys out) (himp : ∀ i, P i → Q i)
    (hlt : ∀ i, Q i → i < xs.length) : StopsAtFirst Q xs stop ys out ↔ ∀ i, IsFirst Q i → P i := by
  constructor
  · rintro (⟨i, hfirst, hys, hout⟩ | ⟨hnone, -, -⟩) k hk
    · rw [hk.unique hfirst]
      rcases hrun with ⟨j, hj, hys', -⟩ | ⟨-, -, hout'⟩
      · -- both prefixes end inside the list, so their lengths tell where
        have hlength := congrArg List.length (hys.symm.trans hys')
        rw [List.length_take, List.length_take, Nat.min_eq_left (Nat.le_of_lt (hlt i hfirst.1)),
          Nat.min_eq_left (Nat.le_of_lt (hlt j (himp j hj.1)))] at hlength
        rw [hlength]
        exact hj.1
      · rw [hout] at hout'
        cases hout'
    · exact absurd hk.1 (hnone k)
  · intro hsame
    rcases hrun with ⟨i, hi, hys, hout⟩ | ⟨hnone, hys, hout⟩
    · obtain ⟨first, hfirst⟩ := exists_first (himp i hi.1)
      have hP : IsFirst P first := ⟨hsame first hfirst, fun j hj hPj => hfirst.2 j hj (himp j hPj)⟩
      rw [hi.unique hP] at hys
      exact Or.inl ⟨first, hfirst, hys, hout⟩
    · refine Or.inr ⟨?_, hys, hout⟩
      intro i hQ
      obtain ⟨first, hfirst⟩ := exists_first hQ
      exact hnone first (hsame first hfirst)

end Stopping
end Pmrp
