import Mathlib.Tactic.Common

/-!
# `Lib.Transitions` — runs of a labelled transition relation

`Reaches step P s t`: from `s` some run of `step` ends in `t`, each of its steps starting in a state that
meets `P` for its label. Every state on the way is reached as well, so an invariant shown of the states
reached holds at every moment of a run.
-/

namespace Pmrp

variable {σ α : Type*} {step : σ → α → σ → Prop} {P : σ → α → Prop}

inductive Reaches (step : σ → α → σ → Prop) (P : σ → α → Prop) (s : σ) : σ → Prop where
  | refl : Reaches step P s s
  | tail {t u : σ} {a : α} : Reaches step P s t → P t a → step t a u → Reaches step P s u

/-- **Invariants of runs.** What every step under `P` keeps holds of every state reached. -/
theorem Reaches.inv (Inv : σ → Prop) (hstep : ∀ t a u, Inv t → P t a → step t a u → Inv u) {s t : σ}
    (h : Reaches step P s t) (hs : Inv s) : Inv t := by
  induction h with
  | refl => exact hs
  | tail _ hP hstep' ih => exact hstep _ _ _ ih hP hstep'

end Pmrp
