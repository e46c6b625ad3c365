import Mathlib.Data.List.Basic
import Mathlib.Tactic.Common

/-!
# `Lib.Outcome` — fallible steps and the runs they make

A Python function that may raise is a function into `Except`. This file has the rules for reading such
a function (`bind_eq_ok`, `raiseIf_eq_ok`) and for folding one over a list of inputs.

## Contents
- **One call.** `raiseIf` is `if bad: raise …`.
- **One call for each element.** `mapM_ok`, `ok_of_mapM` and `forM_eq_ok` read a loop whose calls may raise.
- **Runs.** `List.foldlM step s xs` is the run. `foldlM_ok` shows that a run returns and what holds then,
  `foldlM_inv` what holds of a run that did return. `StepsMeet` says that every step of a run meets a
  condition on the state it starts from. `foldlM_eraseDups` drops the inputs that a run has seen before.
-/

namespace Pmrp

variable {ε α β σ : Type}

/-! ## One call -/

@[simp] theorem ok_bind (a : α) (f : α → Except ε β) : ((.ok a : Except ε α) >>= f) = f a := rfl

@[simp] theorem error_bind (e : ε) (f : α → Except ε β) :
    ((.error e : Except ε α) >>= f) = .error e := rfl

@[simp] theorem pure_eq_ok {a b : α} : (pure a : Except ε α) = .ok b ↔ a = b := by
  simp [pure, Except.pure]

/-- A sequence of two calls returns exactly when both do. -/
theorem bind_eq_ok {x : Except ε α} {f : α → Except ε β} {b : β} :
    (x >>= f) = .ok b ↔ ∃ a, x = .ok a ∧ f a = .ok b := by
  cases x with
  | error e => simp
  | ok a => simp

theorem map_eq_ok {x : Except ε α} {f : α → β} {b : β} :
    x.map f = .ok b ↔ ∃ a, x = .ok a ∧ f a = b := by
  cases x with
  | error e => simp [Except.map]
  | ok a => simp [Except.map]

/-- What is done with the value of two calls is done with the value of the second. -/
theorem map_bind_eq {γ : Type} (x : Except ε α) (f : α → Except ε β) (g : β → γ) :
    (x >>= f).map g = x >>= fun a => (f a).map g := by
  cases x <;> rfl

theorem bind_map_eq {γ : Type} (x : Except ε α) (g : α → β) (f : β → Except ε γ) :
    (x.map g >>= f) = x >>= fun a => f (g a) := by
  cases x <;> rfl

/-- `if bad: raise e`. -/
def raiseIf (bad : Prop) [Decidable bad] (e : ε) : Except ε Unit :=
  if bad then .error e else .ok ⟨⟩

@[simp] theorem raiseIf_eq_ok {bad : Prop} {_ : Decidable bad} {e : ε} {u : Unit} :
    raiseIf bad e = .ok u ↔ ¬bad := by
  unfold raiseIf; split_ifs with h <;> simp [h]

/-- A check that passes drops out of the sequence. -/
theorem raiseIf_bind_of_not {bad : Prop} [Decidable bad] {e : ε} {f : Unit → Except ε β}
    (h : ¬bad) : (raiseIf bad e >>= f) = f ⟨⟩ := by
  rw [raiseIf, if_neg h, ok_bind]

/-- A check that fails is the result of the sequence. -/
theorem raiseIf_bind_of {bad : Prop} [Decidable bad] {e : ε} {f : Unit → Except ε β}
    (h : bad) : (raiseIf bad e >>= f) = .error e := by
  rw [raiseIf, if_pos h, error_bind]

/-! ## One call for each element -/

/-- Calls that all return give their results. -/
theorem mapM_ok {f : α → Except ε β} {g : α → β} {as : List α} (h : ∀ a ∈ as, f a = .ok (g a)) :
    as.mapM f = .ok (as.map g) := by
  induction as with
  | nil => rfl
  | cons a as ih =>
      rw [List.mapM_cons, h a List.mem_cons_self, ok_bind, ih fun b hb => h b (List.mem_cons_of_mem a hb)]
      rfl

/-- Every call of a sequence that returned has returned. -/
theorem ok_of_mapM {f : α → Except ε β} {as : List α} {bs : List β} (h : as.mapM f = .ok bs) :
    ∀ a ∈ as, ∃ b, f a = .ok b := by
  induction as generalizing bs with
  | nil => intro a ha; cases ha
  | cons a as ih =>
      rw [List.mapM_cons, bind_eq_ok] at h
      obtain ⟨b, hb, h⟩ := h
      obtain ⟨bs', hbs', -⟩ := bind_eq_ok.mp h
      intro x hx
      rcases List.mem_cons.mp hx with rfl | hx
      · exact ⟨b, hb⟩
      · exact ih hbs' x hx

/-- The results of a sequence that returned are those of its calls. -/
theorem mem_iff_of_mapM {f : α → Except ε β} {as : List α} {bs : List β} (h : as.mapM f = .ok bs) {b : β} :
    b ∈ bs ↔ ∃ a ∈ as, f a = .ok b := by
  induction as generalizing bs with
  | nil =>
      obtain rfl : [] = bs := pure_eq_ok.mp h
      simp
  | cons a as ih =>
      rw [List.mapM_cons, bind_eq_ok] at h
      obtain ⟨first, hfirst, h⟩ := h
      obtain ⟨bs', hbs', h⟩ := bind_eq_ok.mp h
      obtain rfl : first :: bs' = bs := pure_eq_ok.mp h
      rw [List.mem_cons, List.exists_mem_cons_iff, ih hbs', hfirst, Except.ok.injEq, eq_comm]

theorem length_of_mapM {f : α → Except ε β} {as : List α} {bs : List β} (h : as.mapM f = .ok bs) :
    as.length = bs.length := by
  induction as generalizing bs with
  | nil =>
      obtain rfl : [] = bs := pure_eq_ok.mp h
      rfl
  | cons a as ih =>
      rw [List.mapM_cons, bind_eq_ok] at h
      obtain ⟨b, -, h⟩ := h
      obtain ⟨bs', hbs', h⟩ := bind_eq_ok.mp h
      obtain rfl : b :: bs' = bs := pure_eq_ok.mp h
      rw [List.length_cons, List.length_cons, ih hbs']

/-- Calls that give the list back have given each element back. -/
theorem eq_self_of_mapM {f : α → Except ε α} {as : List α} (h : as.mapM f = .ok as) : ∀ a ∈ as, f a = .ok a := by
  induction as with
  | nil => intro a ha; cases ha
  | cons a as ih =>
      rw [List.mapM_cons, bind_eq_ok] at h
      obtain ⟨b, hb, h⟩ := h
      obtain ⟨bs, hbs, h⟩ := bind_eq_ok.mp h
      obtain ⟨rfl, rfl⟩ : b = a ∧ bs = as := List.cons.inj (pure_eq_ok.mp h)
      intro x hx
      rcases List.mem_cons.mp hx with rfl | hx
      · exact hb
      · exact ih hbs x hx

theorem mapM_flatMap {γ : Type} {f : α → List β} {g : β → Except ε γ} (as : List α) :
    (as.flatMap f).mapM g = (as.mapM fun a => (f a).mapM g).map List.flatten := by
  induction as with
  | nil => rfl
  | cons a as ih =>
      rw [List.flatMap_cons, List.mapM_append, ih, List.mapM_cons]
      cases (f a).mapM g with
      | error e => rfl
      | ok bs => cases as.mapM fun a => (f a).mapM g <;> rfl

theorem forM_eq_ok {f : α → Except ε Unit} {as : List α} {u : Unit} :
    as.forM f = .ok u ↔ ∀ a ∈ as, f a = .ok ⟨⟩ := by
  induction as with
  | nil => simp [List.forM, pure, Except.pure]
  | cons a as ih =>
      have hcons : (a :: as).forM f = f a >>= fun _ => as.forM f := rfl
      rw [hcons, bind_eq_ok, List.forall_mem_cons, ← ih]
      constructor
      · rintro ⟨⟨⟩, ha, has⟩; exact ⟨ha, has⟩
      · rintro ⟨ha, has⟩; exact ⟨⟨⟩, ha, has⟩

/-! ## Runs -/

section Runs

variable {step : σ → α → Except ε σ}

/-- Every step of the run from `s` starts in a state that meets `P` for its input. -/
def StepsMeet (step : σ → α → Except ε σ) (P : σ → α → Prop) : σ → List α → Prop
  | _, [] => True
  | s, a :: as => P s a ∧ ∀ s', step s a = .ok s' → StepsMeet step P s' as

/-- A condition that can be tested at every step can be tested along a run. -/
instance StepsMeet.decidable {P : σ → α → Prop} [∀ s a, Decidable (P s a)] :
    (s : σ) → (as : List α) → Decidable (StepsMeet step P s as)
  | _, [] => .isTrue trivial
  | s, a :: as =>
      match h : step s a with
      | .error _ => decidable_of_iff (P s a) (by rw [StepsMeet, h]; simp)
      | .ok s' =>
          have := StepsMeet.decidable (P := P) s' as
          decidable_of_iff (P s a ∧ StepsMeet step P s' as) (by rw [StepsMeet, h]; simp)

/-- **Progress along a run.** An invariant of what was processed, what is left and the state, under which
    every step returns and which every step keeps, makes the run return and holds at its end. -/
theorem foldlM_ok (Inv : List α → List α → σ → Prop)
    (hstep : ∀ done a rest s, Inv done (a :: rest) s →
      ∃ s', step s a = .ok s' ∧ Inv (done ++ [a]) rest s')
    {as : List α} {s : σ} (hs : Inv [] as s) :
    ∃ s', as.foldlM step s = .ok s' ∧ Inv as [] s' := by
  have hrun : ∀ {rest done s}, Inv done rest s →
      ∃ s', rest.foldlM step s = .ok s' ∧ Inv (done ++ rest) [] s' := by
    intro rest
    induction rest with
    | nil => intro done s hs; exact ⟨s, rfl, by rwa [List.append_nil]⟩
    | cons a as ih =>
        intro done s hs
        obtain ⟨s', hok, hs'⟩ := hstep done a as s hs
        obtain ⟨s'', hrun, hs''⟩ := ih hs'
        refine ⟨s'', ?_, ?_⟩
        · rw [List.foldlM_cons, hok, ok_bind]; exact hrun
        · rwa [List.append_assoc, List.singleton_append] at hs''
  exact hrun hs

/-- **Invariants along a run.** What every returning step preserves holds at the end of a run that
    returned. -/
theorem foldlM_inv (Inv : σ → Prop) (hstep : ∀ s a s', Inv s → step s a = .ok s' → Inv s')
    {as : List α} {s s' : σ} (hs : Inv s) (hrun : as.foldlM step s = .ok s') : Inv s' := by
  induction as generalizing s with
  | nil =>
      rw [List.foldlM_nil, pure_eq_ok] at hrun
      exact hrun ▸ hs
  | cons a as ih =>
      rw [List.foldlM_cons, bind_eq_ok] at hrun
      obtain ⟨s₁, hok, hrest⟩ := hrun
      exact ih (hstep s a s₁ hs hok) hrest

/-- A run over one state that mirrors a run over another. -/
theorem foldlM_map_state {τ : Type*} {step' : τ → α → Except ε τ} (view : σ → τ)
    (hstep : ∀ s a, (step s a).map view = step' (view s) a) (as : List α) (s : σ) :
    (as.foldlM step s).map view = as.foldlM step' (view s) := by
  induction as generalizing s with
  | nil => rfl
  | cons a as ih =>
      rw [List.foldlM_cons, List.foldlM_cons, ← hstep]
      cases step s a with
      | error e => rfl
      | ok s' => exact ih s'

variable [DecidableEq α]

/-- An input that a state has absorbed can be left out of the rest of the run. -/
theorem foldlM_filter_absorbed (Absorbed : σ → α → Prop)
    (hkeep : ∀ s a b s', Absorbed s a → step s b = .ok s' → Absorbed s' a)
    (hskip : ∀ s a, Absorbed s a → step s a = .ok s) {a : α} {s : σ} (h : Absorbed s a) (as : List α) :
    as.foldlM step s = (as.filter fun b => !b == a).foldlM step s := by
  induction as generalizing s with
  | nil => rfl
  | cons b as ih =>
      rw [List.foldlM_cons, List.filter_cons]
      by_cases hba : b = a
      · rw [if_neg (by simp [hba]), hba, hskip s a h, ok_bind]
        exact ih h
      · rw [if_pos (by simp [hba]), List.foldlM_cons]
        cases hb : step s b with
        | error e => rfl
        | ok s' => exact ih (hkeep s a b s' h hb)

/-- **Duplicates in a run.** When every step absorbs its input, only first occurrences count. -/
theorem foldlM_eraseDups (Absorbed : σ → α → Prop) (hself : ∀ s a s', step s a = .ok s' → Absorbed s' a)
    (hkeep : ∀ s a b s', Absorbed s a → step s b = .ok s' → Absorbed s' a)
    (hskip : ∀ s a, Absorbed s a → step s a = .ok s) (as : List α) (s : σ) :
    as.foldlM step s = as.eraseDups.foldlM step s := by
  induction hn : as.length using Nat.strongRecOn generalizing as s with
  | _ n ih =>
      cases as with
      | nil => rfl
      | cons a as =>
          rw [List.eraseDups_cons, List.foldlM_cons, List.foldlM_cons]
          cases ha : step s a with
          | error e => rfl
          | ok s' =>
              have hfilter := List.length_filter_le (fun b => !b == a) as
              rw [List.length_cons] at hn
              rw [ok_bind, ok_bind, foldlM_filter_absorbed Absorbed hkeep hskip (hself s a s' ha) as]
              exact ih _ (by omega) _ _ rfl

end Runs

end Pmrp
