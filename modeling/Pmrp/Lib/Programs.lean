import Pmrp.Lib.Outcome

/-!
# `Lib.Programs` — programs that write in a transaction

A `Program` runs statements one after the other, may raise between them, and commits. It is data: what runs it
decides when each statement happens and what happens in between, so that one program can be run alone, with
failures, or interleaved with others.

## Contents
- **Programs.** `Program` is a monad, and a function into `Except` lifts into it.
- **Runs.** `p.Runs ss a`: nothing fails from outside, so `p` runs the statements `ss` and returns `a`. The
  simp set takes a `do` block apart.
- **Commits.** `CommitFree` programs leave the commit to others; `CommitsOnly I` says that whatever a program
  commits meets `I`. `commitsOnly_bind_commit` reads the second off the runs of the part before the commit.
-/

namespace Pmrp

/-- A program over the statements `S`. -/
inductive Program (S ε α : Type)
  | done (result : α)
  | raise (error : ε)
  | exec (statement : S) (next : Program S ε α)
  | commit (next : Program S ε α)

namespace Program

variable {S ε α β γ : Type}

/-! ## Programs -/

def bind : Program S ε α → (α → Program S ε β) → Program S ε β
  | done a, f => f a
  | raise e, _ => raise e
  | exec s next, f => exec s (next.bind f)
  | commit next, f => commit (next.bind f)

instance : Monad (Program S ε) where
  pure := done
  bind := bind

def ofExcept : Except ε α → Program S ε α
  | .ok a => done a
  | .error e => raise e

instance : MonadLift (Except ε) (Program S ε) := ⟨ofExcept⟩

/-- One statement. -/
def execute (s : S) : Program S ε Unit := exec s (done ⟨⟩)

/-- The commit. -/
def commitPending : Program S ε Unit := commit (done ⟨⟩)

@[simp] theorem done_bind (a : α) (f : α → Program S ε β) : (done a >>= f) = f a := rfl
@[simp] theorem pure_eq_done (a : α) : (pure a : Program S ε α) = done a := rfl
@[simp] theorem raise_bind (e : ε) (f : α → Program S ε β) : (raise e >>= f) = raise e := rfl

@[simp] theorem exec_bind (s : S) (next : Program S ε α) (f : α → Program S ε β) :
    (exec s next >>= f) = exec s (next >>= f) := rfl

@[simp] theorem commit_bind (next : Program S ε α) (f : α → Program S ε β) :
    (commit next >>= f) = commit (next >>= f) := rfl

@[simp] theorem liftM_ok (a : α) : (liftM (.ok a : Except ε α) : Program S ε α) = done a := rfl
@[simp] theorem liftM_error (e : ε) : (liftM (.error e : Except ε α) : Program S ε α) = raise e := rfl

theorem bind_assoc (p : Program S ε α) (f : α → Program S ε β) (g : β → Program S ε γ) :
    (p >>= f) >>= g = p >>= fun a => f a >>= g := by
  induction p with
  | done a => rfl
  | raise e => rfl
  | exec s next ih => simp only [exec_bind, ih]
  | commit next ih => simp only [commit_bind, ih]

/-! ## Runs -/

/-- The program runs the statements `ss`, commits nothing and returns `a`. -/
def Runs : Program S ε α → List S → α → Prop
  | done a, ss, b => ss = [] ∧ a = b
  | raise _, _, _ => False
  | exec s next, ss, b => ∃ rest, ss = s :: rest ∧ next.Runs rest b
  | commit _, _, _ => False

@[simp] theorem runs_done {a b : α} {ss : List S} : (done a : Program S ε α).Runs ss b ↔ ss = [] ∧ a = b :=
  Iff.rfl

@[simp] theorem runs_execute {s : S} {ss : List S} {u : Unit} :
    (execute s : Program S ε Unit).Runs ss u ↔ ss = [s] := by
  constructor
  · rintro ⟨rest, rfl, rfl, -⟩; rfl
  · rintro rfl; exact ⟨[], rfl, rfl, rfl⟩

@[simp] theorem runs_liftM {x : Except ε α} {ss : List S} {a : α} :
    (liftM x : Program S ε α).Runs ss a ↔ ss = [] ∧ x = .ok a := by
  cases x with
  | error e => simp [Runs]
  | ok b => simp

/-- A run of a sequence is a run of its parts. -/
@[simp] theorem runs_bind {p : Program S ε α} {f : α → Program S ε β} {ss : List S} {b : β} :
    (p >>= f).Runs ss b ↔ ∃ ss₁ a ss₂, p.Runs ss₁ a ∧ (f a).Runs ss₂ b ∧ ss = ss₁ ++ ss₂ := by
  induction p generalizing ss with
  | done a =>
      constructor
      · intro h; exact ⟨[], a, ss, ⟨rfl, rfl⟩, h, rfl⟩
      · rintro ⟨_, _, _, ⟨rfl, rfl⟩, h, rfl⟩; exact h
  | raise e => simp [Runs]
  | commit next => simp [Runs]
  | exec s next ih =>
      rw [exec_bind, Runs]
      constructor
      · rintro ⟨rest, rfl, h⟩
        obtain ⟨ss₁, a, ss₂, h₁, h₂, rfl⟩ := ih.mp h
        exact ⟨s :: ss₁, a, ss₂, ⟨ss₁, rfl, h₁⟩, h₂, rfl⟩
      · rintro ⟨_, a, ss₂, ⟨ss₁, rfl, h₁⟩, h₂, rfl⟩
        exact ⟨ss₁ ++ ss₂, rfl, ih.mpr ⟨ss₁, a, ss₂, h₁, h₂, rfl⟩⟩

/-! ## Commits -/

/-- The program does not commit. -/
def CommitFree : Program S ε α → Prop
  | done _ => True
  | raise _ => True
  | exec _ next => next.CommitFree
  | commit _ => False

theorem commitFree_pure (a : α) : (pure a : Program S ε α).CommitFree := trivial

theorem commitFree_execute (s : S) : (execute s : Program S ε Unit).CommitFree := trivial

theorem commitFree_liftM (x : Except ε α) : (liftM x : Program S ε α).CommitFree := by
  cases x <;> trivial

theorem CommitFree.bind {p : Program S ε α} {f : α → Program S ε β} (hp : p.CommitFree)
    (hf : ∀ a, (f a).CommitFree) : (p >>= f).CommitFree := by
  induction p with
  | done a => exact hf a
  | raise e => trivial
  | exec s next ih => exact ih hp
  | commit next => exact hp.elim

/-- A loop over a list does not commit when its body does not. -/
theorem commitFree_forM {xs : List β} {f : β → Program S ε Unit} (hf : ∀ b, (f b).CommitFree) :
    (xs.forM f).CommitFree := by
  induction xs with
  | nil => trivial
  | cons b xs ih => exact (hf b).bind fun _ => ih

/-- With `pending` already run, whatever the program commits meets `I`. -/
def CommitsOnly (I : List S → Prop) : Program S ε α → List S → Prop
  | done _, _ => True
  | raise _, _ => True
  | exec s next, pending => next.CommitsOnly I (pending ++ [s])
  | commit _, pending => I pending

/-- What is committed is what the part before the commit has run. -/
theorem commitsOnly_bind_commit {I : List S → Prop} {p : Program S ε α} {f : α → Program S ε β}
    (hp : p.CommitFree) {pending : List S} :
    (p >>= fun a => commit (f a)).CommitsOnly I pending ↔ ∀ ss a, p.Runs ss a → I (pending ++ ss) := by
  induction p generalizing pending with
  | done a => simp [CommitsOnly, Runs]
  | raise e => simp [CommitsOnly, Runs]
  | commit next => exact hp.elim
  | exec s next ih =>
      rw [exec_bind, CommitsOnly, ih hp]
      constructor
      · rintro h _ a ⟨rest, rfl, hrest⟩
        have hI := h rest a hrest
        rwa [List.append_assoc, List.singleton_append] at hI
      · intro h rest a hrest
        rw [List.append_assoc, List.singleton_append]
        exact h (s :: rest) a ⟨rest, rfl, hrest⟩

/-- Running the statements of a list one by one. -/
theorem runs_forM_execute {xs : List β} {f : β → S} {ss : List S} {u : Unit} :
    (xs.forM fun x => (execute (f x) : Program S ε Unit)).Runs ss u ↔ ss = xs.map f := by
  induction xs generalizing ss with
  | nil => simp [List.forM]
  | cons x xs ih =>
      have hcons : (List.forM (x :: xs) fun x => (execute (f x) : Program S ε Unit))
          = execute (f x) >>= fun _ => xs.forM fun x => execute (f x) := rfl
      rw [hcons, runs_bind]
      constructor
      · rintro ⟨_, _, _, h₁, h₂, rfl⟩
        rw [runs_execute.mp h₁, ih.mp h₂]; rfl
      · rintro rfl
        exact ⟨[f x], ⟨⟩, xs.map f, runs_execute.mpr rfl, ih.mpr rfl, rfl⟩

/-! ## Runs of a sequence, by its first part -/

theorem runs_liftM_bind {x : Except ε α} {f : α → Program S ε β} {ss : List S} {b : β} :
    ((liftM x : Program S ε α) >>= f).Runs ss b ↔ ∃ a, x = .ok a ∧ (f a).Runs ss b := by
  cases x with
  | error e => simp [Runs]
  | ok a => simp

theorem runs_execute_bind {s : S} {f : Unit → Program S ε β} {ss : List S} {b : β} :
    (execute s >>= f).Runs ss b ↔ ∃ rest, ss = s :: rest ∧ (f ⟨⟩).Runs rest b :=
  Iff.rfl

theorem runs_forM_execute_bind {γ : Type} {xs : List γ} {g : γ → S} {f : Unit → Program S ε β} {ss : List S} {b : β} :
    ((xs.forM fun x => (execute (g x) : Program S ε Unit)) >>= f).Runs ss b ↔
      ∃ rest, ss = xs.map g ++ rest ∧ (f ⟨⟩).Runs rest b := by
  rw [runs_bind]
  constructor
  · rintro ⟨ss₁, _, rest, h₁, h₂, rfl⟩
    exact ⟨rest, by rw [runs_forM_execute.mp h₁], h₂⟩
  · rintro ⟨rest, rfl, h⟩
    exact ⟨xs.map g, ⟨⟩, rest, runs_forM_execute.mpr rfl, h, rfl⟩

/-! ## First parts that are known -/

theorem bind_of_ok {x : Except ε α} {a : α} (h : x = .ok a) (f : α → Program S ε β) :
    ((liftM x : Program S ε α) >>= f) = f a := by
  rw [h]
  rfl

theorem bind_bind_of_ok {x : Except ε α} {a : α} (h : x = .ok a) (f : α → Program S ε β) (g : β → Program S ε γ) :
    (((liftM x : Program S ε α) >>= f) >>= g) = (f a >>= g) := by
  rw [h]
  rfl

theorem forM_singleton_bind_bind (x : α) (g : α → S) (f : Unit → Program S ε β) (k : β → Program S ε γ) :
    ((([x].forM fun x => (execute (g x) : Program S ε Unit)) >>= f) >>= k) = exec (g x) (f ⟨⟩ >>= k) := rfl

end Program
end Pmrp
