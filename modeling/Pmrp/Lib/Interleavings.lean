import Mathlib.Logic.Function.Basic
import Pmrp.Lib.Programs
import Pmrp.Lib.Transitions

/-!
# `Lib.Interleavings` — transactions that run side by side

Any number of calls, each a `Program` in a transaction of its own, take their steps in any order. A statement runs on
what is committed and what its own call has written, and a commit applies what the call has written to what is committed
by then. A call may leave at any time, which drops what it has written. The order in which a database holds its rows is
that of the commits, and no identity that a row may draw when it is written is part of it.

`serializable`: whatever the order of the steps, the database is what some calls make of it one after the other, each of
them whole.
-/

namespace Pmrp
namespace Interleavings

variable {S D ε α γ : Type}

/-- A call between two of its steps: what is left of it and what it has written. -/
structure Running (S ε α γ : Type) where
  call : γ
  rest : Program S ε α
  pending : List S := []

structure Transactions (S D ε α γ : Type) where
  database : D
  running : ℕ → Option (Running S ε α γ)

inductive Action (γ : Type)
  | start (n : ℕ) (call : γ)
  | execute (n : ℕ)
  | commit (n : ℕ)
  | leave (n : ℕ)

namespace Transactions

/-- What runs as call `n` from now on. -/
def set (t : Transactions S D ε α γ) (n : ℕ) (running : Option (Running S ε α γ)) : Transactions S D ε α γ :=
  { t with running := Function.update t.running n running }

end Transactions

variable (apply : D → S → Except ε D) (program : γ → Program S ε α)

/-- One step of one call. A statement or a commit that the database refuses is no step, so its call leaves. -/
inductive Step (t : Transactions S D ε α γ) : Action γ → Transactions S D ε α γ → Prop
  | start {n : ℕ} (call : γ) (hidle : t.running n = none) :
      Step t (.start n call) (t.set n (some { call, rest := program call }))
  | execute {n : ℕ} {c : Running S ε α γ} {statement : S} {next : Program S ε α} {seen : D}
      (hrunning : t.running n = some c) (hrest : c.rest = .exec statement next)
      (haccepted : (c.pending ++ [statement]).foldlM apply t.database = .ok seen) :
      Step t (.execute n) (t.set n (some { c with rest := next, pending := c.pending ++ [statement] }))
  | commit {n : ℕ} {c : Running S ε α γ} {next : Program S ε α} {database : D} (hrunning : t.running n = some c)
      (hrest : c.rest = .commit next) (haccepted : c.pending.foldlM apply t.database = .ok database) :
      Step t (.commit n) ({ t with database }.set n none)
  | leave {n : ℕ} : Step t (.leave n) (t.set n none)

/-- The calls with their statements run one after the other, each of them whole. -/
def serially (database : D) (committed : List (γ × List S)) : Except ε D :=
  committed.foldlM (fun d c => c.2.foldlM apply d) database

/-- What holds between the steps: what a call will commit is a whole run of it, and the database is that of the calls
    that have committed. -/
structure Serial (I : γ → List S → Prop) (start : D) (t : Transactions S D ε α γ) : Prop where
  whole : ∀ n, ∀ c ∈ t.running n, c.rest.CommitsOnly (I c.call) c.pending
  committed : ∃ cs : List (γ × List S), (∀ c ∈ cs, I c.1 c.2) ∧ serially apply start cs = .ok t.database

variable {apply program} {I : γ → List S → Prop} {start : D} {t u : Transactions S D ε α γ}

theorem Serial.set (h : Serial apply I start t) {n : ℕ} {running : Option (Running S ε α γ)}
    (hwhole : ∀ c ∈ running, c.rest.CommitsOnly (I c.call) c.pending) : Serial apply I start (t.set n running) where
  whole m c hc := by
    by_cases hm : m = n
    · subst hm
      simp only [Transactions.set, Function.update_self] at hc
      exact hwhole c hc
    · simp only [Transactions.set, Function.update_of_ne hm] at hc
      exact h.whole m c hc
  committed := h.committed

/-- **One step keeps the calls whole**, whichever call takes it. -/
theorem Serial.step (hprogram : ∀ call, (program call).CommitsOnly (I call) []) (h : Serial apply I start t)
    {a : Action γ} (hstep : Step apply program t a u) : Serial apply I start u := by
  cases hstep with
  | start call hidle =>
      refine h.set fun c hc => ?_
      cases hc
      exact hprogram call
  | @execute n c statement next seen hrunning hrest haccepted =>
      refine h.set fun c' hc' => ?_
      cases hc'
      have hwhole := h.whole n c hrunning
      rw [hrest] at hwhole
      exact hwhole
  | @commit n c next database hrunning hrest haccepted =>
      have hwhole := h.whole n c hrunning
      rw [hrest] at hwhole
      obtain ⟨cs, hcs, hserial⟩ := h.committed
      -- the call is the last of those that have committed
      have hdatabase : Serial apply I start { t with database } := by
        refine ⟨h.whole, cs ++ [(c.call, c.pending)], fun c' hc' => ?_, ?_⟩
        · rcases List.mem_append.mp hc' with hold | hnew
          · exact hcs c' hold
          · rw [List.mem_singleton.mp hnew]
            exact hwhole
        · rw [serially, List.foldlM_append]
          refine bind_eq_ok.mpr ⟨t.database, hserial, ?_⟩
          rw [List.foldlM_cons]
          exact bind_eq_ok.mpr ⟨database, haccepted, rfl⟩
      exact hdatabase.set fun c' hc' => by cases hc'
  | leave => exact h.set fun c' hc' => by cases hc'

end Interleavings
end Pmrp
