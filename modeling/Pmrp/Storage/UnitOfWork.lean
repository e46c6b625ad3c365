import Pmrp.Lib.Programs
import Pmrp.Schemas.Primitives

/-!
# `Storage.UnitOfWork` — one transaction

`SqlAlchemyUnitOfWork` over a database `D` whose statements are `S`; `apply` says what one statement does to the
database, or that it refuses. A unit of work holds the statements it has flushed. They become part of the
database when it commits, and are dropped when its block is left in any other way.

`run` is the block run alone. A database step may fail for a reason of its own: `fault n` is what step `n`
raises, if anything.
-/

namespace Pmrp

variable {S D α β : Type}

structure UnitOfWork (S : Type) where
  pending : List S := []
  finished : Bool := false

namespace UnitOfWork

variable (apply : D → S → Result D)

/-- The `session` property of a unit of work that has been entered. -/
def session (u : UnitOfWork S) : Result Unit :=
  raiseIf (u.finished = true)
    ⟨.unitOfWorkStateError, "unit of work transaction is already finished"⟩

/-- A repository writes and flushes. The statement runs on what is committed and what this unit of work has
    written. -/
def execute (database : D) (u : UnitOfWork S) (s : S) : Result (UnitOfWork S) := do
  u.session
  let _ ← (u.pending ++ [s]).foldlM apply database
  pure { u with pending := u.pending ++ [s] }

def commit (database : D) (u : UnitOfWork S) : Result (D × UnitOfWork S) := do
  u.session
  let database ← u.pending.foldlM apply database
  pure (database, { pending := [], finished := true })

variable {apply} {database database' : D} {u u' : UnitOfWork S} {s : S}

theorem execute_eq_ok (h : u.execute apply database s = .ok u') :
    u.finished = false ∧ u' = { u with pending := u.pending ++ [s] } := by
  simp only [execute, session, bind_eq_ok, raiseIf_eq_ok, pure_eq_ok, exists_const, Bool.not_eq_true] at h
  obtain ⟨hopen, -, -, rfl⟩ := h
  exact ⟨hopen, rfl⟩

theorem commit_eq_ok (h : u.commit apply database = .ok (database', u')) :
    u.finished = false ∧ u.pending.foldlM apply database = .ok database' ∧
      u' = { pending := [], finished := true } := by
  simp only [commit, session, bind_eq_ok, raiseIf_eq_ok, pure_eq_ok, exists_const, Bool.not_eq_true,
    Prod.mk.injEq] at h
  obtain ⟨hopen, _, hall, rfl, rfl⟩ := h
  exact ⟨hopen, hall, rfl⟩

end UnitOfWork

/-! ## A program run alone -/

structure Session (S D : Type) where
  database : D
  unitOfWork : UnitOfWork S := {}
  /-- How many database steps have been taken. -/
  steps : ℕ := 0

namespace Session

variable (apply : D → S → Result D) (fault : ℕ → Option PyError)

/-- A database step: it fails from outside, or for a reason of its own, or leads on. -/
def attempt (s : Session S D) (step : Result (D × UnitOfWork S)) : Result (Session S D) :=
  match fault s.steps with
  | some e => .error e
  | none => step.map fun (database, u) => ⟨database, u, s.steps + 1⟩

def run : Program S PyError α → Session S D → Result α × Session S D
  | .done a, s => (.ok a, s)
  | .raise e, s => (.error e, s)
  | .exec statement next, s =>
      match s.attempt fault ((s.unitOfWork.execute apply s.database statement).map (s.database, ·)) with
      | .error e => (.error e, s)
      | .ok s' => run next s'
  | .commit next, s =>
      match s.attempt fault (s.unitOfWork.commit apply s.database) with
      | .error e => (.error e, s)
      | .ok s' => run next s'

end Session

/-- The block run on a database: what it returns or raises, and the database afterwards. -/
def transact (apply : D → S → Result D) (fault : ℕ → Option PyError) (p : Program S PyError α)
    (database : D) : Result α × D :=
  let (result, session) := Session.run apply fault p { database := database }
  (result, session.database)

namespace Session

variable {apply : D → S → Result D} {fault : ℕ → Option PyError} {s s' : Session S D}

theorem run_bind (p : Program S PyError α) (f : α → Program S PyError β) (s : Session S D) :
    run apply fault (p >>= f) s =
      match run apply fault p s with
      | (.ok a, s') => run apply fault (f a) s'
      | (.error e, s') => (.error e, s') := by
  induction p generalizing s with
  | done a => rfl
  | raise e => rfl
  | exec statement next ih =>
      rw [Program.exec_bind, run, run]
      split
      · rfl
      · exact ih _
  | commit next ih =>
      rw [Program.commit_bind, run, run]
      split
      · rfl
      · exact ih _

theorem attempt_eq_ok {step : Result (D × UnitOfWork S)} (h : s.attempt fault step = .ok s') :
    step = .ok (s'.database, s'.unitOfWork) := by
  unfold attempt at h
  split at h
  · cases h
  · obtain ⟨⟨database, u⟩, hstep, rfl⟩ := map_eq_ok.mp h
    exact hstep

/-- Before the commit the database does not change, and the statements wait in the unit of work. -/
theorem run_of_commitFree {p : Program S PyError α} (hp : p.CommitFree) {r : Result α}
    (h : run apply fault p s = (r, s')) :
    s'.database = s.database ∧
      ∀ a, r = .ok a → ∃ ss, p.Runs ss a ∧
        s'.unitOfWork = { s.unitOfWork with pending := s.unitOfWork.pending ++ ss } := by
  induction p generalizing s with
  | done a =>
      obtain ⟨rfl, rfl⟩ := Prod.mk.inj h
      refine ⟨rfl, fun b hb => ⟨[], ⟨rfl, Except.ok.inj hb⟩, ?_⟩⟩
      rw [List.append_nil]
  | raise e =>
      obtain ⟨rfl, rfl⟩ := Prod.mk.inj h
      refine ⟨rfl, fun b hb => by cases hb⟩
  | commit next => exact hp.elim
  | exec statement next ih =>
      rw [run] at h
      split at h
      · obtain ⟨rfl, rfl⟩ := Prod.mk.inj h
        refine ⟨rfl, fun b hb => by cases hb⟩
      · rename_i s₁ hs₁
        obtain ⟨u, hexec, hpair⟩ := map_eq_ok.mp (attempt_eq_ok hs₁)
        obtain ⟨hdatabase, hu⟩ := Prod.mk.inj hpair
        obtain ⟨-, rfl⟩ := UnitOfWork.execute_eq_ok hexec
        obtain ⟨hkept, hruns⟩ := ih hp h
        refine ⟨hkept.trans hdatabase.symm, fun a ha => ?_⟩
        obtain ⟨ss, hss, hu'⟩ := hruns a ha
        refine ⟨statement :: ss, ⟨ss, rfl, hss⟩, ?_⟩
        rw [hu', ← hu, List.append_assoc, List.singleton_append]

end Session

variable {apply : D → S → Result D} {fault : ℕ → Option PyError}

/-- What follows a program without the database sees its result only. -/
theorem transact_bind_liftM (p : Program S PyError α) (q : α → Result β) (database : D) :
    transact apply fault (p >>= fun a => liftM (q a)) database =
      ((transact apply fault p database).1 >>= q, (transact apply fault p database).2) := by
  unfold transact
  rw [Session.run_bind]
  generalize Session.run apply fault p _ = outcome
  obtain ⟨r, s⟩ := outcome
  cases r with
  | error e => rfl
  | ok a =>
      dsimp only
      rw [ok_bind]
      cases q a <;> rfl

/-- **All or nothing.** A program that commits once and then only looks at its results either raises, and the
    database is as it was, or has run all its statements on it. -/
theorem transact_all_or_nothing {p : Program S PyError α} (hp : p.CommitFree) (q : α → Result β)
    (database : D) :
    (∃ a ss database', p.Runs ss a ∧ ss.foldlM apply database = .ok database' ∧
      transact apply fault (p >>= fun a => Program.commitPending >>= fun _ => liftM (q a)) database
        = (q a, database')) ∨
    ∃ e, transact apply fault (p >>= fun a => Program.commitPending >>= fun _ => liftM (q a)) database
      = (.error e, database) := by
  unfold transact
  rw [Session.run_bind]
  cases hrun : Session.run apply fault p { database := database } with
  | mk r s =>
    obtain ⟨hdatabase, hruns⟩ := Session.run_of_commitFree hp hrun
    cases r with
    | error e => exact Or.inr ⟨e, congrArg (Prod.mk _) hdatabase⟩
    | ok a =>
        obtain ⟨ss, hss, hu⟩ := hruns a rfl
        dsimp only
        rw [show (Program.commitPending >>= fun _ => liftM (q a) : Program S PyError β)
          = .commit (liftM (q a)) from rfl, Session.run]
        split
        · rename_i e _
          exact Or.inr ⟨e, congrArg (Prod.mk _) hdatabase⟩
        · rename_i s₁ hs₁
          obtain ⟨-, hall, -⟩ := UnitOfWork.commit_eq_ok (Session.attempt_eq_ok hs₁)
          rw [hu, hdatabase] at hall
          refine Or.inl ⟨a, ss, s₁.database, hss, hall, ?_⟩
          cases q a <;> rfl

end Pmrp
