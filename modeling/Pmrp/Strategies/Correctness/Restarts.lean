import Mathlib.Tactic.Linarith
import Pmrp.Strategies.Restart

/-!
# `Strategies.Correctness.Restarts` — bounded restarts over a run of failures

What a policy says of a failure is one of five verdicts, three comparisons away from the times of the failure. Along a
run the attempts and the times only grow, so a verdict of too many or too late comes back. A verdict is missing where a
time that is computed on the way is after the year 9999: there the policy raises.
-/

namespace Pmrp
namespace Restart

/-! ## Verdicts -/

inductive Verdict
  | notRestartable
  | exhausted
  | late
  | scheduled
  | unrepresentable
  deriving DecidableEq

variable (policy : BoundedRestartPolicy) (failure : StrategyRestartFailure)

def deadlineAt : UTCDateTime := failure.firstFailureAt + policy.deadline

/-- The restart, put off by the whole jitter. -/
def latestRestart : UTCDateTime := failure.latestFailureAt + policy.backoff + policy.jitter

def verdict : Verdict :=
  if failure.failureKind ∉ policy.restartableFailureKinds then .notRestartable
  else if policy.maxAttempts ≤ failure.previousRestartAttempts then .exhausted
  else if ¬IsDatetime (deadlineAt policy failure) then .unrepresentable
  else if deadlineAt policy failure < failure.latestFailureAt then .late
  else if ¬IsDatetime (latestRestart policy failure) then .unrepresentable
  else if deadlineAt policy failure < latestRestart policy failure then .late
  else .scheduled

/-- The times that a verdict on this failure needs are datetimes. -/
def Schedulable : Prop :=
  failure.failureKind ∉ policy.restartableFailureKinds ∨
  policy.maxAttempts ≤ failure.previousRestartAttempts ∨
  IsDatetime (deadlineAt policy failure) ∧
    (deadlineAt policy failure < failure.latestFailureAt ∨ IsDatetime (latestRestart policy failure))

variable {policy failure}

theorem latestFailureAt_le_latestRestart : failure.latestFailureAt ≤ latestRestart policy failure := by
  have hbackoff := policy.backoff_nonneg
  have hjitter := policy.jitter_nonneg
  unfold latestRestart
  linarith

/-- A datetime and what is added to it give a datetime when more gives one. -/
theorem isDatetime_of_le {s t u : UTCDateTime} (hs : IsDatetime s) (hst : s ≤ t) (htu : t ≤ u) (hu : IsDatetime u) :
    IsDatetime t := ⟨hs.1.trans hst, htu.trans hu.2⟩

theorem addTimedelta_overflow {t : UTCDateTime} {d : Timedelta} (h : ¬IsDatetime (t + d)) :
    addTimedelta t d = .error ⟨.overflowError, "date value out of range"⟩ := if_neg h

/-- The restart is a datetime when the latest restart is. -/
theorem isDatetime_restartAfter (h : IsDatetime (latestRestart policy failure)) :
    IsDatetime (failure.latestFailureAt + policy.backoff) :=
  isDatetime_of_le failure.latest_datetime (le_add_of_nonneg_right policy.backoff_nonneg)
    (le_add_of_nonneg_right policy.jitter_nonneg) h

variable (policy failure)

/-- What a policy returns on a verdict. -/
def answer : Verdict → RestartResult StrategyRestartDecision
  | .notRestartable => deny "strategy_restart_failure_kind_not_restartable"
  | .exhausted => deny attemptsExhausted
  | .late => deny deadlineExceeded
  | .scheduled =>
      strategyRestartDecision true "strategy_restart_allowed" (some (failure.previousRestartAttempts + 1))
        (some (failure.latestFailureAt + policy.backoff)) policy.backoff policy.jitter
  | .unrepresentable => .error (.raised ⟨.overflowError, "date value out of range"⟩)

theorem decide_eq : policy.decide failure = answer policy failure (verdict policy failure) := by
  -- the branches of `decide` in their order, each beside the same test of `verdict`
  by_cases hkind : failure.failureKind ∉ policy.restartableFailureKinds
  · rw [BoundedRestartPolicy.decide, verdict, if_pos hkind, if_pos hkind]
    rfl
  by_cases hattempts : policy.maxAttempts ≤ failure.previousRestartAttempts
  · rw [BoundedRestartPolicy.decide, verdict, if_neg hkind, if_neg hkind, if_pos hattempts, if_pos hattempts]
    rfl
  rw [BoundedRestartPolicy.decide, verdict, if_neg hkind, if_neg hkind, if_neg hattempts, if_neg hattempts]
  by_cases hdeadline : IsDatetime (deadlineAt policy failure)
  case neg =>
    rw [if_pos hdeadline, addTimedelta_overflow hdeadline]
    rfl
  have hadd : addTimedelta failure.firstFailureAt policy.deadline = .ok (deadlineAt policy failure) := if_pos hdeadline
  rw [if_neg (not_not_intro hdeadline), hadd]
  show (if deadlineAt policy failure < failure.latestFailureAt then deny deadlineExceeded else _) = _
  by_cases hlate : deadlineAt policy failure < failure.latestFailureAt
  · rw [if_pos hlate, if_pos hlate]
    rfl
  rw [if_neg hlate, if_neg hlate]
  by_cases hrestart : IsDatetime (latestRestart policy failure)
  case neg =>
    rw [if_pos hrestart]
    by_cases hafter : IsDatetime (failure.latestFailureAt + policy.backoff)
    · have hadd' : addTimedelta failure.latestFailureAt policy.backoff =
        .ok (failure.latestFailureAt + policy.backoff) :=
        if_pos hafter
      rw [hadd']
      show (raising (addTimedelta (failure.latestFailureAt + policy.backoff) policy.jitter) >>= _) = _
      rw [addTimedelta_overflow hrestart]
      rfl
    · rw [addTimedelta_overflow hafter]
      rfl
  have hafter : addTimedelta failure.latestFailureAt policy.backoff = .ok (failure.latestFailureAt + policy.backoff) :=
    if_pos (isDatetime_restartAfter hrestart)
  have hjitter : addTimedelta (failure.latestFailureAt + policy.backoff) policy.jitter =
      .ok (latestRestart policy failure) := if_pos hrestart
  rw [if_neg (not_not_intro hrestart), hafter]
  show (raising (addTimedelta (failure.latestFailureAt + policy.backoff) policy.jitter) >>= _) = _
  rw [hjitter]
  show (if deadlineAt policy failure < latestRestart policy failure then deny deadlineExceeded else _) = _
  by_cases hscheduled : deadlineAt policy failure < latestRestart policy failure
  · rw [if_pos hscheduled, if_pos hscheduled]
    rfl
  · rw [if_neg hscheduled, if_neg hscheduled]
    rfl

/-- The decision on an allowed restart. -/
theorem answer_scheduled : ∃ decision, answer policy failure .scheduled = .ok decision ∧
    decision.shouldRestart = true ∧ decision.reasonCode = "strategy_restart_allowed" ∧
    decision.restartAfter = some (failure.latestFailureAt + policy.backoff) := by
  have hattempt : 1 ≤ failure.previousRestartAttempts + 1 := by
    have hnonneg := failure.attempts_nonneg
    omega
  exact strategyRestartDecision_eq_ok (by decide) hattempt policy.backoff_nonneg policy.jitter_nonneg

/-- A verdict that is not of an allowed restart is a refusal, with its reason, or there is none. -/
theorem answer_refused {v : Verdict} (hscheduled : v ≠ .scheduled) (hrepresentable : v ≠ .unrepresentable) :
    ∃ decision, answer policy failure v = .ok decision ∧ decision.shouldRestart = false ∧
      (v = .exhausted ↔ decision.reasonCode = attemptsExhausted) ∧
      (v = .late ↔ decision.reasonCode = deadlineExceeded) := by
  cases v with
  | notRestartable =>
      obtain ⟨decision, hdeny, hrefused, hreason⟩ :=
        @deny_eq_ok "strategy_restart_failure_kind_not_restartable" (by decide)
      refine ⟨decision, hdeny, hrefused, ?_, ?_⟩
      · exact iff_of_false nofun (by rw [hreason]; decide)
      · exact iff_of_false nofun (by rw [hreason]; decide)
  | exhausted =>
      obtain ⟨decision, hdeny, hrefused, hreason⟩ := @deny_eq_ok attemptsExhausted (by decide)
      exact ⟨decision, hdeny, hrefused, iff_of_true rfl hreason, iff_of_false nofun (by rw [hreason]; decide)⟩
  | late =>
      obtain ⟨decision, hdeny, hrefused, hreason⟩ := @deny_eq_ok deadlineExceeded (by decide)
      exact ⟨decision, hdeny, hrefused, iff_of_false nofun (by rw [hreason]; decide), iff_of_true rfl hreason⟩
  | scheduled => exact absurd rfl hscheduled
  | unrepresentable => exact absurd rfl hrepresentable

variable {policy failure}

/-! ## Verdicts and times -/

theorem schedulable_iff : Schedulable policy failure ↔ verdict policy failure ≠ .unrepresentable := by
  unfold Schedulable verdict
  split_ifs with hkind hattempts hdeadline hlate hrestart hscheduled
  · exact iff_of_true (Or.inr (Or.inl hattempts)) nofun
  · exact iff_of_true (Or.inr (Or.inr ⟨hdeadline, Or.inl hlate⟩)) nofun
  · exact iff_of_true (Or.inr (Or.inr ⟨hdeadline, Or.inr hrestart⟩)) nofun
  · exact iff_of_true (Or.inr (Or.inr ⟨hdeadline, Or.inr hrestart⟩)) nofun
  · refine iff_of_false ?_ (not_not_intro rfl)
    rintro (hnot | hmax | ⟨-, hbefore | hin⟩)
    · exact hnot hkind
    · exact hattempts hmax
    · exact hlate hbefore
    · exact hrestart hin
  · refine iff_of_false ?_ (not_not_intro rfl)
    rintro (hnot | hmax | ⟨hin, -⟩)
    · exact hnot hkind
    · exact hattempts hmax
    · exact hdeadline hin
  · exact iff_of_true (Or.inl hkind) nofun

/-- A restart is scheduled with attempts left, and the whole jitter ends by the deadline. -/
theorem of_scheduled (h : verdict policy failure = .scheduled) :
    failure.previousRestartAttempts < policy.maxAttempts ∧
      latestRestart policy failure ≤ deadlineAt policy failure := by
  unfold verdict at h
  split_ifs at h with hkind hattempts hdeadline hlate hrestart hscheduled
  exact ⟨not_le.mp hattempts, not_lt.mp hscheduled⟩

theorem of_exhausted (h : verdict policy failure = .exhausted) :
    policy.maxAttempts ≤ failure.previousRestartAttempts := by
  unfold verdict at h
  split_ifs at h with hkind hattempts
  exact hattempts

/-- The latest restart is past the deadline, also where the failure itself is. -/
theorem of_late (h : verdict policy failure = .late) : deadlineAt policy failure < latestRestart policy failure := by
  unfold verdict at h
  split_ifs at h with hkind hattempts hdeadline hlate hrestart hscheduled
  · exact hlate.trans_le latestFailureAt_le_latestRestart
  · exact hscheduled

/-- Too many attempts or too late a restart is no scheduled restart. -/
theorem ne_scheduled (h : policy.maxAttempts ≤ failure.previousRestartAttempts ∨
    deadlineAt policy failure < latestRestart policy failure) : verdict policy failure ≠ .scheduled := by
  intro hscheduled
  obtain ⟨hattempts, htime⟩ := of_scheduled hscheduled
  rcases h with hmax | hlate
  · exact absurd hattempts (not_lt.mpr hmax)
  · exact absurd hlate (not_lt.mpr htime)

/-! ## Runs -/

/-- The policy allows a restart after the failure. -/
def allows (policy : BoundedRestartPolicy) (failure : StrategyRestartFailure) : Bool :=
  match policy.decide failure with
  | .ok decision => decision.shouldRestart
  | .error _ => false

theorem allows_iff : allows policy failure = true ↔ verdict policy failure = .scheduled := by
  unfold allows
  rw [decide_eq]
  by_cases hscheduled : verdict policy failure = .scheduled
  · obtain ⟨decision, hanswer, hshould, -⟩ := answer_scheduled policy failure
    rw [hscheduled, hanswer]
    exact iff_of_true hshould rfl
  · refine iff_of_false ?_ hscheduled
    by_cases hraises : verdict policy failure = .unrepresentable
    · rw [hraises]
      exact Bool.false_ne_true
    · obtain ⟨decision, hanswer, hrefused, -⟩ := answer_refused policy failure hscheduled hraises
      rw [hanswer]
      show decision.shouldRestart ≠ true
      rw [hrefused]
      exact Bool.false_ne_true

/-- Failures of one strategy since its first one, the next after this many restarts and not before this time. -/
inductive RunFrom (policy : BoundedRestartPolicy) (strategyId : StrategyId) (firstFailureAt : UTCDateTime) :
    ℤ → UTCDateTime → List StrategyRestartFailure → Prop
  | nil {restarts : ℤ} {last : UTCDateTime} : RunFrom policy strategyId firstFailureAt restarts last []
  | cons {restarts : ℤ} {last : UTCDateTime} {failure : StrategyRestartFailure}
      {failures : List StrategyRestartFailure} (hstrategy : failure.strategyId = strategyId)
      (hfirst : failure.firstFailureAt = firstFailureAt) (hattempts : failure.previousRestartAttempts = restarts)
      (hlast : last ≤ failure.latestFailureAt)
      (hrest : RunFrom policy strategyId firstFailureAt (if allows policy failure then restarts + 1 else restarts)
        failure.latestFailureAt failures) :
      RunFrom policy strategyId firstFailureAt restarts last (failure :: failures)

/-- A run of failures of one strategy, from its first one. -/
def IsRun (policy : BoundedRestartPolicy) (failures : List StrategyRestartFailure) : Prop :=
  ∃ strategyId firstFailureAt, RunFrom policy strategyId firstFailureAt 0 firstFailureAt failures

structure RestartsBounded (policy : BoundedRestartPolicy) (failures : List StrategyRestartFailure) : Prop where
  attempts : ((failures.filter fun failure => allows policy failure).length : ℤ) ≤ policy.maxAttempts
  schedule : ∀ failure ∈ failures, ∀ decision, policy.decide failure = .ok decision →
    decision.shouldRestart = true → ∃ restartAfter, decision.restartAfter = some restartAfter ∧
      restartAfter + policy.jitter ≤ failure.firstFailureAt + policy.deadline ∧
      failure.latestFailureAt + policy.backoff ≤ restartAfter
  refused : failures.Pairwise fun earlier later => ∀ decision, policy.decide earlier = .ok decision →
    decision.shouldRestart = false →
    decision.reasonCode = attemptsExhausted ∨ decision.reasonCode = deadlineExceeded →
    ∃ decision', policy.decide later = .ok decision' ∧ decision'.shouldRestart = false
  decides : ∀ failure ∈ failures, ∃ decision, policy.decide failure = .ok decision

variable {strategyId : StrategyId} {firstFailureAt last : UTCDateTime} {restarts : ℤ}
  {failures : List StrategyRestartFailure}

/-- Attempts and times only grow. -/
theorem RunFrom.later (h : RunFrom policy strategyId firstFailureAt restarts last failures) :
    ∀ failure ∈ failures, failure.firstFailureAt = firstFailureAt ∧ restarts ≤ failure.previousRestartAttempts ∧
      last ≤ failure.latestFailureAt := by
  induction h with
  | nil =>
      intro failure hfailure
      cases hfailure
  | @cons restarts last failure failures hstrategy hfirst hattempts hlast hrest ih =>
      rw [List.forall_mem_cons]
      refine ⟨⟨hfirst, hattempts.ge, hlast⟩, ?_⟩
      intro later hlater
      obtain ⟨hfirst', hattempts', hlast'⟩ := ih later hlater
      refine ⟨hfirst', le_trans ?_ hattempts', hlast.trans hlast'⟩
      split_ifs
      · exact (lt_add_one restarts).le
      · exact le_rfl

/-- The restarts so far and those to come stay within the bound. -/
theorem RunFrom.attempts_le (h : RunFrom policy strategyId firstFailureAt restarts last failures)
    (hrestarts : restarts ≤ policy.maxAttempts) :
    restarts + ((failures.filter fun failure => allows policy failure).length : ℤ) ≤ policy.maxAttempts := by
  induction h with
  | nil =>
      show _ + (0 : ℤ) ≤ _
      rw [add_zero]
      exact hrestarts
  | @cons restarts last failure failures hstrategy hfirst hattempts hlast hrest ih =>
      by_cases hallows : allows policy failure = true
      · obtain ⟨hleft, -⟩ := of_scheduled (allows_iff.mp hallows)
        rw [hattempts] at hleft
        rw [if_pos hallows] at ih
        have hbound := ih (Int.add_one_le_of_lt hleft)
        rw [List.filter_cons_of_pos hallows, List.length_cons, Nat.cast_succ]
        linarith
      · rw [if_neg hallows] at ih
        rw [List.filter_cons_of_neg hallows]
        exact ih hrestarts

/-- An allowed restart waits for the backoff and, with the jitter, meets the deadline. -/
theorem schedule_of_decide {decision : StrategyRestartDecision} (hdecide : policy.decide failure = .ok decision)
    (hshould : decision.shouldRestart = true) : ∃ restartAfter, decision.restartAfter = some restartAfter ∧
      restartAfter + policy.jitter ≤ failure.firstFailureAt + policy.deadline ∧
      failure.latestFailureAt + policy.backoff ≤ restartAfter := by
  have hallows : allows policy failure = true := by
    unfold allows
    rw [hdecide]
    exact hshould
  have hscheduled := allows_iff.mp hallows
  obtain ⟨decision', hanswer, -, -, hrestartAfter⟩ := answer_scheduled policy failure
  rw [decide_eq, hscheduled, hanswer] at hdecide
  cases hdecide
  exact ⟨_, hrestartAfter, (of_scheduled hscheduled).2, le_rfl⟩

/-- A refusal for the attempts or the deadline comes back at any later failure, unless the policy raises there. -/
theorem refused_later {later : StrategyRestartFailure} {decision : StrategyRestartDecision}
    (hfirst : later.firstFailureAt = failure.firstFailureAt)
    (hattempts : failure.previousRestartAttempts ≤ later.previousRestartAttempts)
    (hlast : failure.latestFailureAt ≤ later.latestFailureAt) (hschedulable : Schedulable policy later)
    (hdecide : policy.decide failure = .ok decision) (hrefused : decision.shouldRestart = false)
    (hreason : decision.reasonCode = attemptsExhausted ∨ decision.reasonCode = deadlineExceeded) :
    ∃ decision', policy.decide later = .ok decision' ∧ decision'.shouldRestart = false := by
  have hscheduled : verdict policy failure ≠ .scheduled := by
    intro hscheduled
    obtain ⟨decision', hanswer, hshould, -⟩ := answer_scheduled policy failure
    rw [decide_eq, hscheduled, hanswer] at hdecide
    cases hdecide
    rw [hshould] at hrefused
    cases hrefused
  have hrepresentable : verdict policy failure ≠ .unrepresentable := by
    intro hraises
    rw [decide_eq, hraises] at hdecide
    cases hdecide
  obtain ⟨decision', hanswer, -, hexhausted, hlate⟩ := answer_refused policy failure hscheduled hrepresentable
  rw [decide_eq, hanswer] at hdecide
  cases hdecide
  have hlater : verdict policy later ≠ .scheduled := by
    refine ne_scheduled ?_
    rcases hreason with hreason | hreason
    · exact Or.inl ((of_exhausted (hexhausted.mpr hreason)).trans hattempts)
    · right
      have htime := of_late (hlate.mpr hreason)
      unfold deadlineAt latestRestart at htime ⊢
      rw [hfirst]
      linarith
  obtain ⟨refusal, hanswer', hrefused', -⟩ := answer_refused policy later hlater (schedulable_iff.mp hschedulable)
  exact ⟨refusal, (decide_eq policy later).trans hanswer', hrefused'⟩

theorem RunFrom.refused (h : RunFrom policy strategyId firstFailureAt restarts last failures)
    (hschedulable : ∀ failure ∈ failures, Schedulable policy failure) :
    failures.Pairwise fun earlier later => ∀ decision, policy.decide earlier = .ok decision →
      decision.shouldRestart = false →
      decision.reasonCode = attemptsExhausted ∨ decision.reasonCode = deadlineExceeded →
      ∃ decision', policy.decide later = .ok decision' ∧ decision'.shouldRestart = false := by
  induction h with
  | nil => exact List.Pairwise.nil
  | @cons restarts last failure failures hstrategy hfirst hattempts hlast hrest ih =>
      rw [List.forall_mem_cons] at hschedulable
      refine List.pairwise_cons.mpr ⟨?_, ih hschedulable.2⟩
      intro later hlater decision hdecide hrefused hreason
      obtain ⟨hfirst', hattempts', hlast'⟩ := hrest.later later hlater
      refine refused_later (hfirst'.trans hfirst.symm) ?_ hlast' (hschedulable.2 later hlater) hdecide hrefused hreason
      rw [hattempts]
      refine le_trans ?_ hattempts'
      split_ifs
      · exact (lt_add_one restarts).le
      · exact le_rfl

theorem decides_iff_schedulable : (∃ decision, policy.decide failure = .ok decision) ↔ Schedulable policy failure := by
  rw [schedulable_iff, decide_eq]
  constructor
  · rintro ⟨decision, hdecide⟩ hraises
    rw [hraises] at hdecide
    cases hdecide
  · intro hrepresentable
    by_cases hscheduled : verdict policy failure = .scheduled
    · obtain ⟨decision, hanswer, -⟩ := answer_scheduled policy failure
      exact ⟨decision, hscheduled ▸ hanswer⟩
    · obtain ⟨decision, hanswer, -⟩ := answer_refused policy failure hscheduled hrepresentable
      exact ⟨decision, hanswer⟩

/-- **Restarts are bounded over a run** exactly when the times that its failures need are datetimes. -/
theorem restartsBounded_iff (hrun : IsRun policy failures) :
    RestartsBounded policy failures ↔ ∀ failure ∈ failures, Schedulable policy failure := by
  obtain ⟨strategyId, firstFailureAt, hrun⟩ := hrun
  constructor
  · intro hbounded failure hfailure
    exact decides_iff_schedulable.mp (hbounded.decides failure hfailure)
  · intro hschedulable
    have hattempts := hrun.attempts_le (zero_le_one.trans policy.maxAttempts_pos)
    rw [zero_add] at hattempts
    exact
      { attempts := hattempts
        schedule := fun failure _ decision => schedule_of_decide
        refused := hrun.refused hschedulable
        decides := fun failure hfailure => decides_iff_schedulable.mpr (hschedulable failure hfailure) }

/-! ## A deadline after the year 9999 -/

/-- One attempt without backoff or jitter, within this deadline. -/
def singleRestart (deadline : Timedelta) (h : 0 < deadline) : BoundedRestartPolicy where
  maxAttempts := 1
  restartableFailureKinds := [.subscription]
  backoff := 0
  deadline := deadline
  jitter := 0
  maxAttempts_pos := le_rfl
  kinds_ne_nil := List.cons_ne_nil _ _
  backoff_nonneg := le_rfl
  deadline_pos := h
  jitter_nonneg := le_rfl

theorem isIdentifier_feed : IsIdentifier "strat_" "strat_feed" := by decide +kernel

/-- The first subscription failure, on the first of January 2026. -/
def subscriptionFailure : StrategyRestartFailure where
  strategyId := ⟨"strat_feed", isIdentifier_feed⟩
  failureKind := .subscription
  reasonCode := "feed_lost"
  previousRestartAttempts := 0
  firstFailureAt := 63902822400000000
  latestFailureAt := 63902822400000000
  reason_text := by decide
  attempts_nonneg := le_rfl
  first_datetime := by decide
  latest_datetime := by decide
  first_le_latest := le_rfl

theorem subscriptionFailure_isRun (policy : BoundedRestartPolicy) : IsRun policy [subscriptionFailure] :=
  ⟨_, _, RunFrom.cons rfl rfl rfl le_rfl RunFrom.nil⟩

/-- The failure after the one restart, ten minutes later. -/
def failureAgain : StrategyRestartFailure where
  strategyId := ⟨"strat_feed", isIdentifier_feed⟩
  failureKind := .subscription
  reasonCode := "feed_lost"
  previousRestartAttempts := 1
  firstFailureAt := 63902822400000000
  latestFailureAt := 63902823000000000
  reason_text := by decide
  attempts_nonneg := Int.one_nonneg
  first_datetime := by decide
  latest_datetime := by decide
  first_le_latest := by decide

/-- The first failure is restarted, and the second is refused. -/
theorem failureAgain_isRun :
    IsRun (singleRestart 3600000000 (by decide)) [subscriptionFailure, failureAgain] := by
  have hallowed : allows (singleRestart 3600000000 (by decide)) subscriptionFailure = true := rfl
  refine ⟨_, _, RunFrom.cons rfl rfl rfl le_rfl (RunFrom.cons rfl rfl ?_ (by decide) RunFrom.nil)⟩
  rw [hallowed, if_pos rfl]
  rfl

theorem restartsBounded_iff_hour :
    RestartsBounded (singleRestart 3600000000 (by decide)) [subscriptionFailure, failureAgain] := by
  refine (restartsBounded_iff failureAgain_isRun).mpr ?_
  rw [List.forall_mem_cons, List.forall_mem_singleton]
  exact ⟨Or.inr (Or.inr ⟨by decide, Or.inr (by decide)⟩), Or.inr (Or.inl le_rfl)⟩

/-- The longest duration as the deadline: the policy raises at the first failure. -/
theorem longest_deadline_raises :
    IsRun (singleRestart (1000000000 * 86400000000 - 1) (by decide)) [subscriptionFailure] ∧
    (singleRestart (1000000000 * 86400000000 - 1) (by decide)).decide subscriptionFailure =
      .error (.raised ⟨.overflowError, "date value out of range"⟩) ∧
    ¬RestartsBounded (singleRestart (1000000000 * 86400000000 - 1) (by decide)) [subscriptionFailure] := by
  have hraises : (singleRestart (1000000000 * 86400000000 - 1) (by decide)).decide subscriptionFailure =
      .error (.raised ⟨.overflowError, "date value out of range"⟩) := rfl
  refine ⟨subscriptionFailure_isRun _, hraises, fun hbounded => ?_⟩
  obtain ⟨decision, hdecide⟩ := hbounded.decides subscriptionFailure List.mem_cons_self
  rw [hraises] at hdecide
  cases hdecide

end Restart
end Pmrp
