import Pmrp.Schemas.Parsing

/-!
# `Strategies.Restart` — whether a failed strategy restarts

`strategies/restart.py`: the failure that a policy is asked about, the decision it returns, and the bounded policy. Each
record holds what its constructor checks.
-/

namespace Pmrp
namespace Restart

/-- A `StrategyRestartPolicyError`, or something else that is raised. -/
inductive RestartError
  | policyError (safeMessage reasonCode : String) (context : List (String × String))
  | raised (error : PyError)
  deriving DecidableEq

abbrev RestartResult := Except RestartError

/-- The exception passes through. -/
def raising {α : Type} : Result α → RestartResult α
  | .ok a => .ok a
  | .error e => .error (.raised e)

@[simp] theorem raising_ok {α : Type} (a : α) : raising (.ok a) = .ok a := rfl

/-! ## Validation -/

def textError (fieldName : String) : RestartError :=
  .policyError s!"{fieldName} must be nonempty without surrounding whitespace" "strategy_restart_text_invalid" []

def negativeDurationError (fieldName : String) : RestartError :=
  .policyError s!"{fieldName} must not be negative" "strategy_restart_duration_invalid" []

def positiveIntError (fieldName : String) (value : ℤ) : RestartError :=
  .policyError s!"{fieldName} must be positive" "strategy_restart_count_invalid" [(fieldName, toString value)]

def decisionError (safeMessage : String) : RestartError :=
  .policyError safeMessage "strategy_restart_decision_invalid" []

theorem isDatetime_of_toUtc {value : IsoDatetime} {t : UTCDateTime} (h : value.toUtc = .ok t) : IsDatetime t := by
  unfold IsoDatetime.toUtc at h
  cases hoffset : value.utcoffset with
  | none =>
      rw [hoffset] at h
      cases h
  | some offset =>
      rw [hoffset] at h
      obtain ⟨hin, rfl⟩ := addTimedelta_eq_ok.mp h
      exact hin

/-- `_normalize_restart_datetime`. -/
def normalizeRestartDatetime (value : IsoDatetime) (fieldName : String) (context : List (String × String)) :
    RestartResult { t : UTCDateTime // IsDatetime t } :=
  match h : value.toUtc with
  | .ok t => .ok ⟨t, isDatetime_of_toUtc h⟩
  | .error e =>
      if e.isHandled then
        .error (.policyError s!"{fieldName} must be a timezone-aware datetime" "strategy_restart_datetime_invalid"
          (context ++ [("field_name", fieldName)]))
      else .error (.raised e)

/-! ## Failures -/

inductive StrategyRestartFailureKind
  | initialization
  | subscription
  | eventProcessing
  | shutdown
  deriving DecidableEq

def StrategyRestartFailureKind.value : StrategyRestartFailureKind → String
  | .initialization => "initialization"
  | .subscription => "subscription"
  | .eventProcessing => "event_processing"
  | .shutdown => "shutdown"

structure StrategyRestartFailure where
  strategyId : StrategyId
  failureKind : StrategyRestartFailureKind
  reasonCode : String
  previousRestartAttempts : ℤ
  firstFailureAt : UTCDateTime
  latestFailureAt : UTCDateTime
  reason_text : IsStrippedText reasonCode
  attempts_nonneg : 0 ≤ previousRestartAttempts
  first_datetime : IsDatetime firstFailureAt
  latest_datetime : IsDatetime latestFailureAt
  first_le_latest : firstFailureAt ≤ latestFailureAt

/-- The constructor. -/
def strategyRestartFailure (strategyId : StrategyId) (failureKind : StrategyRestartFailureKind) (reasonCode : String)
    (previousRestartAttempts : ℤ) (firstFailureAt latestFailureAt : IsoDatetime) :
    RestartResult StrategyRestartFailure :=
  let context := [("strategy_id", strategyId.val), ("failure_kind", failureKind.value)]
  if hreason : ¬IsStrippedText reasonCode then .error (textError "reason_code")
  else if hattempts : previousRestartAttempts < 0 then
    .error (.policyError "previous_restart_attempts must not be negative" "strategy_restart_count_invalid"
      [("previous_restart_attempts", toString previousRestartAttempts)])
  else do
    let first ← normalizeRestartDatetime firstFailureAt "first_failure_at" context
    let latest ← normalizeRestartDatetime latestFailureAt "latest_failure_at" context
    if horder : latest.val < first.val then
      .error (.policyError "latest_failure_at must not be before first_failure_at"
        "strategy_restart_failure_time_order_invalid" context)
    else
      .ok
        { strategyId, failureKind, reasonCode, previousRestartAttempts, firstFailureAt := first.val
          latestFailureAt := latest.val, reason_text := not_not.mp hreason, attempts_nonneg := not_lt.mp hattempts
          first_datetime := first.property, latest_datetime := latest.property, first_le_latest := not_lt.mp horder }

/-! ## Decisions -/

/-- The next attempt and its time are given exactly when the restart is allowed. -/
def DecisionShape : Bool → Option ℤ → Option UTCDateTime → Prop
  | true, some nextAttempt, some _ => 1 ≤ nextAttempt
  | false, none, none => True
  | _, _, _ => False

structure StrategyRestartDecision where
  shouldRestart : Bool
  reasonCode : String
  nextAttempt : Option ℤ
  restartAfter : Option UTCDateTime
  backoff : Timedelta
  jitter : Timedelta
  reason_text : IsStrippedText reasonCode
  backoff_nonneg : 0 ≤ backoff
  jitter_nonneg : 0 ≤ jitter
  shape : DecisionShape shouldRestart nextAttempt restartAfter

/-- The constructor. -/
def strategyRestartDecision (shouldRestart : Bool) (reasonCode : String) (nextAttempt : Option ℤ)
    (restartAfter : Option UTCDateTime) (backoff jitter : Timedelta) : RestartResult StrategyRestartDecision :=
  if hreason : ¬IsStrippedText reasonCode then .error (textError "reason_code")
  else if hbackoff : backoff < 0 then .error (negativeDurationError "backoff")
  else if hjitter : jitter < 0 then .error (negativeDurationError "jitter")
  else
    match shouldRestart, nextAttempt, restartAfter with
    | true, none, _ => .error (.policyError "next_attempt must be an int" "strategy_restart_count_invalid" [])
    | true, some attempt, none =>
        if attempt < 1 then .error (positiveIntError "next_attempt" attempt)
        else .error (decisionError "restart_after is required when restart is allowed")
    | true, some attempt, some time =>
        if hattempt : attempt < 1 then .error (positiveIntError "next_attempt" attempt)
        else
          .ok
            { shouldRestart := true, reasonCode, nextAttempt := some attempt, restartAfter := some time, backoff, jitter
              reason_text := not_not.mp hreason, backoff_nonneg := not_lt.mp hbackoff
              jitter_nonneg := not_lt.mp hjitter, shape := not_lt.mp hattempt }
    | false, some _, _ => .error (decisionError "next_attempt must be absent")
    | false, none, some _ => .error (decisionError "restart_after must be absent when restart is denied")
    | false, none, none =>
        .ok
          { shouldRestart := false, reasonCode, nextAttempt := none, restartAfter := none, backoff, jitter
            reason_text := not_not.mp hreason, backoff_nonneg := not_lt.mp hbackoff
            jitter_nonneg := not_lt.mp hjitter, shape := trivial }

/-! ## The policy -/

structure BoundedRestartPolicy where
  maxAttempts : ℤ
  restartableFailureKinds : List StrategyRestartFailureKind
  backoff : Timedelta
  deadline : Timedelta
  jitter : Timedelta
  maxAttempts_pos : 1 ≤ maxAttempts
  kinds_ne_nil : restartableFailureKinds ≠ []
  backoff_nonneg : 0 ≤ backoff
  deadline_pos : 0 < deadline
  jitter_nonneg : 0 ≤ jitter

/-- The constructor. -/
def boundedRestartPolicy (maxAttempts : ℤ) (restartableFailureKinds : List StrategyRestartFailureKind)
    (backoff deadline jitter : Timedelta) : RestartResult BoundedRestartPolicy :=
  if hmax : maxAttempts < 1 then .error (positiveIntError "max_attempts" maxAttempts)
  else if hkinds : restartableFailureKinds = [] then
    .error (.policyError "restartable_failure_kinds must be nonempty" "strategy_restart_failure_kinds_invalid" [])
  else if hbackoff : backoff < 0 then .error (negativeDurationError "backoff")
  else if hdeadline : deadline ≤ 0 then
    .error (.policyError "deadline must be positive" "strategy_restart_duration_invalid" [])
  else if hjitter : jitter < 0 then .error (negativeDurationError "jitter")
  else
    .ok
      { maxAttempts, restartableFailureKinds, backoff, deadline, jitter, maxAttempts_pos := not_lt.mp hmax
        kinds_ne_nil := hkinds, backoff_nonneg := not_lt.mp hbackoff, deadline_pos := not_le.mp hdeadline
        jitter_nonneg := not_lt.mp hjitter }

def deny (reasonCode : String) : RestartResult StrategyRestartDecision :=
  strategyRestartDecision false reasonCode none none 0 0

def attemptsExhausted : String := "strategy_restart_attempts_exhausted"
def deadlineExceeded : String := "strategy_restart_deadline_exceeded"

/-- `BoundedRestartPolicy.decide`. -/
def BoundedRestartPolicy.decide (policy : BoundedRestartPolicy) (failure : StrategyRestartFailure) :
    RestartResult StrategyRestartDecision :=
  if failure.failureKind ∉ policy.restartableFailureKinds then deny "strategy_restart_failure_kind_not_restartable"
  else if policy.maxAttempts ≤ failure.previousRestartAttempts then deny attemptsExhausted
  else do
    let deadlineAt ← raising (addTimedelta failure.firstFailureAt policy.deadline)
    if deadlineAt < failure.latestFailureAt then deny deadlineExceeded
    else do
      let restartAfter ← raising (addTimedelta failure.latestFailureAt policy.backoff)
      let latestScheduledRestart ← raising (addTimedelta restartAfter policy.jitter)
      if deadlineAt < latestScheduledRestart then deny deadlineExceeded
      else
        strategyRestartDecision true "strategy_restart_allowed" (some (failure.previousRestartAttempts + 1))
          (some restartAfter) policy.backoff policy.jitter

/-! ## What the constructor of decisions takes -/

theorem deny_eq_ok {reasonCode : String} (h : IsStrippedText reasonCode) : ∃ decision,
    deny reasonCode = .ok decision ∧ decision.shouldRestart = false ∧ decision.reasonCode = reasonCode := by
  unfold deny strategyRestartDecision
  rw [dif_neg (not_not_intro h), dif_neg (lt_irrefl 0), dif_neg (lt_irrefl 0)]
  exact ⟨_, rfl, rfl, rfl⟩

theorem strategyRestartDecision_eq_ok {reasonCode : String} {attempt : ℤ} {time : UTCDateTime}
    {backoff jitter : Timedelta} (h : IsStrippedText reasonCode) (hattempt : 1 ≤ attempt) (hbackoff : 0 ≤ backoff)
    (hjitter : 0 ≤ jitter) : ∃ decision,
      strategyRestartDecision true reasonCode (some attempt) (some time) backoff jitter = .ok decision ∧
      decision.shouldRestart = true ∧ decision.reasonCode = reasonCode ∧ decision.restartAfter = some time := by
  unfold strategyRestartDecision
  rw [dif_neg (not_not_intro h), dif_neg (not_lt.mpr hbackoff), dif_neg (not_lt.mpr hjitter)]
  dsimp only
  rw [dif_neg (not_lt.mpr hattempt)]
  exact ⟨_, rfl, rfl, rfl, rfl⟩

end Restart
end Pmrp
