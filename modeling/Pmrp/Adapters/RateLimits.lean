import Mathlib.Tactic.Linarith
import Pmrp.Adapters.Fixture

/-!
# `Adapters.RateLimits` — one check of a rate limit

`evaluate_rate_limit` of `adapters/base/rate_limits.py`. A rule holds what its model has checked; the decision is
checked when it is made, as its model checks it. An error of a decision is the first that Pydantic would report.
-/

namespace Pmrp
namespace RateLimits

open Fixture

structure AdapterRateLimitRule where
  exchange : String
  endpointCategory : AdapterEndpointCategory
  operation : String
  windowName : String
  limit : ℤ
  cost : ℤ
  cost_pos : 0 < cost
  cost_le_limit : cost ≤ limit

structure AdapterRateLimitDecision where
  exchange : String
  endpointCategory : AdapterEndpointCategory
  operation : String
  windowName : String
  allowed : Bool
  cost : ℤ
  limit : ℤ
  remainingBefore : ℤ
  remainingAfter : ℤ
  decidedAt : UTCDateTime
  resetsAt : Option UTCDateTime
  retryAfterSeconds : Option ℤ
  deriving DecidableEq

/-- `validate_decision_identity`. -/
def validateDecisionIdentity (decision : AdapterRateLimitDecision) : Result Unit := do
  raiseIf (decision.limit < decision.cost) (valueError "rate-limit cost must not exceed limit")
  raiseIf (decision.limit < decision.remainingBefore ∨ decision.limit < decision.remainingAfter)
    (valueError "remaining rate-limit capacity must not exceed limit")
  raiseIf (∃ resetsAt ∈ decision.resetsAt, resetsAt < decision.decidedAt)
    (valueError "resets_at must not precede decided_at")
  if decision.allowed = true then do
    raiseIf (decision.remainingBefore - decision.cost < 0 ∨
        decision.remainingAfter ≠ decision.remainingBefore - decision.cost)
      (valueError "allowed rate-limit decision must consume cost from remaining capacity")
    raiseIf (decision.retryAfterSeconds ≠ none)
      (valueError "allowed rate-limit decision must not include retry_after_seconds")
  else
    raiseIf (decision.remainingAfter ≠ decision.remainingBefore)
      (valueError "blocked rate-limit decision must preserve remaining capacity")

/-- The constructor. -/
def AdapterRateLimitDecision.create (decision : AdapterRateLimitDecision) : Result AdapterRateLimitDecision := do
  raiseIf (decision.cost ≤ 0) (valueError "cost: Input should be greater than 0")
  raiseIf (decision.limit ≤ 0) (valueError "limit: Input should be greater than 0")
  raiseIf (decision.remainingBefore < 0) (belowZeroError "remaining_before")
  raiseIf (decision.remainingAfter < 0) (belowZeroError "remaining_after")
  raiseIf (∃ seconds ∈ decision.retryAfterSeconds, seconds < 0) (belowZeroError "retry_after_seconds")
  validateDecisionIdentity decision
  pure decision

def retryAfterSeconds (decidedAt : UTCDateTime) (resetsAt : Option UTCDateTime) : Option ℤ :=
  resetsAt.map fun resetsAt => max 0 ((resetsAt - decidedAt + 999999) / 1000000)

/-- The cost of the check: that of the rule where none is given. -/
def actualCost (rule : AdapterRateLimitRule) : Option ℤ → Result ℤ
  | none => pure rule.cost
  | some cost => do
      raiseIf (cost ≤ 0) (valueError "cost must be positive")
      pure cost

/-- The decision that `evaluate_rate_limit` makes. -/
def decisionOf (rule : AdapterRateLimitRule) (remaining : ℤ) (decidedAt : UTCDateTime) (resetsAt : Option UTCDateTime)
    (cost : ℤ) : AdapterRateLimitDecision where
  exchange := rule.exchange
  endpointCategory := rule.endpointCategory
  operation := rule.operation
  windowName := rule.windowName
  allowed := decide (cost ≤ remaining)
  cost := cost
  limit := rule.limit
  remainingBefore := remaining
  remainingAfter := if cost ≤ remaining then remaining - cost else remaining
  decidedAt := decidedAt
  resetsAt := resetsAt
  retryAfterSeconds := if cost ≤ remaining then none else retryAfterSeconds decidedAt resetsAt

def evaluateRateLimit (rule : AdapterRateLimitRule) (remaining : ℤ) (decidedAt : UTCDateTime)
    (resetsAt : Option UTCDateTime) (cost : Option ℤ) : Result AdapterRateLimitDecision := do
  let cost ← actualCost rule cost
  (decisionOf rule remaining decidedAt resetsAt cost).create

/-! ## Accepted checks -/

/-- A check can be decided: a cost within the limit, a capacity within the limit, and no reset before the decision. -/
structure Evaluable (rule : AdapterRateLimitRule) (remaining : ℤ) (decidedAt : UTCDateTime)
    (resetsAt : Option UTCDateTime) (cost : ℤ) : Prop where
  cost_pos : 0 < cost
  cost_le : cost ≤ rule.limit
  remaining_nonneg : 0 ≤ remaining
  remaining_le : remaining ≤ rule.limit
  resets : ∀ time ∈ resetsAt, decidedAt ≤ time

variable {rule : AdapterRateLimitRule} {remaining cost : ℤ} {decidedAt : UTCDateTime} {resetsAt : Option UTCDateTime}

theorem retryAfterSeconds_nonneg : ∀ seconds ∈ retryAfterSeconds decidedAt resetsAt, 0 ≤ seconds := by
  intro seconds hseconds
  obtain ⟨time, -, rfl⟩ := Option.map_eq_some_iff.mp hseconds
  exact le_max_left _ _

theorem remainingAfter_le (h : Evaluable rule remaining decidedAt resetsAt cost) :
    (decisionOf rule remaining decidedAt resetsAt cost).remainingAfter ≤ rule.limit := by
  have hcost := h.cost_pos
  have hremaining := h.remaining_le
  change (if cost ≤ remaining then remaining - cost else remaining) ≤ rule.limit
  split_ifs <;> omega

theorem validateDecisionIdentity_decisionOf (h : Evaluable rule remaining decidedAt resetsAt cost) :
    validateDecisionIdentity (decisionOf rule remaining decidedAt resetsAt cost) = .ok ⟨⟩ := by
  set decision := decisionOf rule remaining decidedAt resetsAt cost with hdecision
  have hcost : ¬decision.limit < decision.cost := not_lt.mpr h.cost_le
  have hcapacity : ¬(decision.limit < decision.remainingBefore ∨ decision.limit < decision.remainingAfter) := by
    rintro (hbefore | hafter)
    · exact absurd h.remaining_le (not_le.mpr hbefore)
    · exact absurd (remainingAfter_le h) (not_le.mpr hafter)
  have hresets : ¬∃ time ∈ decision.resetsAt, time < decision.decidedAt := by
    rintro ⟨time, htime, hlt⟩
    exact absurd (h.resets time htime) (not_le.mpr hlt)
  rw [validateDecisionIdentity, raiseIf_bind_of_not hcost, raiseIf_bind_of_not hcapacity, raiseIf_bind_of_not hresets]
  by_cases hallowed : cost ≤ remaining
  · have hbefore : ¬remaining < cost := not_lt.mpr hallowed
    simp [hdecision, decisionOf, hallowed, raiseIf, hbefore]
  · simp [hdecision, decisionOf, hallowed, raiseIf]

theorem create_decisionOf (h : Evaluable rule remaining decidedAt resetsAt cost) :
    (decisionOf rule remaining decidedAt resetsAt cost).create =
      .ok (decisionOf rule remaining decidedAt resetsAt cost) := by
  have hidentity := validateDecisionIdentity_decisionOf h
  set decision := decisionOf rule remaining decidedAt resetsAt cost with hdecision
  have hcost : ¬decision.cost ≤ 0 := not_le.mpr h.cost_pos
  have hlimit : ¬decision.limit ≤ 0 := not_le.mpr (lt_of_lt_of_le rule.cost_pos rule.cost_le_limit)
  have hbefore : ¬decision.remainingBefore < 0 := not_lt.mpr h.remaining_nonneg
  have hafter : ¬decision.remainingAfter < 0 := by
    change ¬(if cost ≤ remaining then remaining - cost else remaining) < 0
    have hremaining := h.remaining_nonneg
    split_ifs <;> omega
  have hretry : ¬∃ seconds ∈ decision.retryAfterSeconds, seconds < 0 := by
    rintro ⟨seconds, hseconds, hneg⟩
    change seconds ∈ (if cost ≤ remaining then none else retryAfterSeconds decidedAt resetsAt) at hseconds
    split_ifs at hseconds with hallowed
    · cases hseconds
    · exact absurd (retryAfterSeconds_nonneg seconds hseconds) (not_le.mpr hneg)
  rw [AdapterRateLimitDecision.create, raiseIf_bind_of_not hcost, raiseIf_bind_of_not hlimit,
    raiseIf_bind_of_not hbefore, raiseIf_bind_of_not hafter, raiseIf_bind_of_not hretry, hidentity, ok_bind]
  rfl

/-- A check is decided exactly where it can be. -/
theorem create_decisionOf_eq_ok {decision : AdapterRateLimitDecision} :
    (decisionOf rule remaining decidedAt resetsAt cost).create = .ok decision ↔
      Evaluable rule remaining decidedAt resetsAt cost ∧
        decision = decisionOf rule remaining decidedAt resetsAt cost := by
  constructor
  · intro h
    rw [AdapterRateLimitDecision.create] at h
    simp only [bind_eq_ok, raiseIf_eq_ok, exists_const, pure_eq_ok, not_le, not_lt] at h
    obtain ⟨hcost, -, hremaining, -, -, u, hidentity, hself⟩ := h
    rw [validateDecisionIdentity] at hidentity
    simp only [bind_eq_ok, raiseIf_eq_ok, exists_const, not_lt, not_or] at hidentity
    obtain ⟨hlimit, ⟨hbefore, -⟩, hresets, -⟩ := hidentity
    refine ⟨⟨hcost, hlimit, hremaining, hbefore, fun time htime => ?_⟩, hself.symm⟩
    by_contra hlt
    exact hresets ⟨time, htime, not_le.mp hlt⟩
  · rintro ⟨h, rfl⟩
    exact create_decisionOf h

theorem evaluateRateLimit_eq_ok {given : Option ℤ} {decision : AdapterRateLimitDecision} :
    evaluateRateLimit rule remaining decidedAt resetsAt given = .ok decision ↔
      Evaluable rule remaining decidedAt resetsAt (given.getD rule.cost) ∧
        decision = decisionOf rule remaining decidedAt resetsAt (given.getD rule.cost) := by
  cases given with
  | none => exact create_decisionOf_eq_ok
  | some cost =>
      rw [evaluateRateLimit, bind_eq_ok]
      constructor
      · rintro ⟨actual, hactual, hcreate⟩
        simp only [actualCost, bind_eq_ok, raiseIf_eq_ok, exists_const, pure_eq_ok] at hactual
        obtain ⟨-, rfl⟩ := hactual
        exact create_decisionOf_eq_ok.mp hcreate
      · intro h
        have hpos : 0 < cost := h.1.cost_pos
        refine ⟨cost, ?_, create_decisionOf_eq_ok.mpr h⟩
        rw [actualCost, raiseIf_bind_of_not (not_le.mpr hpos)]
        rfl

/-! ## When to retry -/

/-- Rounding the microseconds up to seconds: the least wait, in whole seconds, that reaches the reset. -/
theorem retryAfterSeconds_le (decided time wait : ℤ) :
    (time - decided + 999999) / 1000000 ≤ wait ↔ time ≤ decided + wait * 1000000 := by
  omega

/-- A check that can be decided allows the call exactly when the capacity covers the cost, and takes the cost from the
    capacity then only. A blocked check with a reset time names the least number of seconds after which it has come. -/
theorem evaluateRateLimit_decides (rule : AdapterRateLimitRule) (remaining : ℤ) (decidedAt : UTCDateTime)
    (resetsAt : Option UTCDateTime) (given : Option ℤ) :
    ((∃ decision, evaluateRateLimit rule remaining decidedAt resetsAt given = .ok decision) ↔
        Evaluable rule remaining decidedAt resetsAt (given.getD rule.cost)) ∧
      ∀ decision, evaluateRateLimit rule remaining decidedAt resetsAt given = .ok decision →
        (decision.allowed = true ∧ given.getD rule.cost ≤ remaining ∧ decision.retryAfterSeconds = none ∧
            decision.remainingAfter = remaining - given.getD rule.cost) ∨
          (decision.allowed = false ∧ remaining < given.getD rule.cost ∧ decision.remainingAfter = remaining ∧
            (resetsAt = none → decision.retryAfterSeconds = none) ∧
            ∀ time ∈ resetsAt, ∃ seconds, decision.retryAfterSeconds = some seconds ∧ 0 ≤ seconds ∧
              ∀ wait : ℤ, 0 ≤ wait → (time ≤ decidedAt + wait * 1000000 ↔ seconds ≤ wait)) := by
  constructor
  · constructor
    · rintro ⟨decision, h⟩
      exact (evaluateRateLimit_eq_ok.mp h).1
    · exact fun h => ⟨_, evaluateRateLimit_eq_ok.mpr ⟨h, rfl⟩⟩
  · intro decision h
    obtain ⟨hevaluable, rfl⟩ := evaluateRateLimit_eq_ok.mp h
    by_cases hallowed : given.getD rule.cost ≤ remaining
    · exact Or.inl ⟨decide_eq_true hallowed, hallowed, if_pos hallowed, if_pos hallowed⟩
    · refine Or.inr ⟨decide_eq_false hallowed, not_le.mp hallowed, if_neg hallowed, ?_, ?_⟩
      · rintro rfl
        exact if_neg hallowed
      · rintro time rfl
        refine ⟨_, if_neg hallowed, le_max_left _ _, fun wait hwait => ?_⟩
        rw [max_le_iff, retryAfterSeconds_le]
        exact ⟨fun hreached => ⟨hwait, hreached⟩, fun hle => hle.2⟩

end RateLimits
end Pmrp
