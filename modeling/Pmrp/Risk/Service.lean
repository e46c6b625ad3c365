import Pmrp.Risk.Breaches
import Pmrp.Risk.Context
import Pmrp.Storage.RiskTables

/-!
# `Risk.Service` — one persisted evaluation

`RiskEvaluationService` of `risk/service.py`. The engine is any evaluator of the protocol. The steps before the
commit are a program over the statements of the risk tables; what `before_commit` leaves behind is returned beside
the result.
-/

namespace Pmrp

/-! ## Requests and results -/

structure RiskApprovedOrderRequest where
  exchange : ExchangeName
  accountId : AccountId

structure RiskCapitalReservationRequest where
  exchange : ExchangeName
  accountId : AccountId
  currency : Currency

structure RiskEvaluationResult where
  decision : RiskDecision
  approvedOrder : Option ApprovedOrder := none
  capitalReservation : Option CapitalReservation := none
  breaches : List RiskBreach := []
  deriving DecidableEq

def validateApprovedOrderMatchesDecision (approvedOrder : ApprovedOrder) (decision : RiskDecision) : Result Unit := do
  raiseIf (approvedOrder.riskDecisionId ≠ decision.riskDecisionId)
    (valueError "approved order risk_decision_id must match decision")
  raiseIf (approvedOrder.intentId ≠ decision.intentId) (valueError "approved order intent_id must match decision")
  raiseIf (approvedOrder.correlationId ≠ decision.correlationId)
    (valueError "approved order correlation_id must match decision")

def validateReservationMatchesDecision (reservation : CapitalReservation) (decision : RiskDecision) : Result Unit :=
  raiseIf (reservation.intentId ≠ decision.intentId)
    (valueError "capital reservation intent_id must match decision")

/-- The checks of the constructor. -/
def RiskEvaluationResult.check (result : RiskEvaluationResult) : Result Unit := do
  raiseIf (∃ breach ∈ result.breaches, breach.correlationId ≠ result.decision.correlationId)
    (valueError "risk evaluation breach correlation_id must match decision")
  if result.decision.status ≠ .approved then
    raiseIf (result.approvedOrder ≠ none)
      (valueError "non-approved risk decisions cannot include an approved order")
    raiseIf (result.capitalReservation ≠ none)
      (valueError "non-approved risk decisions cannot include a capital reservation")
  else
    result.approvedOrder.elim (.ok ()) fun order => validateApprovedOrderMatchesDecision order result.decision
    result.capitalReservation.elim (.ok ()) fun reservation =>
      validateReservationMatchesDecision reservation result.decision

def RiskEvaluationResult.validate (result : RiskEvaluationResult) : Result RiskEvaluationResult :=
  result.check.map fun _ => result

theorem RiskEvaluationResult.eq_of_validate {result validated : RiskEvaluationResult}
    (h : result.validate = .ok validated) : validated = result := by
  obtain ⟨_, -, rfl⟩ := map_eq_ok.mp h
  rfl

/-! ## The service -/

/-- The factories of orders and reservations are the configured ones or the defaults of the code. -/
structure RiskEvaluationService where
  engine : OrderIntent → RiskContext → String → Result RiskDecision
  approvedOrderFactory : ApprovedOrderFactory
  breachFactory : Option RiskBreachFactory := none
  reservationFactory : CapitalReservationFactory

def validateDecisionInputSnapshot (decision : RiskDecision) (inputSnapshotId : String) : Result Unit :=
  raiseIf (decision.inputSnapshotId ≠ inputSnapshotId)
    (valueError "risk decision input_snapshot_id must match requested snapshot")

def validateInputSnapshotMatchesRequest (inputSnapshot : Option RiskInputSnapshot) (inputSnapshotId : String) :
    Result Unit :=
  raiseIf (∃ snapshot ∈ inputSnapshot, snapshot.riskInputSnapshotId ≠ inputSnapshotId)
    (valueError "risk input snapshot ID must match requested snapshot")

namespace RiskEvaluationService

variable (ctx : DecimalContext) (service : RiskEvaluationService)

/-- The reservation of an approved decision, when one is requested. -/
def buildReservation (intent : OrderIntent) (decision : RiskDecision)
    (reservationRequest : Option RiskCapitalReservationRequest) : Result (Option CapitalReservation) :=
  match reservationRequest with
  | none => .ok none
  | some request =>
      if decision.status = .approved then
        (service.reservationFactory.build ctx intent decision request.exchange request.accountId
          request.currency).map some
      else .ok none

/-- The order of an approved decision, when one is requested. -/
def buildApprovedOrder (intent : OrderIntent) (decision : RiskDecision)
    (approvedOrderRequest : Option RiskApprovedOrderRequest) : Result (Option ApprovedOrder) :=
  match approvedOrderRequest with
  | none => .ok none
  | some request =>
      if decision.status = .approved then
        (service.approvedOrderFactory.build intent decision request.exchange.value request.accountId).map some
      else .ok none

def derivedBreaches (decision : RiskDecision) : Result (List RiskBreach) :=
  service.breachFactory.elim (.ok []) fun factory => factory.breachesForDecision decision

/-- `evaluate_and_persist_result` up to the commit. -/
def stepsBeforeCommit {γ : Type} (intent : OrderIntent) (context : RiskContext) (inputSnapshotId : String)
    (inputSnapshot : Option RiskInputSnapshot) (approvedOrderRequest : Option RiskApprovedOrderRequest)
    (reservationRequest : Option RiskCapitalReservationRequest)
    (beforeCommit : RiskEvaluationResult → Program RiskStatement PyError γ) :
    Program RiskStatement PyError (RiskEvaluationResult × γ) := do
  liftM (validateInputSnapshotMatchesRequest inputSnapshot inputSnapshotId)
  let decision ← liftM (service.engine intent context inputSnapshotId)
  liftM (validateDecisionInputSnapshot decision inputSnapshotId)
  inputSnapshot.toList.forM fun snapshot => .execute (.addInputSnapshot snapshot)
  .execute (.addDecision decision)
  let capitalReservation ← liftM (service.buildReservation ctx intent decision reservationRequest)
  capitalReservation.toList.forM fun reservation => .execute (.addReservation reservation)
  let approvedOrder ← liftM (service.buildApprovedOrder intent decision approvedOrderRequest)
  let breaches ← liftM (service.derivedBreaches decision)
  breaches.forM fun breach => .execute (.addBreach breach)
  let result ← liftM (RiskEvaluationResult.validate { decision, approvedOrder, capitalReservation, breaches })
  let left ← beforeCommit result
  pure (result, left)

def evaluateAndPersistResult {γ : Type} (intent : OrderIntent) (context : RiskContext) (inputSnapshotId : String)
    (inputSnapshot : Option RiskInputSnapshot) (approvedOrderRequest : Option RiskApprovedOrderRequest)
    (reservationRequest : Option RiskCapitalReservationRequest)
    (beforeCommit : RiskEvaluationResult → Program RiskStatement PyError γ) :
    Program RiskStatement PyError (RiskEvaluationResult × γ) := do
  let result ← service.stepsBeforeCommit ctx intent context inputSnapshotId inputSnapshot approvedOrderRequest
    reservationRequest beforeCommit
  .commitPending
  pure result

end RiskEvaluationService
end Pmrp
