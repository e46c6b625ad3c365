import Pmrp.Risk.Correctness.Approval
import Pmrp.Risk.Workflow

/-!
# `Risk.Correctness.Atomicity` — all records of an evaluation, or none

The steps before the commit are commit-free, so `transact_all_or_nothing` applies: whichever step fails, the tables
are as they were. Otherwise the statements that were run are known (`stepsBeforeCommit_runs`), and so is what they
have inserted.
-/

namespace Pmrp

/-! ## What the statements insert -/

namespace RiskTables

variable (tables : RiskTables)

theorem foldl_addInputSnapshot (snapshots : List RiskInputSnapshot) :
    (snapshots.map .addInputSnapshot).foldl insert tables =
      { tables with inputSnapshots := tables.inputSnapshots ++ snapshots } := by
  induction snapshots generalizing tables with
  | nil => simp
  | cons snapshot snapshots ih =>
      rw [List.map_cons, List.foldl_cons, ih]
      simp [insert]

theorem foldl_addReservation (reservations : List CapitalReservation) :
    (reservations.map .addReservation).foldl insert tables =
      { tables with reservations := tables.reservations ++ reservations } := by
  induction reservations generalizing tables with
  | nil => simp
  | cons reservation reservations ih =>
      rw [List.map_cons, List.foldl_cons, ih]
      simp [insert]

theorem foldl_addBreach (breaches : List RiskBreach) :
    (breaches.map .addBreach).foldl insert tables = { tables with breaches := tables.breaches ++ breaches } := by
  induction breaches generalizing tables with
  | nil => simp
  | cons breach breaches ih =>
      rw [List.map_cons, List.foldl_cons, ih]
      simp [insert]

end RiskTables

namespace RiskEvaluationService

variable {ctx : DecimalContext} {service : RiskEvaluationService} {γ : Type} {intent : OrderIntent}
  {context : RiskContext} {inputSnapshotId : String} {inputSnapshot : Option RiskInputSnapshot}
  {approvedOrderRequest : Option RiskApprovedOrderRequest}
  {reservationRequest : Option RiskCapitalReservationRequest}
  {beforeCommit : RiskEvaluationResult → Program RiskStatement PyError γ}

/-! ## The steps before the commit -/

theorem commitFree_stepsBeforeCommit (hbefore : ∀ result, (beforeCommit result).CommitFree) :
    (service.stepsBeforeCommit ctx intent context inputSnapshotId inputSnapshot approvedOrderRequest
      reservationRequest beforeCommit).CommitFree := by
  unfold stepsBeforeCommit
  refine (Program.commitFree_liftM _).bind fun _ => (Program.commitFree_liftM _).bind fun decision => ?_
  refine (Program.commitFree_liftM _).bind fun _ => ?_
  refine (Program.commitFree_forM fun _ => Program.commitFree_execute _).bind fun _ => ?_
  refine (Program.commitFree_execute _).bind fun _ => (Program.commitFree_liftM _).bind fun reservation => ?_
  refine (Program.commitFree_forM fun _ => Program.commitFree_execute _).bind fun _ => ?_
  refine (Program.commitFree_liftM _).bind fun order => (Program.commitFree_liftM _).bind fun breaches => ?_
  refine (Program.commitFree_forM fun _ => Program.commitFree_execute _).bind fun _ => ?_
  exact (Program.commitFree_liftM _).bind fun result => (hbefore result).bind fun _ => Program.commitFree_pure _

/-- The result belongs to the evaluation: it holds the engine's decision, a reservation iff the decision is approved
    and one is requested, and all breaches that the decision implies. -/
structure Evaluates (ctx : DecimalContext) (service : RiskEvaluationService) (intent : OrderIntent)
    (context : RiskContext) (inputSnapshotId : String)
    (reservationRequest : Option RiskCapitalReservationRequest) (result : RiskEvaluationResult) : Prop where
  decision_eq : service.engine intent context inputSnapshotId = .ok result.decision
  reservation_eq : service.buildReservation ctx intent result.decision reservationRequest =
    .ok result.capitalReservation
  reservation_iff : result.capitalReservation.isSome = true ↔
    result.decision.status = .approved ∧ reservationRequest.isSome = true
  breaches_eq : service.derivedBreaches result.decision = .ok result.breaches

/-- The statements of a service call, in order. -/
def statements (inputSnapshot : Option RiskInputSnapshot) (result : RiskEvaluationResult)
    (hooked : List RiskStatement) : List RiskStatement :=
  inputSnapshot.toList.map .addInputSnapshot ++ (.addDecision result.decision ::
    (result.capitalReservation.toList.map .addReservation ++ (result.breaches.map .addBreach ++ hooked)))

theorem buildReservation_isSome {decision : RiskDecision} {reservation : Option CapitalReservation}
    (h : service.buildReservation ctx intent decision reservationRequest = .ok reservation) :
    reservation.isSome = true ↔ decision.status = .approved ∧ reservationRequest.isSome = true := by
  unfold buildReservation at h
  cases reservationRequest with
  | none =>
      cases h
      exact iff_of_false Bool.false_ne_true fun hcontra => Bool.false_ne_true hcontra.2
  | some request =>
      dsimp only at h
      split_ifs at h with hstatus
      · obtain ⟨built, -, rfl⟩ := map_eq_ok.mp h
        exact iff_of_true rfl ⟨hstatus, rfl⟩
      · cases h
        exact iff_of_false Bool.false_ne_true fun hcontra => hstatus hcontra.1

/-- **What a call runs** before its commit. -/
theorem stepsBeforeCommit_runs {ss : List RiskStatement} {result : RiskEvaluationResult} {left : γ}
    (h : (service.stepsBeforeCommit ctx intent context inputSnapshotId inputSnapshot approvedOrderRequest
      reservationRequest beforeCommit).Runs ss (result, left)) :
    Evaluates ctx service intent context inputSnapshotId reservationRequest result ∧
      ∃ hooked, (beforeCommit result).Runs hooked left ∧ ss = statements inputSnapshot result hooked := by
  simp only [stepsBeforeCommit, Program.runs_liftM_bind, Program.runs_execute_bind,
    Program.runs_forM_execute_bind] at h
  obtain ⟨_, -, decision, hdecision, _, -, ss₁, rfl, ss₂, rfl, reservation, hreservation, ss₃, rfl, h⟩ := h
  obtain ⟨order, -, breaches, hbreaches, ss₄, rfl, validated, hvalidated, h⟩ := h
  obtain ⟨hooked, hleft, _, hhooked, ⟨rfl, hpair⟩, rfl⟩ := Program.runs_bind.mp h
  obtain ⟨rfl, rfl⟩ := Prod.mk.inj hpair
  have hvalidated := RiskEvaluationResult.eq_of_validate hvalidated
  subst hvalidated
  refine ⟨⟨hdecision, hreservation, buildReservation_isSome hreservation, hbreaches⟩, hooked, hhooked, ?_⟩
  simp [statements]

/-! ## The tables after a call -/

/-- One decision, the snapshot if there is one, the reservation and the breaches of the result, and then the
    statements of the hook. -/
def committed (tables : RiskTables) (inputSnapshot : Option RiskInputSnapshot) (result : RiskEvaluationResult)
    (hooked : List RiskStatement) : RiskTables :=
  hooked.foldl RiskTables.insert { tables with
    inputSnapshots := tables.inputSnapshots ++ inputSnapshot.toList
    decisions := tables.decisions ++ [result.decision]
    reservations := tables.reservations ++ result.capitalReservation.toList
    breaches := tables.breaches ++ result.breaches }

theorem foldl_statements (tables : RiskTables) (result : RiskEvaluationResult) (hooked : List RiskStatement) :
    (statements inputSnapshot result hooked).foldl RiskTables.insert tables =
      committed tables inputSnapshot result hooked := by
  rw [statements, List.foldl_append, RiskTables.foldl_addInputSnapshot, List.foldl_cons, List.foldl_append,
    RiskTables.foldl_addReservation, List.foldl_append, RiskTables.foldl_addBreach]
  rfl

/-- **A call is atomic**, whatever its hook does short of committing. -/
theorem transact_evaluateAndPersistResult (hbefore : ∀ result, (beforeCommit result).CommitFree)
    (refuses : RiskTables → RiskStatement → Option PyError) (fault : ℕ → Option PyError) (tables : RiskTables) :
    (∃ result left hooked, Evaluates ctx service intent context inputSnapshotId reservationRequest result ∧
      (beforeCommit result).Runs hooked left ∧
      transact (RiskTables.apply refuses) fault (service.evaluateAndPersistResult ctx intent context inputSnapshotId
        inputSnapshot approvedOrderRequest reservationRequest beforeCommit) tables =
          (.ok (result, left), committed tables inputSnapshot result hooked)) ∨
    ∃ e, transact (RiskTables.apply refuses) fault (service.evaluateAndPersistResult ctx intent context inputSnapshotId
      inputSnapshot approvedOrderRequest reservationRequest beforeCommit) tables = (.error e, tables) := by
  rcases @transact_all_or_nothing _ _ _ _ (RiskTables.apply refuses) fault _
    (commitFree_stepsBeforeCommit hbefore) (fun a => .ok a) tables with ⟨⟨result, left⟩, ss, after, hruns, hall, h⟩ | h
  · obtain ⟨hevaluates, hooked, hhooked, rfl⟩ := stepsBeforeCommit_runs hruns
    have hafter := RiskTables.foldlM_apply hall
    rw [foldl_statements] at hafter
    rw [hafter] at h
    exact Or.inl ⟨result, left, hooked, hevaluates, hhooked, h⟩
  · exact Or.inr h

end RiskEvaluationService

namespace RiskEvaluationEventWorkflow

open RiskEvaluationService

variable {ctx : DecimalContext} {workflow : RiskEvaluationEventWorkflow} {intent : OrderIntent}
  {checkRequestedEvent : RiskEvent} {result : RiskEvaluationResult}

/-! ## The workflow -/

theorem commitFree_persistEvents :
    (workflow.persistEventsBeforeCommit intent checkRequestedEvent result).CommitFree := by
  unfold persistEventsBeforeCommit
  refine (Program.commitFree_liftM _).bind fun built => (Program.commitFree_execute _).bind fun _ => ?_
  exact (Program.commitFree_execute _).bind fun _ => Program.commitFree_pure _

/-- The hook writes one list of events to both stores. -/
theorem persistEvents_runs {hooked : List RiskStatement} {eventResult : RiskEvaluationEventResult}
    (h : (workflow.persistEventsBeforeCommit intent checkRequestedEvent result).Runs hooked eventResult) :
    eventResult.result = result ∧
      hooked = [.addCanonicalEvents (eventResult.allEvents.map (canonicalEventToRow workflow.serialization)),
        .addOutboxMessages (eventResult.allEvents.map (outboxMessageToRow workflow.serialization))] := by
  simp only [persistEventsBeforeCommit, Program.runs_liftM_bind, Program.runs_execute_bind] at h
  obtain ⟨built, hbuilt, ss, rfl, ss', rfl, rfl, rfl⟩ := h
  simp only [buildEventResult, bind_eq_ok, pure_eq_ok] at hbuilt
  obtain ⟨events, -, _, -, rfl⟩ := hbuilt
  exact ⟨rfl, rfl⟩

theorem checkPersisted_self (eventResult : RiskEvaluationEventResult) :
    checkPersisted eventResult.result eventResult = .ok eventResult := by
  rw [checkPersisted, raiseIf, if_neg (not_not_intro rfl)]
  rfl

/-- The tables after an evaluation with its events. -/
def committedWithEvents (workflow : RiskEvaluationEventWorkflow) (tables : RiskTables)
    (inputSnapshot : RiskInputSnapshot) (eventResult : RiskEvaluationEventResult) : RiskTables where
  inputSnapshots := tables.inputSnapshots ++ [inputSnapshot]
  decisions := tables.decisions ++ [eventResult.result.decision]
  reservations := tables.reservations ++ eventResult.result.capitalReservation.toList
  breaches := tables.breaches ++ eventResult.result.breaches
  canonicalEvents := tables.canonicalEvents ++
    eventResult.allEvents.map (canonicalEventToRow workflow.serialization)
  outboxMessages := tables.outboxMessages ++ eventResult.allEvents.map (outboxMessageToRow workflow.serialization)

/-- **The workflow is atomic.** -/
theorem transact_evaluatePersistAndBuildEvents (intent : OrderIntent) (context : RiskContext)
    (inputSnapshot : RiskInputSnapshot) (approvedOrderRequest : Option RiskApprovedOrderRequest)
    (reservationRequest : Option RiskCapitalReservationRequest)
    (refuses : RiskTables → RiskStatement → Option PyError) (fault : ℕ → Option PyError) (tables : RiskTables) :
    (∃ eventResult, Evaluates ctx workflow.service intent context inputSnapshot.riskInputSnapshotId reservationRequest
        eventResult.result ∧
      transact (RiskTables.apply refuses) fault (workflow.evaluatePersistAndBuildEvents ctx intent context inputSnapshot
        approvedOrderRequest reservationRequest) tables =
          (.ok eventResult, workflow.committedWithEvents tables inputSnapshot eventResult)) ∨
    ∃ e, transact (RiskTables.apply refuses) fault (workflow.evaluatePersistAndBuildEvents ctx intent context
      inputSnapshot approvedOrderRequest reservationRequest) tables = (.error e, tables) := by
  unfold evaluatePersistAndBuildEvents
  cases hcheck : workflow.eventFactory.buildCheckRequestedEvent 0 intent inputSnapshot with
  | error e => exact Or.inr ⟨e, rfl⟩
  | ok checkRequestedEvent =>
      rw [Program.liftM_ok, Program.done_bind]
      have hcall := @transact_evaluateAndPersistResult ctx workflow.service _ intent context
        inputSnapshot.riskInputSnapshotId (some inputSnapshot) approvedOrderRequest reservationRequest
        (workflow.persistEventsBeforeCommit intent checkRequestedEvent) (fun _ => commitFree_persistEvents)
          refuses fault
        tables
      rw [transact_bind_liftM]
      rcases hcall with ⟨result, eventResult, hooked, hevaluates, hhooked, hrun⟩ | ⟨e, hrun⟩
      · obtain ⟨hresult, rfl⟩ := persistEvents_runs hhooked
        subst hresult
        refine Or.inl ⟨eventResult, hevaluates, ?_⟩
        rw [hrun, ok_bind, checkPersisted_self]
        rfl
      · refine Or.inr ⟨e, ?_⟩
        rw [hrun]
        rfl

/-- **Risk evaluation is all or nothing.** A call of the service commits the decision, the given snapshot, a
    reservation iff the decision is approved and one is requested, and all derived breaches; the workflow commits a
    snapshot and one list of events in both stores with them. A call that fails at any step commits nothing. -/
theorem evaluation_atomic (ctx : DecimalContext) (workflow : RiskEvaluationEventWorkflow) (intent : OrderIntent)
    (context : RiskContext) (approvedOrderRequest : Option RiskApprovedOrderRequest)
    (reservationRequest : Option RiskCapitalReservationRequest)
    (refuses : RiskTables → RiskStatement → Option PyError) (fault : ℕ → Option PyError) (tables : RiskTables) :
    (∀ inputSnapshotId inputSnapshot,
      (∃ result, Evaluates ctx workflow.service intent context inputSnapshotId reservationRequest result ∧
        transact (RiskTables.apply refuses) fault (workflow.service.evaluateAndPersistResult ctx intent context
          inputSnapshotId inputSnapshot approvedOrderRequest reservationRequest fun _ => pure ()) tables =
            (.ok (result, ()), committed tables inputSnapshot result [])) ∨
      ∃ e, transact (RiskTables.apply refuses) fault (workflow.service.evaluateAndPersistResult ctx intent context
        inputSnapshotId inputSnapshot approvedOrderRequest reservationRequest fun _ => pure ()) tables
          = (.error e, tables)) ∧
    ∀ inputSnapshot : RiskInputSnapshot,
      (∃ eventResult, Evaluates ctx workflow.service intent context inputSnapshot.riskInputSnapshotId
          reservationRequest eventResult.result ∧
        transact (RiskTables.apply refuses) fault (workflow.evaluatePersistAndBuildEvents ctx intent context
          inputSnapshot approvedOrderRequest reservationRequest) tables =
            (.ok eventResult, workflow.committedWithEvents tables inputSnapshot eventResult)) ∨
      ∃ e, transact (RiskTables.apply refuses) fault (workflow.evaluatePersistAndBuildEvents ctx intent context
        inputSnapshot approvedOrderRequest reservationRequest) tables = (.error e, tables) := by
  constructor
  · intro inputSnapshotId inputSnapshot
    rcases @transact_evaluateAndPersistResult ctx workflow.service Unit intent context inputSnapshotId inputSnapshot
      approvedOrderRequest reservationRequest (fun _ => pure ()) (fun _ => trivial) refuses fault tables with
      ⟨result, left, hooked, hevaluates, hhooked, hrun⟩ | herror
    · obtain ⟨rfl, -⟩ := hhooked
      exact Or.inl ⟨result, hevaluates, hrun⟩
    · exact Or.inr herror
  · intro inputSnapshot
    exact transact_evaluatePersistAndBuildEvents intent context inputSnapshot approvedOrderRequest reservationRequest
      refuses fault tables

/-! ## A call without a snapshot -/

/-- Rejects every intent. -/
def rejection (intent : OrderIntent) (inputSnapshotId : String) : RiskDecision where
  riskDecisionId := ⟨"risk_rejection", by decide⟩
  intentId := intent.intentId
  status := .rejected
  evaluatedAt := 0
  inputSnapshotId := inputSnapshotId
  ruleResults := [{
    ruleId := "reject_all", ruleVersion := "1", passed := false, reasonCode := "reject_all", evaluatedAt := 0 }]
  configurationHash := "sha256:rejection"
  correlationId := intent.correlationId

theorem rejection_valid (intent : OrderIntent) : (rejection intent "snapshot").Valid where
  inputSnapshotId_within := TextWithin.ofList (by decide)
  approvedQuantity_pos := by rintro q ⟨⟩
  approvedLimitPrice_nonneg := by rintro p ⟨⟩
  configurationHash_within := TextWithin.ofList (by decide)
  has_result := List.cons_ne_nil _ _
  approved_passed := by intro h; cases h
  approved_fields := by intro h; cases h
  refused_fields _ := by rintro (h | h | h) <;> cases h
  refused_failed _ := ⟨_, List.mem_singleton_self _, rfl⟩
  expires_after := by rintro t ⟨⟩

def rejectingService : RiskEvaluationService where
  engine intent _ inputSnapshotId := .ok (rejection intent inputSnapshotId)
  approvedOrderFactory := ⟨fun _ _ _ _ => .error (valueError "unused")⟩
  reservationFactory := ⟨fun _ _ _ _ _ => .error (valueError "unused")⟩

/-- The service commits a decision without its snapshot when no snapshot is given. -/
theorem commits_without_snapshot :
    (rejection RiskEngine.quoteTwo "snapshot").Valid ∧ transact (RiskTables.apply fun _ _ => none) (fun _ => none)
      (rejectingService.evaluateAndPersistResult defaultContext RiskEngine.quoteTwo RiskEngine.enabledContext
        "snapshot" none none none fun _ => pure ()) {} =
      (.ok ({ decision := rejection RiskEngine.quoteTwo "snapshot" }, ()),
        { inputSnapshots := [], decisions := [rejection RiskEngine.quoteTwo "snapshot"] }) :=
  ⟨rejection_valid _, rfl⟩

end RiskEvaluationEventWorkflow
end Pmrp
