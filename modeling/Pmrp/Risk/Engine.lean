import Pmrp.Risk.Rules

/-!
# `Risk.Engine` — from rule outcomes to one decision

`risk/engine.py`. An engine is a nonempty list of rules with distinct identities; `RiskEngine.create` is its
constructor and `RiskEngine.evaluate` the method. The loop over the rules stops at the first one that raises
or returns something else than a rule result, and reports that as a failed result of its own.

The decision identifier comes from a `RiskDecisionIdGenerator`, which is a parameter.
-/

namespace Pmrp

def riskEngineRuleErrorReason : String := "RISK_ENGINE_RULE_ERROR"
def riskEngineRuleResultInvalidReason : String := "RISK_ENGINE_RULE_RESULT_INVALID"
def riskEngineApprovalLimitPriceMissingReason : String := "RISK_ENGINE_APPROVAL_LIMIT_PRICE_MISSING"
def riskEngineRuleId : String := "RISK-ENGINE"
def riskEngineRuleVersion : String := "1.0"
def maxSnapshotIdLength : ℕ := 128

/-! ## Rules and engines -/

/-- A rule as the engine sees it: an identity, a configuration and an `evaluate`. -/
structure RiskRule where
  ruleId : String
  version : String
  ruleClass : String
  parameters : CanonicalData
  evaluate : OrderIntent → RiskContext → RuleOutcome
  ruleId_ne : ruleId ≠ ""
  version_ne : version ≠ ""

def RiskRule.identity (rule : RiskRule) : String × String := (rule.ruleId, rule.version)

/-- `risk_decision_id(intent=…, evaluated_at=…, input_snapshot_id=…, configuration_hash=…,
    rule_results=…)`. -/
abbrev RiskDecisionIdGenerator :=
  OrderIntent → UTCDateTime → String → String → List RiskRuleResult → RiskDecisionId

structure RiskEngine where
  rules : List RiskRule
  configurationHash : String
  approvalTtl : Option Timedelta
  decisionIdGenerator : RiskDecisionIdGenerator
  rules_ne : rules ≠ []
  identities_nodup : (rules.map RiskRule.identity).Nodup
  approvalTtl_pos : ∀ ttl ∈ approvalTtl, 0 < ttl
  configurationHash_ne : configurationHash ≠ ""

/-- `_rule_configuration`. -/
def RiskRule.configuration (rule : RiskRule) : CanonicalData :=
  .mapping
    [("parameters", rule.parameters), ("rule_class", .str rule.ruleClass), ("rule_id", .str rule.ruleId),
      ("rule_version", .str rule.version)]

/-- `_canonical_config_value` of a `timedelta`. -/
def canonicalTimedelta (d : Timedelta) : CanonicalData := .mapping [("microseconds", .int d)]

/-- `_configuration_hash`. -/
def configurationHashOf (sha : Sha256) (rules : List RiskRule) (approvalTtl : Option Timedelta) : String :=
  canonicalSha256 sha
    (.mapping
      [("approval_ttl", approvalTtl.elim .null canonicalTimedelta),
        ("rules", .list (rules.map RiskRule.configuration))])

namespace RiskEngine

/-- `__post_init__`: freeze the rules, check the ttl, then the given hash or the computed one. -/
def create (sha : Sha256) (rules : List RiskRule) (configurationHash : Option String)
    (approvalTtl : Option Timedelta) (decisionIdGenerator : RiskDecisionIdGenerator) : Result RiskEngine :=
  let hash := configurationHash.getD (configurationHashOf sha rules approvalTtl)
  if h₁ : rules = [] then .error (riskConfigurationError "risk engine requires at least one rule")
  else if h₂ : ¬(rules.map RiskRule.identity).Nodup then
    .error (riskConfigurationError "risk rule identifiers must be unique by version")
  else if h₃ : ¬∀ ttl ∈ approvalTtl, 0 < ttl then
    .error (riskConfigurationError "approval_ttl must be positive")
  else if h₄ : hash = "" then .error (riskConfigurationError "configuration_hash must not be empty")
  else .ok ⟨rules, hash, approvalTtl, decisionIdGenerator, h₁, not_not.mp h₂, not_not.mp h₃, h₄⟩

theorem create_eq_ok {sha : Sha256} {rules : List RiskRule} {configurationHash : Option String}
    {approvalTtl : Option Timedelta} {generator : RiskDecisionIdGenerator} {engine : RiskEngine}
    (h : create sha rules configurationHash approvalTtl generator = .ok engine) :
    engine.rules = rules ∧ engine.approvalTtl = approvalTtl ∧
      engine.configurationHash = configurationHash.getD (configurationHashOf sha rules approvalTtl) := by
  simp only [create] at h
  split_ifs at h
  obtain rfl := Except.ok.inj h
  exact ⟨rfl, rfl, rfl⟩

theorem create_ok (sha : Sha256) {rules : List RiskRule} {configurationHash : Option String}
    {approvalTtl : Option Timedelta} (generator : RiskDecisionIdGenerator) (hne : rules ≠ [])
    (hnodup : (rules.map RiskRule.identity).Nodup) (httl : ∀ ttl ∈ approvalTtl, 0 < ttl)
    (hhash : configurationHash.getD (configurationHashOf sha rules approvalTtl) ≠ "") :
    ∃ engine, create sha rules configurationHash approvalTtl generator = .ok engine :=
  ⟨_, by rw [create, dif_neg hne, dif_neg (not_not.mpr hnodup), dif_neg (not_not.mpr httl), dif_neg hhash]⟩

/-- A computed hash is `sha256:` and 64 digits. -/
theorem length_configurationHashOf (sha : Sha256) (rules : List RiskRule)
    (approvalTtl : Option Timedelta) : (configurationHashOf sha rules approvalTtl).length = 71 := by
  rw [configurationHashOf, canonicalSha256, String.length_append, sha.length_hexdigest]
  rfl

/-! ## The loop over the rules -/

/-- `_rule_error_result`. -/
def ruleErrorResult (ruleId ruleVersion : String) (context : RiskContext) (reasonCode reasonText : String) :
    Result RiskRuleResult :=
  RiskRuleResult.validate
    { ruleId := ruleId
      ruleVersion := ruleVersion
      passed := false
      reasonCode := reasonCode
      reasonText := some reasonText
      evaluatedAt := context.evaluatedAt }

/-- `_evaluate_rules`. A rule that raises or returns no rule result ends the loop. -/
def evaluateRules (intent : OrderIntent) (context : RiskContext) :
    List RiskRule → Result (List RiskRuleResult)
  | [] => .ok []
  | rule :: rules =>
      match rule.evaluate intent context with
      | .returned result => (evaluateRules intent context rules).map (result :: ·)
      | .raised exceptionType =>
          (ruleErrorResult rule.ruleId rule.version context riskEngineRuleErrorReason
            s!"rule evaluation raised {exceptionType}").map ([·])
      | .returnedOther =>
          (ruleErrorResult rule.ruleId rule.version context riskEngineRuleResultInvalidReason
            "rule returned non-RiskRuleResult").map ([·])

/-- The engine put this result in place of a rule's own. -/
def isEngineError (r : RiskRuleResult) : Bool :=
  !r.passed &&
    (r.reasonCode == riskEngineRuleErrorReason || r.reasonCode == riskEngineRuleResultInvalidReason)

/-- `_decision_status`. -/
def decisionStatus (results : List RiskRuleResult) : RiskDecisionStatus :=
  if results.any isEngineError then .error
  else if results.all (·.passed) then .approved
  else .rejected

theorem decisionStatus_eq_approved {results : List RiskRuleResult} :
    decisionStatus results = .approved ↔ ∀ r ∈ results, r.passed = true := by
  unfold decisionStatus
  rw [← List.all_eq_true]
  by_cases herror : results.any isEngineError = true
  · -- an engine error is itself a failed result
    obtain ⟨r, hr, hfailed⟩ := List.any_eq_true.mp herror
    have hnot : ¬results.all (·.passed) = true := by
      intro hall
      have hpassed := List.all_eq_true.mp hall r hr
      simp [isEngineError, hpassed] at hfailed
    simp [herror, hnot]
  · by_cases hall : results.all (·.passed) = true <;> simp [herror, hall]

variable {intent : OrderIntent} {context : RiskContext}

theorem ruleErrorResult_failed {ruleId ruleVersion reasonCode reasonText : String} {r : RiskRuleResult}
    (h : ruleErrorResult ruleId ruleVersion context reasonCode reasonText = .ok r) : r.passed = false := by
  obtain ⟨-, rfl⟩ := RiskRuleResult.validate_eq_ok.mp h
  rfl

/-- All results passed exactly when every rule did: the rules behind an early stop do not matter. -/
theorem evaluateRules_all_passed {rules : List RiskRule} {results : List RiskRuleResult}
    (h : evaluateRules intent context rules = .ok results) :
    (∀ r ∈ results, r.passed = true) ↔ ∀ rule ∈ rules, (rule.evaluate intent context).passes = true := by
  induction rules generalizing results with
  | nil => obtain rfl := Except.ok.inj h; simp
  | cons rule rules ih =>
      rw [evaluateRules] at h
      cases houtcome : rule.evaluate intent context with
      | returned result =>
          rw [houtcome] at h
          obtain ⟨rest, hrest, rfl⟩ := map_eq_ok.mp h
          rw [List.forall_mem_cons, List.forall_mem_cons, ih hrest, houtcome]
          rfl
      | raised exceptionType =>
          rw [houtcome] at h
          obtain ⟨r, hr, rfl⟩ := map_eq_ok.mp h
          simp [houtcome, ruleErrorResult_failed hr]
      | returnedOther =>
          rw [houtcome] at h
          obtain ⟨r, hr, rfl⟩ := map_eq_ok.mp h
          simp [houtcome, ruleErrorResult_failed hr, RuleOutcome.passes]

theorem evaluateRules_ne_nil {rules : List RiskRule} {results : List RiskRuleResult} (hne : rules ≠ [])
    (h : evaluateRules intent context rules = .ok results) : results ≠ [] := by
  cases rules with
  | nil => exact absurd rfl hne
  | cons rule rules =>
      rw [evaluateRules] at h
      split at h <;> obtain ⟨r, -, rfl⟩ := map_eq_ok.mp h <;> exact List.cons_ne_nil _ _

/-- Rules that all return a result never end the loop early. -/
theorem evaluateRules_returned {rules : List RiskRule}
    (h : ∀ rule ∈ rules, ∃ r, rule.evaluate intent context = .returned r) :
    ∃ results, evaluateRules intent context rules = .ok results := by
  induction rules with
  | nil => exact ⟨[], rfl⟩
  | cons rule rules ih =>
      obtain ⟨r, hr⟩ := h rule List.mem_cons_self
      obtain ⟨results, hresults⟩ := ih fun x hx => h x (List.mem_cons_of_mem _ hx)
      exact ⟨r :: results, by rw [evaluateRules, hr, hresults]; rfl⟩

/-! ## The decision -/

/-- `_validate_input_snapshot_id`. -/
def validateInputSnapshotId (inputSnapshotId : String) : Result Unit := do
  raiseIf (inputSnapshotId = "") (riskInputError "input_snapshot_id must not be empty")
  raiseIf (maxSnapshotIdLength < inputSnapshotId.length)
    (riskInputError "input_snapshot_id must be at most 128 characters")

theorem validateInputSnapshotId_ok {inputSnapshotId : String} (h : TextWithin 128 inputSnapshotId) :
    validateInputSnapshotId inputSnapshotId = .ok ⟨⟩ := by
  have hne : inputSnapshotId ≠ "" := by rintro rfl; exact absurd h.1 (by decide)
  simp only [validateInputSnapshotId, bind_eq_ok, raiseIf_eq_ok, exists_const, not_lt]
  exact ⟨hne, h.2⟩

/-- `_engine_result`. -/
def engineResult (context : RiskContext) (reasonCode reasonText : String) : Result RiskRuleResult :=
  ruleErrorResult riskEngineRuleId riskEngineRuleVersion context reasonCode reasonText

/-- The engine's own texts are within the limits of a rule result. -/
theorem engineResult_priceMissing (context : RiskContext) :
    ∃ r, engineResult context riskEngineApprovalLimitPriceMissingReason
      "approved decision requires intent limit_price" = .ok r := by
  refine ⟨_, RiskRuleResult.Valid.validate ⟨?_, ?_, ?_, ?_, ?_⟩⟩
  · exact .ofList (by decide)
  · exact .ofList (by decide)
  · exact .ofList (by decide)
  · rintro _ ⟨⟩; exact .ofList (by decide)
  · rintro _ ⟨⟩

/-- The results and the status of the decision: what would be approved without a price is rejected. -/
def settleStatus (intent : OrderIntent) (context : RiskContext) (results : List RiskRuleResult) :
    Result (List RiskRuleResult × RiskDecisionStatus) :=
  if decisionStatus results = .approved ∧ intent.limitPrice = none then
    (engineResult context riskEngineApprovalLimitPriceMissingReason
      "approved decision requires intent limit_price").map fun r => (results ++ [r], .rejected)
  else .ok (results, decisionStatus results)

variable (engine : RiskEngine)

/-- `evaluated_at + approval_ttl`, when the decision approves and there is a ttl. -/
def approvalExpiry (context : RiskContext) (status : RiskDecisionStatus) : Result (Option UTCDateTime) :=
  match status, engine.approvalTtl with
  | .approved, some ttl => (addTimedelta context.evaluatedAt ttl).map some
  | _, _ => .ok none

theorem approvalExpiry_of_refused {engine : RiskEngine} {status : RiskDecisionStatus}
    (h : status ≠ .approved) : engine.approvalExpiry context status = .ok none := by
  cases status with
  | approved => exact absurd rfl h
  | rejected => rfl
  | error => rfl

/-- The decision `evaluate` builds. -/
def decision (intent : OrderIntent) (context : RiskContext) (inputSnapshotId : String)
    (results : List RiskRuleResult) (status : RiskDecisionStatus) (expiresAt : Option UTCDateTime) :
    RiskDecision where
  riskDecisionId :=
    engine.decisionIdGenerator intent context.evaluatedAt inputSnapshotId engine.configurationHash results
  intentId := intent.intentId
  status := status
  evaluatedAt := context.evaluatedAt
  inputSnapshotId := inputSnapshotId
  ruleResults := results
  approvedQuantity := if status = .approved then some intent.quantity else none
  approvedLimitPrice := if status = .approved then intent.limitPrice else none
  approvalExpiresAt := expiresAt
  configurationHash := engine.configurationHash
  correlationId := intent.correlationId

def evaluate (intent : OrderIntent) (context : RiskContext) (inputSnapshotId : String) :
    Result RiskDecision := do
  validateInputSnapshotId inputSnapshotId
  let results ← evaluateRules intent context engine.rules
  let (results, status) ← settleStatus intent context results
  let expiresAt ← engine.approvalExpiry context status
  (engine.decision intent context inputSnapshotId results status expiresAt).validate

variable {engine}
variable {inputSnapshotId : String} {results : List RiskRuleResult}

/-- Every rule passed and there is a price: the decision approves, if its expiry exists and it validates. -/
theorem evaluate_of_approved {price : ℚ} (hid : TextWithin 128 inputSnapshotId)
    (hresults : evaluateRules intent context engine.rules = .ok results)
    (hpassed : ∀ r ∈ results, r.passed = true) (hprice : intent.limitPrice = some price) :
    engine.evaluate intent context inputSnapshotId =
      engine.approvalExpiry context .approved >>= fun expiresAt =>
        (engine.decision intent context inputSnapshotId results .approved expiresAt).validate := by
  have hsettle : settleStatus intent context results = .ok (results, .approved) := by
    rw [settleStatus, if_neg (by simp [hprice]), decisionStatus_eq_approved.mpr hpassed]
  rw [evaluate, validateInputSnapshotId_ok hid, ok_bind, hresults, ok_bind, hsettle, ok_bind]

/-- Otherwise the decision does not approve, and some result in it failed. -/
theorem evaluate_of_refused (hid : TextWithin 128 inputSnapshotId)
    (hresults : evaluateRules intent context engine.rules = .ok results)
    (hrefused : ¬((∀ r ∈ results, r.passed = true) ∧ intent.limitPrice.isSome)) :
    ∃ results' status, status ≠ .approved ∧ (∃ r ∈ results', r.passed = false) ∧
      engine.evaluate intent context inputSnapshotId =
        (engine.decision intent context inputSnapshotId results' status none).validate := by
  have hevaluate : ∀ {results' status}, status ≠ .approved →
      settleStatus intent context results = .ok (results', status) →
      engine.evaluate intent context inputSnapshotId =
        (engine.decision intent context inputSnapshotId results' status none).validate := by
    intro results' status hstatus hsettle
    rw [evaluate, validateInputSnapshotId_ok hid, ok_bind, hresults, ok_bind, hsettle, ok_bind]
    dsimp only
    rw [approvalExpiry_of_refused hstatus, ok_bind]
  by_cases hpassed : ∀ r ∈ results, r.passed = true
  · -- only the price is missing: the engine adds its own failed result
    have hprice : intent.limitPrice = none := by
      rw [← Option.not_isSome_iff_eq_none]; exact fun h => hrefused ⟨hpassed, h⟩
    obtain ⟨r, hr⟩ := engineResult_priceMissing context
    refine ⟨results ++ [r], .rejected, by decide, ⟨r, by simp, ruleErrorResult_failed hr⟩, ?_⟩
    refine hevaluate (by decide) ?_
    rw [settleStatus, if_pos ⟨decisionStatus_eq_approved.mpr hpassed, hprice⟩, hr]
    rfl
  · have hstatus : decisionStatus results ≠ .approved := fun h => hpassed (decisionStatus_eq_approved.mp h)
    push Not at hpassed
    obtain ⟨r, hr, hfailed⟩ := hpassed
    refine ⟨results, decisionStatus results, hstatus, ⟨r, hr, Bool.eq_false_iff.mpr hfailed⟩, ?_⟩
    refine hevaluate hstatus ?_
    rw [settleStatus, if_neg fun h => hstatus h.1]

/-- A decision that was returned is the one that was built, and it is valid. -/
theorem evaluate_eq_ok {d : RiskDecision} (h : engine.evaluate intent context inputSnapshotId = .ok d) :
    d.Valid ∧ ∃ results status expiresAt,
      d = engine.decision intent context inputSnapshotId results status expiresAt := by
  simp only [evaluate, bind_eq_ok, Prod.exists] at h
  obtain ⟨-, -, -, -, results, status, -, expiresAt, -, hd⟩ := h
  obtain ⟨hvalid, rfl⟩ := RiskDecision.validate_eq_ok.mp hd
  exact ⟨hvalid, results, status, expiresAt, rfl⟩

/-- An approval is of the whole intent, and every rule passed. -/
theorem evaluate_approved {d : RiskDecision} (h : engine.evaluate intent context inputSnapshotId = .ok d)
    (happroved : d.status = .approved) :
    (∀ rule ∈ engine.rules, (rule.evaluate intent context).passes = true) ∧
      d.approvedQuantity = some intent.quantity ∧ d.approvedLimitPrice = intent.limitPrice := by
  simp only [evaluate, bind_eq_ok, Prod.exists] at h
  obtain ⟨-, -, results, hresults, settled, status, hsettle, expiresAt, -, hd⟩ := h
  obtain ⟨-, rfl⟩ := RiskDecision.validate_eq_ok.mp hd
  have hstatus : status = .approved := happroved
  refine ⟨?_, if_pos hstatus, if_pos hstatus⟩
  unfold settleStatus at hsettle
  split_ifs at hsettle
  · -- an approval without a price is turned into a rejection
    obtain ⟨r, -, hpair⟩ := map_eq_ok.mp hsettle
    obtain ⟨-, hrejected⟩ := Prod.mk.inj hpair
    rw [hstatus] at hrejected
    cases hrejected
  · obtain ⟨-, hdecided⟩ := Prod.mk.inj (Except.ok.inj hsettle)
    rw [← evaluateRules_all_passed hresults, ← decisionStatus_eq_approved]
    exact hdecided.trans hstatus

theorem decision_valid_of_approved {price : ℚ} {expiresAt : Option UTCDateTime}
    (hid : TextWithin 128 inputSnapshotId) (hhash : engine.configurationHash.length ≤ 128)
    (hne : results ≠ []) (hpassed : ∀ r ∈ results, r.passed = true) (hprice : intent.limitPrice = some price)
    (hexpires : ∀ t ∈ expiresAt, context.evaluatedAt < t) :
    (engine.decision intent context inputSnapshotId results .approved expiresAt).Valid where
  inputSnapshotId_within := hid
  approvedQuantity_pos := by rintro q ⟨⟩; exact intent.quantity_pos
  approvedLimitPrice_nonneg := intent.limitPrice_nonneg
  configurationHash_within :=
    ⟨Nat.one_le_iff_ne_zero.mpr fun h => engine.configurationHash_ne (String.length_eq_zero_iff.mp h), hhash⟩
  has_result := hne
  approved_passed _ := hpassed
  approved_fields _ := ⟨rfl, by simp [decision, hprice]⟩
  refused_fields h := absurd rfl h
  refused_failed h := absurd rfl h
  expires_after := hexpires

theorem decision_valid_of_refused {status : RiskDecisionStatus} (hid : TextWithin 128 inputSnapshotId)
    (hhash : engine.configurationHash.length ≤ 128) (hstatus : status ≠ .approved)
    (hfailed : ∃ r ∈ results, r.passed = false) :
    (engine.decision intent context inputSnapshotId results status none).Valid where
  inputSnapshotId_within := hid
  approvedQuantity_pos := by simp [decision, hstatus]
  approvedLimitPrice_nonneg := by simp [decision, hstatus]
  configurationHash_within :=
    ⟨Nat.one_le_iff_ne_zero.mpr fun h => engine.configurationHash_ne (String.length_eq_zero_iff.mp h), hhash⟩
  has_result := by
    obtain ⟨r, hr, -⟩ := hfailed
    exact List.ne_nil_of_mem hr
  approved_passed h := absurd h hstatus
  approved_fields h := absurd h hstatus
  refused_fields _ := by simp [RiskDecision.HasApproval, decision, hstatus]
  refused_failed _ := hfailed
  expires_after := by rintro t ⟨⟩

end RiskEngine
end Pmrp
