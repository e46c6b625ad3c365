import Pmrp.Schemas.Primitives

/-!
# `Schemas.Risk` — snapshots, rule results, decisions, breaches, kill switches

The models of `schemas/risk.py` that the risk code builds or reads. What it builds is a plain record with a
`validate` that raises as its validators do; `validate_eq_ok` reads it as the proposition `Valid`. A
`RiskInputSnapshot` only comes from outside, already validated.
-/

namespace Pmrp

def riskIdMaxLength : ℕ := 128
def riskTextMaxLength : ℕ := 1024

/-! ## Enumerations -/

inductive KillSwitchScope
  | global
  | exchange
  | account
  | strategy
  | market
  | executionGateway
  deriving DecidableEq, Repr

inductive RiskLimitScope
  | global
  | exchange
  | account
  | strategy
  | market
  deriving DecidableEq, Repr

/-! ## Input snapshots -/

structure RiskInputSnapshot where
  riskInputSnapshotId : String
  capturedAt : UTCDateTime
  strategyId : StrategyId
  exchange : String
  accountId : AccountId
  marketId : MarketId
  currentPosition : ℚ
  openOrderQuantity : ℚ
  availableBalance : ℚ
  grossExposure : ℚ
  netExposure : ℚ
  dailyRealizedPnl : ℚ
  dailyUnrealizedPnl : ℚ
  marketDataAgeMs : ℕ
  reconciliationHealthy : Bool
  killSwitchClear : Bool
  riskInputSnapshotId_within : TextWithin riskIdMaxLength riskInputSnapshotId
  exchange_within : TextWithin 64 exchange
  openOrderQuantity_nonneg : 0 ≤ openOrderQuantity
  availableBalance_nonneg : 0 ≤ availableBalance
  grossExposure_nonneg : 0 ≤ grossExposure

/-! ## Rule results -/

structure RiskRuleResult where
  ruleId : String
  ruleVersion : String
  passed : Bool
  reasonCode : String
  reasonText : Option String := none
  observedValue : Option ℚ := none
  limitValue : Option ℚ := none
  unit : Option String := none
  evaluatedAt : UTCDateTime
  deriving DecidableEq

namespace RiskRuleResult

structure Valid (r : RiskRuleResult) : Prop where
  ruleId_within : TextWithin riskIdMaxLength r.ruleId
  ruleVersion_within : TextWithin 64 r.ruleVersion
  reasonCode_within : TextWithin riskIdMaxLength r.reasonCode
  reasonText_within : ∀ s ∈ r.reasonText, TextWithin riskTextMaxLength s
  unit_within : ∀ s ∈ r.unit, TextWithin 64 s

def validate (r : RiskRuleResult) : Result RiskRuleResult := do
  checkText "rule_id" riskIdMaxLength r.ruleId
  checkText "rule_version" 64 r.ruleVersion
  checkText "reason_code" riskIdMaxLength r.reasonCode
  checkOptionalText "reason_text" riskTextMaxLength r.reasonText
  checkOptionalText "unit" 64 r.unit
  pure r

theorem validate_eq_ok {r s : RiskRuleResult} : r.validate = .ok s ↔ r.Valid ∧ s = r := by
  simp only [validate, bind_eq_ok, checkText_eq_ok, checkOptionalText_eq_ok, exists_const, pure_eq_ok]
  constructor
  · rintro ⟨h1, h2, h3, h4, h5, rfl⟩; exact ⟨⟨h1, h2, h3, h4, h5⟩, rfl⟩
  · rintro ⟨⟨h1, h2, h3, h4, h5⟩, rfl⟩; exact ⟨h1, h2, h3, h4, h5, rfl⟩

theorem Valid.validate {r : RiskRuleResult} (h : r.Valid) : r.validate = .ok r :=
  validate_eq_ok.mpr ⟨h, rfl⟩

end RiskRuleResult

/-! ## Decisions -/

structure RiskDecision where
  riskDecisionId : RiskDecisionId
  intentId : IntentId
  status : RiskDecisionStatus
  evaluatedAt : UTCDateTime
  inputSnapshotId : String
  ruleResults : List RiskRuleResult
  approvedQuantity : Option ℚ := none
  approvedLimitPrice : Option ℚ := none
  approvalExpiresAt : Option UTCDateTime := none
  configurationHash : String
  correlationId : CorrelationId
  deriving DecidableEq

namespace RiskDecision

/-- Some approval field is set. -/
def HasApproval (d : RiskDecision) : Prop :=
  d.approvedQuantity.isSome ∨ d.approvedLimitPrice.isSome ∨ d.approvalExpiresAt.isSome

instance (d : RiskDecision) : Decidable d.HasApproval := inferInstanceAs (Decidable (_ ∨ _ ∨ _))

structure Valid (d : RiskDecision) : Prop where
  inputSnapshotId_within : TextWithin riskIdMaxLength d.inputSnapshotId
  approvedQuantity_pos : ∀ q ∈ d.approvedQuantity, 0 < q
  approvedLimitPrice_nonneg : ∀ p ∈ d.approvedLimitPrice, 0 ≤ p
  configurationHash_within : TextWithin 128 d.configurationHash
  has_result : d.ruleResults ≠ []
  approved_passed : d.status = .approved → ∀ r ∈ d.ruleResults, r.passed = true
  approved_fields : d.status = .approved → d.approvedQuantity.isSome ∧ d.approvedLimitPrice.isSome
  refused_fields : d.status ≠ .approved → ¬d.HasApproval
  refused_failed : d.status ≠ .approved → ∃ r ∈ d.ruleResults, r.passed = false
  expires_after : ∀ t ∈ d.approvalExpiresAt, d.evaluatedAt < t

/-- Field constraints, then `validate_decision_state`. -/
def validate (d : RiskDecision) : Result RiskDecision := do
  checkText "input_snapshot_id" riskIdMaxLength d.inputSnapshotId
  raiseIf (¬∀ q ∈ d.approvedQuantity, 0 < q)
    (valueError "approved_quantity: Input should be greater than 0")
  raiseIf (¬∀ p ∈ d.approvedLimitPrice, 0 ≤ p) (belowZeroError "approved_limit_price")
  checkText "configuration_hash" 128 d.configurationHash
  raiseIf (d.ruleResults = []) (valueError "risk decision requires at least one rule result")
  raiseIf (d.status = .approved ∧ ∃ r ∈ d.ruleResults, r.passed = false)
    (valueError "approved risk decision cannot contain failed rule results")
  raiseIf (d.status = .approved ∧ ¬(d.approvedQuantity.isSome ∧ d.approvedLimitPrice.isSome))
    (valueError "approved risk decision requires approved quantity and limit price")
  raiseIf (d.status ≠ .approved ∧ d.HasApproval)
    (valueError "non-approved risk decision cannot contain approval fields")
  raiseIf (d.status ≠ .approved ∧ ∀ r ∈ d.ruleResults, r.passed = true)
    (valueError "non-approved risk decision requires at least one failed rule result")
  raiseIf (¬∀ t ∈ d.approvalExpiresAt, d.evaluatedAt < t)
    (valueError "approval_expires_at must be after evaluated_at")
  pure d

theorem validate_eq_ok {d e : RiskDecision} : d.validate = .ok e ↔ d.Valid ∧ e = d := by
  simp only [validate, bind_eq_ok, checkText_eq_ok, raiseIf_eq_ok, not_not, not_and, exists_const,
    pure_eq_ok, not_exists, not_forall, exists_prop, Bool.not_eq_false, Bool.not_eq_true]
  constructor
  · rintro ⟨h1, h2, h3, h4, h5, h6, h7, h8, h9, h10, rfl⟩
    exact ⟨⟨h1, h2, h3, h4, h5, h6, h7, h8, h9, h10⟩, rfl⟩
  · rintro ⟨⟨h1, h2, h3, h4, h5, h6, h7, h8, h9, h10⟩, rfl⟩
    exact ⟨h1, h2, h3, h4, h5, h6, h7, h8, h9, h10, rfl⟩

theorem Valid.validate {d : RiskDecision} (h : d.Valid) : d.validate = .ok d := validate_eq_ok.mpr ⟨h, rfl⟩

end RiskDecision

/-! ## Breaches -/

structure RiskBreach where
  breachId : String
  ruleId : String
  ruleVersion : String
  scope : RiskLimitScope
  scopeId : Option String := none
  severity : String
  detectedAt : UTCDateTime
  observedValue : Option ℚ := none
  limitValue : Option ℚ := none
  unit : Option String := none
  actionTaken : String
  correlationId : CorrelationId
  deriving DecidableEq

namespace RiskBreach

structure Valid (b : RiskBreach) : Prop where
  breachId_within : TextWithin riskIdMaxLength b.breachId
  ruleId_within : TextWithin riskIdMaxLength b.ruleId
  ruleVersion_within : TextWithin 64 b.ruleVersion
  scopeId_within : ∀ s ∈ b.scopeId, TextWithin 256 s
  severity_within : TextWithin 64 b.severity
  unit_within : ∀ s ∈ b.unit, TextWithin 64 s
  actionTaken_within : TextWithin riskIdMaxLength b.actionTaken

def validate (b : RiskBreach) : Result RiskBreach := do
  checkText "breach_id" riskIdMaxLength b.breachId
  checkText "rule_id" riskIdMaxLength b.ruleId
  checkText "rule_version" 64 b.ruleVersion
  checkOptionalText "scope_id" 256 b.scopeId
  checkText "severity" 64 b.severity
  checkOptionalText "unit" 64 b.unit
  checkText "action_taken" riskIdMaxLength b.actionTaken
  pure b

theorem validate_eq_ok {b c : RiskBreach} : b.validate = .ok c ↔ b.Valid ∧ c = b := by
  simp only [validate, bind_eq_ok, checkText_eq_ok, checkOptionalText_eq_ok, exists_const, pure_eq_ok]
  constructor
  · rintro ⟨h1, h2, h3, h4, h5, h6, h7, rfl⟩; exact ⟨⟨h1, h2, h3, h4, h5, h6, h7⟩, rfl⟩
  · rintro ⟨⟨h1, h2, h3, h4, h5, h6, h7⟩, rfl⟩; exact ⟨h1, h2, h3, h4, h5, h6, h7, rfl⟩

end RiskBreach

/-! ## Kill switches -/

def KillSwitchScope.value : KillSwitchScope → String
  | .global => "global"
  | .exchange => "exchange"
  | .account => "account"
  | .strategy => "strategy"
  | .market => "market"
  | .executionGateway => "execution_gateway"

structure KillSwitchState where
  killSwitchId : String
  scope : KillSwitchScope
  scopeId : Option String := none
  active : Bool
  activatedAt : Option UTCDateTime := none
  activatedBy : Option String := none
  activationReason : Option String := none
  releasedAt : Option UTCDateTime := none
  releasedBy : Option String := none
  releaseReason : Option String := none
  version : ℕ
  deriving DecidableEq

namespace KillSwitchState

def scopeIdMaxLength : ℕ := 256

def HasActivation (k : KillSwitchState) : Prop :=
  k.activatedAt.isSome ∨ k.activatedBy.isSome ∨ k.activationReason.isSome

def AllActivation (k : KillSwitchState) : Prop :=
  k.activatedAt.isSome ∧ k.activatedBy.isSome ∧ k.activationReason.isSome

def HasRelease (k : KillSwitchState) : Prop :=
  k.releasedAt.isSome ∨ k.releasedBy.isSome ∨ k.releaseReason.isSome

def AllRelease (k : KillSwitchState) : Prop :=
  k.releasedAt.isSome ∧ k.releasedBy.isSome ∧ k.releaseReason.isSome

instance (k : KillSwitchState) : Decidable k.HasActivation := inferInstanceAs (Decidable (_ ∨ _ ∨ _))
instance (k : KillSwitchState) : Decidable k.AllActivation := inferInstanceAs (Decidable (_ ∧ _ ∧ _))
instance (k : KillSwitchState) : Decidable k.HasRelease := inferInstanceAs (Decidable (_ ∨ _ ∨ _))
instance (k : KillSwitchState) : Decidable k.AllRelease := inferInstanceAs (Decidable (_ ∧ _ ∧ _))

structure Valid (k : KillSwitchState) : Prop where
  killSwitchId_within : TextWithin riskIdMaxLength k.killSwitchId
  scopeId_within : ∀ s ∈ k.scopeId, TextWithin scopeIdMaxLength s
  activatedBy_within : ∀ s ∈ k.activatedBy, TextWithin riskIdMaxLength s
  activationReason_within : ∀ s ∈ k.activationReason, TextWithin riskTextMaxLength s
  releasedBy_within : ∀ s ∈ k.releasedBy, TextWithin riskIdMaxLength s
  releaseReason_within : ∀ s ∈ k.releaseReason, TextWithin riskTextMaxLength s
  active_activation : k.active = true → k.AllActivation
  active_release : k.active = true → ¬k.HasRelease
  released_release : k.active = false → k.HasRelease → k.AllRelease
  released_activation : k.active = false → k.HasRelease → k.AllActivation
  inactive_release : k.active = false → k.HasActivation → k.HasRelease
  released_after : ∀ t ∈ k.releasedAt, ∀ u ∈ k.activatedAt, u < t

/-- Field constraints, then `validate_activation_lifecycle`. -/
def validate (k : KillSwitchState) : Result KillSwitchState := do
  checkText "kill_switch_id" riskIdMaxLength k.killSwitchId
  checkOptionalText "scope_id" scopeIdMaxLength k.scopeId
  checkOptionalText "activated_by" riskIdMaxLength k.activatedBy
  checkOptionalText "activation_reason" riskTextMaxLength k.activationReason
  checkOptionalText "released_by" riskIdMaxLength k.releasedBy
  checkOptionalText "release_reason" riskTextMaxLength k.releaseReason
  raiseIf (k.active = true ∧ ¬k.AllActivation)
    (valueError "active kill switch requires activation audit fields")
  raiseIf (k.active = true ∧ k.HasRelease) (valueError "active kill switch cannot contain release fields")
  raiseIf (k.active = false ∧ k.HasRelease ∧ ¬k.AllRelease)
    (valueError "released kill switch requires release audit fields")
  raiseIf (k.active = false ∧ k.HasRelease ∧ ¬k.AllActivation)
    (valueError "released kill switch requires activation audit fields")
  raiseIf (k.active = false ∧ k.HasActivation ∧ ¬k.HasRelease)
    (valueError "inactive activated kill switch requires release audit fields")
  raiseIf (¬∀ t ∈ k.releasedAt, ∀ u ∈ k.activatedAt, u < t)
    (valueError "released_at must be after activated_at")
  pure k

theorem validate_eq_ok {k l : KillSwitchState} : k.validate = .ok l ↔ k.Valid ∧ l = k := by
  simp only [validate, bind_eq_ok, checkText_eq_ok, checkOptionalText_eq_ok, raiseIf_eq_ok, not_and, not_not,
    exists_const, pure_eq_ok]
  constructor
  · rintro ⟨h1, h2, h3, h4, h5, h6, h7, h8, h9, h10, h11, h12, rfl⟩
    exact ⟨⟨h1, h2, h3, h4, h5, h6, h7, h8, h9, h10, h11, h12⟩, rfl⟩
  · rintro ⟨⟨h1, h2, h3, h4, h5, h6, h7, h8, h9, h10, h11, h12⟩, rfl⟩
    exact ⟨h1, h2, h3, h4, h5, h6, h7, h8, h9, h10, h11, h12, rfl⟩

theorem Valid.validate {k : KillSwitchState} (h : k.Valid) : k.validate = .ok k := validate_eq_ok.mpr ⟨h, rfl⟩

end KillSwitchState

end Pmrp
