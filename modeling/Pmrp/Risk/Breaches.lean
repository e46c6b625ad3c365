import Pmrp.Schemas.Risk

/-!
# `Risk.Breaches` — breach records of a decision

`risk/breaches.py`. A factory holds policies, each for one rule and maybe one reason code. A failed rule result
gives a breach when a policy is for it, and a policy for its reason code comes before one for the rule alone.
-/

namespace Pmrp

/-! ## Policies -/

structure RiskBreachPolicy where
  ruleId : String
  scope : RiskLimitScope
  severity : String
  actionTaken : String
  scopeId : Option String := none
  reasonCode : Option String := none
  ruleId_within : TextWithin riskIdMaxLength ruleId
  severity_within : TextWithin 64 severity
  actionTaken_within : TextWithin riskIdMaxLength actionTaken
  scopeId_within : ∀ s ∈ scopeId, TextWithin 256 s
  reasonCode_within : ∀ s ∈ reasonCode, TextWithin riskIdMaxLength s

def RiskBreachPolicy.key (policy : RiskBreachPolicy) : String × Option String := (policy.ruleId, policy.reasonCode)

/-- `breach_id(decision=…, result=…, result_index=…, policy=…)`. -/
abbrev RiskBreachIdGenerator := RiskDecision → RiskRuleResult → ℕ → RiskBreachPolicy → Result String

structure RiskBreachFactory where
  policies : List RiskBreachPolicy
  idGenerator : RiskBreachIdGenerator
  policies_ne : policies ≠ []
  keys_nodup : (policies.map RiskBreachPolicy.key).Nodup

/-- `_policy_for_result`: the last policy for the reason code, else the last one for the rule. -/
def policyForResult (policies : List RiskBreachPolicy) (result : RiskRuleResult) : Option RiskBreachPolicy :=
  let (reasonMatch, ruleMatch) := policies.foldl
    (fun (reasonMatch, ruleMatch) policy =>
      if policy.ruleId ≠ result.ruleId then (reasonMatch, ruleMatch)
      else if policy.reasonCode = some result.reasonCode then (some policy, ruleMatch)
      else if policy.reasonCode = none then (reasonMatch, some policy)
      else (reasonMatch, ruleMatch))
    ((none : Option RiskBreachPolicy), (none : Option RiskBreachPolicy))
  reasonMatch.or ruleMatch

/-! ## Breaches -/

namespace RiskBreachFactory

/-- `__post_init__` with its `_freeze_policies`. -/
def create (policies : List RiskBreachPolicy) (idGenerator : RiskBreachIdGenerator) : Result RiskBreachFactory :=
  if h₁ : policies = [] then
    .error (riskConfigurationError "risk breach factory requires at least one policy")
  else if h₂ : (policies.map RiskBreachPolicy.key).Nodup then .ok ⟨policies, idGenerator, h₁, h₂⟩
  else .error (riskConfigurationError "risk breach policy keys must be unique")

/-- The breach of a failed result. -/
def breach (decision : RiskDecision) (result : RiskRuleResult) (policy : RiskBreachPolicy) (breachId : String) :
    RiskBreach where
  breachId := breachId
  ruleId := result.ruleId
  ruleVersion := result.ruleVersion
  scope := policy.scope
  scopeId := policy.scopeId
  severity := policy.severity
  detectedAt := result.evaluatedAt
  observedValue := result.observedValue
  limitValue := result.limitValue
  unit := result.unit
  actionTaken := policy.actionTaken
  correlationId := decision.correlationId

variable (factory : RiskBreachFactory) (decision : RiskDecision)

/-- The loop over the rule results, from an index on. -/
def breachesFrom : ℕ → List RiskRuleResult → Result (List RiskBreach)
  | _, [] => .ok []
  | resultIndex, result :: results =>
      if result.passed then breachesFrom (resultIndex + 1) results
      else
        match policyForResult factory.policies result with
        | none => breachesFrom (resultIndex + 1) results
        | some policy => do
            let breachId ← factory.idGenerator decision result resultIndex policy
            let first ← (breach decision result policy breachId).validate
            let rest ← breachesFrom (resultIndex + 1) results
            pure (first :: rest)

def breachesForDecision : Result (List RiskBreach) := factory.breachesFrom decision 0 decision.ruleResults

variable {factory decision}

end RiskBreachFactory
end Pmrp
