import Pmrp.Risk.Builtins

/-!
# `Risk.Correctness.Approval` — an engine of built-in rules approves what every rule allows

`Approvable` is the specification: there is a limit price, and every configured rule allows the intent.
`Decides` says that `evaluate` returns a valid decision that agrees with it and carries approval fields only
when it approves. The engine decides (`decides_iff`) unless the decision cannot be built: a configured hash
longer than a decision holds, or an approval that would expire after the last representable time.
-/

namespace Pmrp
namespace RiskEngine

variable {sha : Sha256} {rules : List BuiltinRule} {configurationHash : Option String}
variable {approvalTtl : Option Timedelta} {generator : RiskDecisionIdGenerator} {engine : RiskEngine}
variable {intent : OrderIntent} {context : RiskContext} {inputSnapshotId : String}

/-! ## The specification -/

def Approvable (rules : List BuiltinRule) (intent : OrderIntent) (context : RiskContext) : Prop :=
  ∃ price, intent.limitPrice = some price ∧ ∀ rule ∈ rules, rule.Allows intent price context

/-- The engine returns a valid decision that approves exactly the approvable. -/
def Decides (engine : RiskEngine) (rules : List BuiltinRule) (intent : OrderIntent) (context : RiskContext)
    (inputSnapshotId : String) : Prop :=
  ∃ d, engine.evaluate intent context inputSnapshotId = .ok d ∧
    (d.status = .approved ↔ Approvable rules intent context) ∧
    (d.status ≠ .approved →
      d.approvedQuantity = none ∧ d.approvedLimitPrice = none ∧ d.approvalExpiresAt = none) ∧
    d.Valid

/-- The engine the constructor builds from built-in rules. -/
def Configured (sha : Sha256) (rules : List BuiltinRule) (configurationHash : Option String)
    (approvalTtl : Option Timedelta) (generator : RiskDecisionIdGenerator) (engine : RiskEngine) : Prop :=
  create sha (rules.map (·.toRiskRule .exact)) configurationHash approvalTtl generator = .ok engine

/-! ## What the loop finds -/

/-- The loop returns results, and all of them passed exactly when every rule did. -/
theorem Configured.results (h : Configured sha rules configurationHash approvalTtl generator engine)
    (intent : OrderIntent) (context : RiskContext) :
    ∃ results, evaluateRules intent context engine.rules = .ok results ∧ results ≠ [] ∧
      ((∀ r ∈ results, r.passed = true) ↔ ∀ rule ∈ rules,
        (rule.kind.evaluate .exact rule.maxStateAge intent context).passes = true) := by
  have hrules := (create_eq_ok h).1
  obtain ⟨results, hresults⟩ : ∃ results, evaluateRules intent context engine.rules = .ok results := by
    apply evaluateRules_returned
    intro rule hrule
    rw [hrules, List.mem_map] at hrule
    obtain ⟨b, -, rfl⟩ := hrule
    obtain ⟨r, hr, -⟩ := b.evaluate_returns intent context
    exact ⟨r, hr⟩
  refine ⟨results, hresults, evaluateRules_ne_nil engine.rules_ne hresults, ?_⟩
  rw [evaluateRules_all_passed hresults, hrules, List.forall_mem_map]
  rfl

/-- What every rule passes and has a price is what is approvable. -/
theorem Configured.approvable_iff (h : Configured sha rules configurationHash approvalTtl generator engine)
    {results : List RiskRuleResult} (hresults : evaluateRules intent context engine.rules = .ok results) :
    ((∀ r ∈ results, r.passed = true) ∧ intent.limitPrice.isSome) ↔ Approvable rules intent context := by
  obtain ⟨results', hresults', -, hpassed⟩ := h.results intent context
  obtain rfl : results = results' := by rw [hresults] at hresults'; exact Except.ok.inj hresults'
  rw [hpassed, Option.isSome_iff_exists]
  constructor
  · rintro ⟨hrules, price, hprice⟩
    exact ⟨price, hprice, fun rule hrule => (BuiltinRule.evaluate_passes hprice).mp (hrules rule hrule)⟩
  · rintro ⟨price, hprice, hallows⟩
    exact ⟨fun rule hrule => (BuiltinRule.evaluate_passes hprice).mpr (hallows rule hrule), price, hprice⟩

/-! ## What can keep a decision from being built -/

/-- Only a hash that was given can be too long. -/
theorem Configured.hash_within_iff (h : Configured sha rules configurationHash approvalTtl generator engine) :
    engine.configurationHash.length ≤ 128 ↔ ∀ hash ∈ configurationHash, hash.length ≤ 128 := by
  rw [(create_eq_ok h).2.2]
  cases configurationHash with
  | none => simp [length_configurationHashOf]
  | some hash => simp

theorem Decides.hash_within (h : engine.Decides rules intent context inputSnapshotId) :
    engine.configurationHash.length ≤ 128 := by
  obtain ⟨d, hd, -⟩ := h
  obtain ⟨hvalid, results, status, expiresAt, rfl⟩ := evaluate_eq_ok hd
  exact hvalid.configurationHash_within.2

/-- An approval expires when its ttl leads to a representable time. -/
theorem approvalExpiry_approved_iff {expiresAt : Option UTCDateTime} :
    engine.approvalExpiry context .approved = .ok expiresAt ↔
      (∀ ttl ∈ engine.approvalTtl, IsDatetime (context.evaluatedAt + ttl)) ∧
        expiresAt = engine.approvalTtl.map (context.evaluatedAt + ·) := by
  unfold approvalExpiry
  cases engine.approvalTtl with
  | none => simp [eq_comm]
  | some ttl =>
      simp only [map_eq_ok, addTimedelta_eq_ok, Option.mem_some_iff, forall_eq', Option.map_some]
      constructor
      · rintro ⟨t, ⟨ht, rfl⟩, rfl⟩; exact ⟨ht, rfl⟩
      · rintro ⟨ht, rfl⟩; exact ⟨_, ⟨ht, rfl⟩, rfl⟩

/-! ## The engine decides -/

theorem Configured.decides_of_approvable
    (h : Configured sha rules configurationHash approvalTtl generator engine)
    (hid : TextWithin 128 inputSnapshotId) (happrovable : Approvable rules intent context) :
    engine.Decides rules intent context inputSnapshotId ↔
      engine.configurationHash.length ≤ 128 ∧
        ∀ ttl ∈ engine.approvalTtl, IsDatetime (context.evaluatedAt + ttl) := by
  obtain ⟨results, hresults, hne, -⟩ := h.results intent context
  obtain ⟨hpassed, hsome⟩ := (h.approvable_iff hresults).mpr happrovable
  obtain ⟨price, hprice⟩ := Option.isSome_iff_exists.mp hsome
  have hevaluate := evaluate_of_approved hid hresults hpassed hprice
  constructor
  · intro hdecides
    refine ⟨hdecides.hash_within, ?_⟩
    obtain ⟨d, hd, -⟩ := hdecides
    rw [hevaluate, bind_eq_ok] at hd
    obtain ⟨expiresAt, hexpires, -⟩ := hd
    exact (approvalExpiry_approved_iff.mp hexpires).1
  · rintro ⟨hhash, httl⟩
    have hexpires := approvalExpiry_approved_iff.mpr ⟨httl, rfl⟩
    have hvalid : (engine.decision intent context inputSnapshotId results .approved
        (engine.approvalTtl.map (context.evaluatedAt + ·))).Valid := by
      refine decision_valid_of_approved hid hhash hne hpassed hprice ?_
      intro t ht
      obtain ⟨ttl, hmem, rfl⟩ := Option.mem_map.mp ht
      exact lt_add_of_pos_right _ (engine.approvalTtl_pos ttl hmem)
    refine ⟨_, ?_, ?_, ?_, hvalid⟩
    · rw [hevaluate, hexpires, ok_bind, hvalid.validate]
    · exact iff_of_true rfl happrovable
    · exact fun hstatus => absurd rfl hstatus

theorem Configured.decides_of_not_approvable
    (h : Configured sha rules configurationHash approvalTtl generator engine)
    (hid : TextWithin 128 inputSnapshotId) (hnot : ¬Approvable rules intent context) :
    engine.Decides rules intent context inputSnapshotId ↔ engine.configurationHash.length ≤ 128 := by
  obtain ⟨results, hresults, -, -⟩ := h.results intent context
  obtain ⟨results', status, hstatus, hfailed, hevaluate⟩ :=
    evaluate_of_refused hid hresults fun hp => hnot ((h.approvable_iff hresults).mp hp)
  refine ⟨Decides.hash_within, fun hhash => ?_⟩
  have hvalid : (engine.decision intent context inputSnapshotId results' status none).Valid :=
    decision_valid_of_refused hid hhash hstatus hfailed
  refine ⟨_, ?_, iff_of_false hstatus hnot, fun _ => ?_, hvalid⟩
  · rw [hevaluate, hvalid.validate]
  · exact ⟨if_neg hstatus, if_neg hstatus, rfl⟩

/-- **Approval is sound and complete, and total up to two limits.** An engine of built-in rules decides every
    intent in every context, except that a given configuration hash may not be longer than 128 characters and
    an approval has to expire within the representable times. -/
theorem decides_iff (h : Configured sha rules configurationHash approvalTtl generator engine)
    (hid : TextWithin 128 inputSnapshotId) :
    engine.Decides rules intent context inputSnapshotId ↔
      (∀ hash ∈ configurationHash, hash.length ≤ 128) ∧
        (Approvable rules intent context →
          ∀ ttl ∈ approvalTtl, IsDatetime (context.evaluatedAt + ttl)) := by
  rw [← h.hash_within_iff, ← (create_eq_ok h).2.1]
  by_cases happrovable : Approvable rules intent context
  · rw [h.decides_of_approvable hid happrovable]
    simp only [happrovable, true_implies]
  · rw [h.decides_of_not_approvable hid happrovable]
    simp only [happrovable, false_implies, and_true]

/-! ## A concrete engine -/

theorem nonneg_of_mem_some {p : ℚ} (h : 0 ≤ p) : ∀ q ∈ some p, 0 ≤ q := by rintro q ⟨⟩; exact h

def makerStrategy : StrategyId := ⟨"strat_maker", by decide⟩
def rainMarket : MarketId := ⟨"mkt_rain", by decide⟩

/-- A limit order in the concrete market. -/
def quote (intentId : IntentId) (side : Side) (quantity price : ℚ) (hquantity : 0 < quantity)
    (hprice : 0 ≤ price) : OrderIntent where
  intentId := intentId
  strategyId := makerStrategy
  marketId := rainMarket
  contractId := ⟨"ctr_rain", by decide⟩
  outcomeId := ⟨"out_rain", by decide⟩
  side := side
  quantity := quantity
  limitPrice := some price
  createdAt := 0
  correlationId := ⟨"corr_quote", by decide⟩
  idempotencyKey := "quote"
  quantity_pos := hquantity
  limitPrice_nonneg := nonneg_of_mem_some hprice
  urgency_unit := by rintro u ⟨⟩
  idempotencyKey_within := .ofList (by decide)
  limit_has_price _ := rfl
  market_not_postOnly _ := rfl
  expires_after_creation := by rintro t ⟨⟩

theorem half_nonneg : (0 : ℚ) ≤ 1 / 2 := by norm_num

/-- A purchase of 2 at 0.50. -/
def quoteTwo : OrderIntent := quote ⟨"intent_two", by decide⟩ .buy 2 (1 / 2) two_pos half_nonneg

/-- The strategy has to have been enabled within the last minute. -/
def enabledRule : BuiltinRule := ⟨.strategyEnabled, 60000000, by decide⟩

def enabledContext : RiskContext where
  evaluatedAt := 10
  strategyEnabled _ := some ⟨true, 5⟩

def fixedDecisionId : RiskDecisionIdGenerator := fun _ _ _ _ _ => ⟨"risk_fixed", by decide⟩

theorem quoteTwo_approvable : Approvable [enabledRule] quoteTwo enabledContext := by
  refine ⟨1 / 2, rfl, fun rule hrule => ?_⟩
  obtain rfl := List.mem_singleton.mp hrule
  exact ⟨⟨true, 5⟩, rfl, by decide, rfl⟩

theorem configured_enabledRule (configurationHash : Option String) (hhash : configurationHash ≠ some "") :
    ∃ engine, Configured .constant [enabledRule] configurationHash (some 1000000) fixedDecisionId engine := by
  apply create_ok
  · exact List.cons_ne_nil _ _
  · exact List.nodup_singleton _
  · rintro ttl ⟨⟩; decide
  · cases configurationHash with
    | none =>
        intro h
        have hlength := length_configurationHashOf .constant
          ([enabledRule].map (·.toRiskRule .exact)) (some 1000000)
        rw [show configurationHashOf _ _ _ = "" from h] at hlength
        cases hlength
    | some hash => exact fun h => hhash (congrArg some h)

theorem decides_iff_enabled : ∃ engine,
    Configured .constant [enabledRule] none (some 1000000) fixedDecisionId engine ∧
      engine.Decides [enabledRule] quoteTwo enabledContext "snapshot" := by
  obtain ⟨engine, hengine⟩ := configured_enabledRule none (by decide)
  refine ⟨engine, hengine, (decides_iff hengine (by decide)).mpr ⟨?_, fun _ => ?_⟩⟩
  · rintro hash ⟨⟩
  · rintro ttl ⟨⟩; constructor <;> simp [enabledContext, maxDatetime]

/-- 129 characters. -/
def longHash : String := String.ofList (List.replicate 129 'a')

theorem length_longHash : longHash.length = 129 := String.length_ofList.trans List.length_replicate

/-- **An engine that decides nothing.** The constructor accepts a configuration hash of 129 characters, and
    no decision of that engine validates, so that what is approvable is not approved. -/
theorem longHash_undecided : ∃ engine,
    Configured .constant [enabledRule] (some longHash) (some 1000000) fixedDecisionId engine ∧
      Approvable [enabledRule] quoteTwo enabledContext ∧
      ¬engine.Decides [enabledRule] quoteTwo enabledContext "snapshot" := by
  have hlength := length_longHash
  have hne : longHash ≠ "" := by intro h; rw [h] at hlength; cases hlength
  obtain ⟨engine, hengine⟩ := configured_enabledRule (some longHash) fun h => hne (Option.some_inj.mp h)
  refine ⟨engine, hengine, quoteTwo_approvable, fun hdecides => ?_⟩
  have hwithin := hengine.hash_within_iff.mp hdecides.hash_within longHash rfl
  omega

end RiskEngine
end Pmrp
