import Pmrp.Risk.Correctness.Approval

/-!
# `Risk.Correctness.FailingRules` — a rule that fails closes the evaluation

A rule fails when it raises or returns something that is no result. The engine then puts a result of its own in
place of the rule's and stops. That result carries the identity of the rule and the name of the exception, for which
the engine's constructor has no bound and a rule result has one.

- **Result.** `failsClosed_iff` — the engine fails closed, and decides where nothing fails, exactly where the texts of
  the result and of the decision are within their bounds and an approval can expire. `longRule_raises` is a rule with an
  identifier of 129 characters.
-/

namespace Pmrp
namespace RiskEngine

/-! ## The calls of the loop -/

variable (intent : OrderIntent) (context : RiskContext)

/-- The loop with the rules that it calls. -/
def evaluateRulesCalls : List RiskRule → List RiskRule × Result (List RiskRuleResult)
  | [] => ([], .ok [])
  | rule :: rules =>
      match rule.evaluate intent context with
      | .returned result =>
          let (called, results) := evaluateRulesCalls rules
          (rule :: called, results.map (result :: ·))
      | .raised exceptionType =>
          ([rule], (ruleErrorResult rule.ruleId rule.version context riskEngineRuleErrorReason
            s!"rule evaluation raised {exceptionType}").map ([·]))
      | .returnedOther =>
          ([rule], (ruleErrorResult rule.ruleId rule.version context riskEngineRuleResultInvalidReason
            "rule returned non-RiskRuleResult").map ([·]))

theorem evaluateRulesCalls_snd (rules : List RiskRule) :
    (evaluateRulesCalls intent context rules).2 = evaluateRules intent context rules := by
  induction rules with
  | nil => rfl
  | cons rule rules ih =>
      rw [evaluateRulesCalls, evaluateRules, ← ih]
      cases rule.evaluate intent context <;> rfl

/-! ## Failures -/

/-- The reason code and text that the engine reports for a failure. -/
def failureReason : RuleOutcome → Option (String × String)
  | .returned _ => none
  | .raised exceptionType => some (riskEngineRuleErrorReason, s!"rule evaluation raised {exceptionType}")
  | .returnedOther => some (riskEngineRuleResultInvalidReason, "rule returned non-RiskRuleResult")

/-- The results that the rules return, one for each rule. -/
def Returned (rules : List RiskRule) (results : List RiskRuleResult) : Prop :=
  rules.map (fun rule => rule.evaluate intent context) = results.map RuleOutcome.returned

variable {intent context}
variable {earlier later rules : List RiskRule} {rule : RiskRule} {results : List RiskRuleResult} {code text : String}

theorem returned_cons {r : RiskRule} :
    Returned intent context (r :: rules) results ↔
      ∃ result rest, results = result :: rest ∧ r.evaluate intent context = .returned result ∧
        Returned intent context rules rest := by
  unfold Returned
  constructor
  · intro h
    cases results with
    | nil => cases h
    | cons result rest =>
        obtain ⟨hhead, htail⟩ := List.cons.inj h
        exact ⟨result, rest, rfl, hhead, htail⟩
  · rintro ⟨result, rest, rfl, hhead, htail⟩
    rw [List.map_cons, List.map_cons, hhead, htail]

/-- A loop without a failure calls every rule. -/
theorem evaluateRulesCalls_returned (h : Returned intent context rules results) :
    evaluateRulesCalls intent context rules = (rules, .ok results) := by
  induction rules generalizing results with
  | nil =>
      obtain rfl := List.map_eq_nil_iff.mp (h : [] = results.map RuleOutcome.returned).symm
      rfl
  | cons rule rules ih =>
      obtain ⟨result, rest, rfl, hhead, htail⟩ := returned_cons.mp h
      rw [evaluateRulesCalls, hhead, ih htail]
      rfl

/-- The loop stops at the first failure, with a result of the engine in place of the rule's. -/
theorem evaluateRulesCalls_failure (hearlier : Returned intent context earlier results)
    (hfailure : failureReason (rule.evaluate intent context) = some (code, text)) :
    evaluateRulesCalls intent context (earlier ++ rule :: later) =
      (earlier ++ [rule], (ruleErrorResult rule.ruleId rule.version context code text).map (results ++ [·])) := by
  induction earlier generalizing results with
  | nil =>
      obtain rfl := List.map_eq_nil_iff.mp (hearlier : [] = results.map RuleOutcome.returned).symm
      rw [List.nil_append, evaluateRulesCalls]
      cases houtcome : rule.evaluate intent context with
      | returned result =>
          rw [houtcome] at hfailure
          cases hfailure
      | raised exceptionType =>
          rw [houtcome] at hfailure
          obtain ⟨rfl, rfl⟩ := Prod.mk.inj (Option.some.inj hfailure)
          rfl
      | returnedOther =>
          rw [houtcome] at hfailure
          obtain ⟨rfl, rfl⟩ := Prod.mk.inj (Option.some.inj hfailure)
          rfl
  | cons first earlier ih =>
      obtain ⟨result, rest, rfl, hhead, htail⟩ := returned_cons.mp hearlier
      rw [List.cons_append, evaluateRulesCalls, hhead, ih htail]
      dsimp only
      rw [List.cons_append]
      cases ruleErrorResult rule.ruleId rule.version context code text <;> rfl

/-- The engine's result for a failure of this rule. -/
def failureResult (rule : RiskRule) (context : RiskContext) (code text : String) : RiskRuleResult where
  ruleId := rule.ruleId
  ruleVersion := rule.version
  passed := false
  reasonCode := code
  reasonText := some text
  evaluatedAt := context.evaluatedAt

/-- The texts that the engine's result takes from the rule and its exception are within the bounds of a result. -/
structure Reportable (rule : RiskRule) (text : String) : Prop where
  ruleId_le : rule.ruleId.length ≤ riskIdMaxLength
  version_le : rule.version.length ≤ 64
  text_le : text.length ≤ riskTextMaxLength

theorem one_le_length {s : String} (h : s ≠ "") : 1 ≤ s.length :=
  Nat.one_le_iff_ne_zero.mpr fun hzero => h (String.length_eq_zero_iff.mp hzero)

theorem failureReason_ne {o : RuleOutcome} (h : failureReason o = some (code, text)) :
    (code = riskEngineRuleErrorReason ∨ code = riskEngineRuleResultInvalidReason) ∧ 1 ≤ text.length := by
  cases o with
  | returned result => cases h
  | raised exceptionType =>
      obtain ⟨rfl, rfl⟩ := Prod.mk.inj (Option.some.inj h)
      refine ⟨Or.inl rfl, ?_⟩
      have hlength : "rule evaluation raised ".length = 23 := rfl
      show 1 ≤ ("rule evaluation raised " ++ exceptionType).length
      rw [String.length_append, hlength]
      omega
  | returnedOther =>
      obtain ⟨rfl, rfl⟩ := Prod.mk.inj (Option.some.inj h)
      exact ⟨Or.inr rfl, by decide⟩

/-- **What can be reported** is what the bounds admit. -/
theorem ruleErrorResult_eq_ok {r : RiskRuleResult}
    (hfailure : failureReason (rule.evaluate intent context) = some (code, text)) :
    ruleErrorResult rule.ruleId rule.version context code text = .ok r ↔
      Reportable rule text ∧ r = failureResult rule context code text := by
  obtain ⟨hcode, htext⟩ := failureReason_ne hfailure
  have hwithin : TextWithin riskIdMaxLength code := by
    rcases hcode with rfl | rfl <;> exact TextWithin.ofList (by decide)
  unfold ruleErrorResult
  rw [RiskRuleResult.validate_eq_ok]
  constructor
  · rintro ⟨hvalid, rfl⟩
    exact ⟨⟨hvalid.ruleId_within.2, hvalid.ruleVersion_within.2, (hvalid.reasonText_within text rfl).2⟩, rfl⟩
  · rintro ⟨hreportable, rfl⟩
    refine ⟨⟨⟨one_le_length rule.ruleId_ne, hreportable.ruleId_le⟩,
      ⟨one_le_length rule.version_ne, hreportable.version_le⟩, hwithin, ?_, ?_⟩, rfl⟩
    · rintro _ ⟨⟩
      exact ⟨htext, hreportable.text_le⟩
    · rintro _ ⟨⟩

/-! ## Failing closed -/

variable {engine : RiskEngine} {inputSnapshotId : String}

/-- A failure ends the evaluation in a decision of error status that approves nothing. Without one every rule is
    called and a decision is returned, an approval iff every result passed and there is a price. -/
structure FailsClosed (engine : RiskEngine) (intent : OrderIntent) (context : RiskContext) (inputSnapshotId : String) :
    Prop where
  onFailure : ∀ earlier rule later results code text, engine.rules = earlier ++ rule :: later →
    Returned intent context earlier results → failureReason (rule.evaluate intent context) = some (code, text) →
    (evaluateRulesCalls intent context engine.rules).1 = earlier ++ [rule] ∧
      ∃ d, engine.evaluate intent context inputSnapshotId = .ok d ∧ d.status = .error ∧ ¬d.HasApproval ∧
        d.ruleResults = results ++ [failureResult rule context code text]
  onReturns : ∀ results, Returned intent context engine.rules results →
    (evaluateRulesCalls intent context engine.rules).1 = engine.rules ∧
      ∃ d, engine.evaluate intent context inputSnapshotId = .ok d ∧
        (d.status = .approved ↔ (∀ r ∈ results, r.passed = true) ∧ intent.limitPrice.isSome = true)

/-- The texts of the decision, and of the result that stands for the first failure, are within their bounds; and what
    every rule passes and has a price can expire at a representable time. -/
structure WithinBounds (engine : RiskEngine) (intent : OrderIntent) (context : RiskContext) (inputSnapshotId : String) :
    Prop where
  inputSnapshotId_within : TextWithin 128 inputSnapshotId
  configurationHash_le : engine.configurationHash.length ≤ 128
  failure : ∀ earlier rule later results code text, engine.rules = earlier ++ rule :: later →
    Returned intent context earlier results → failureReason (rule.evaluate intent context) = some (code, text) →
    Reportable rule text
  expiry : ∀ results, Returned intent context engine.rules results → (∀ r ∈ results, r.passed = true) →
    intent.limitPrice.isSome = true → ∀ ttl ∈ engine.approvalTtl, IsDatetime (context.evaluatedAt + ttl)

/-- Either every rule returns a result, or there is a first one that fails. -/
theorem returned_or_failure (intent : OrderIntent) (context : RiskContext) (rules : List RiskRule) :
    (∃ results, Returned intent context rules results) ∨
      ∃ earlier rule later results code text, rules = earlier ++ rule :: later ∧
        Returned intent context earlier results ∧ failureReason (rule.evaluate intent context) = some (code, text) := by
  induction rules with
  | nil => exact Or.inl ⟨[], rfl⟩
  | cons rule rules ih =>
      cases houtcome : rule.evaluate intent context with
      | returned result =>
          rcases ih with ⟨results, hreturned⟩ | ⟨earlier, failing, later, results, code, text, rfl, hreturned, hfailure⟩
          · exact Or.inl ⟨result :: results, returned_cons.mpr ⟨result, results, rfl, houtcome, hreturned⟩⟩
          · exact Or.inr ⟨rule :: earlier, failing, later, result :: results, code, text, rfl,
              returned_cons.mpr ⟨result, results, rfl, houtcome, hreturned⟩, hfailure⟩
      | raised exceptionType => exact Or.inr ⟨[], rule, rules, [], _, _, rfl, rfl, by rw [houtcome]; rfl⟩
      | returnedOther => exact Or.inr ⟨[], rule, rules, [], _, _, rfl, rfl, by rw [houtcome]; rfl⟩

theorem decisionStatus_failure (hfailure : failureReason (rule.evaluate intent context) = some (code, text)) :
    decisionStatus (results ++ [failureResult rule context code text]) = .error := by
  have herror : isEngineError (failureResult rule context code text) = true := by
    obtain ⟨rfl | rfl, -⟩ := failureReason_ne hfailure <;> simp [isEngineError, failureResult]
  rw [decisionStatus, if_pos]
  exact List.any_eq_true.mpr ⟨_, List.mem_append_right _ (List.mem_singleton_self _), herror⟩

/-- What `evaluate` does once the loop has stopped at a failure that can be reported. -/
theorem evaluate_failure (hid : TextWithin 128 inputSnapshotId) (hrules : engine.rules = earlier ++ rule :: later)
    (hearlier : Returned intent context earlier results)
    (hfailure : failureReason (rule.evaluate intent context) = some (code, text)) :
    engine.evaluate intent context inputSnapshotId =
      (ruleErrorResult rule.ruleId rule.version context code text) >>= fun _ =>
        (engine.decision intent context inputSnapshotId (results ++ [failureResult rule context code text]) .error
          none).validate := by
  have hloop : evaluateRules intent context engine.rules =
      (ruleErrorResult rule.ruleId rule.version context code text).map (results ++ [·]) := by
    rw [← evaluateRulesCalls_snd, hrules, evaluateRulesCalls_failure hearlier hfailure]
  rw [evaluate, validateInputSnapshotId_ok hid, ok_bind, hloop]
  cases hresult : ruleErrorResult rule.ruleId rule.version context code text with
  | error e => rfl
  | ok failing =>
      obtain ⟨-, rfl⟩ := (ruleErrorResult_eq_ok hfailure).mp hresult
      have hstatus : decisionStatus (results ++ [failureResult rule context code text]) = .error :=
        decisionStatus_failure hfailure
      -- an error is final: the price of the intent is not looked at
      have hsettle : settleStatus intent context (results ++ [failureResult rule context code text]) =
          .ok (results ++ [failureResult rule context code text], .error) := by
        rw [settleStatus, hstatus]
        rfl
      have hmap : (Except.ok (failureResult rule context code text) : Result RiskRuleResult).map (results ++ [·]) =
          .ok (results ++ [failureResult rule context code text]) := rfl
      rw [hmap, ok_bind, hsettle, ok_bind, ok_bind]
      rfl

theorem onFailure_of_reportable (hid : TextWithin 128 inputSnapshotId) (hhash : engine.configurationHash.length ≤ 128)
    (hrules : engine.rules = earlier ++ rule :: later) (hearlier : Returned intent context earlier results)
    (hfailure : failureReason (rule.evaluate intent context) = some (code, text)) (hreportable : Reportable rule text) :
    ∃ d, engine.evaluate intent context inputSnapshotId = .ok d ∧ d.status = .error ∧ ¬d.HasApproval ∧
      d.ruleResults = results ++ [failureResult rule context code text] := by
  have hresult := (ruleErrorResult_eq_ok hfailure).mpr ⟨hreportable, rfl⟩
  have hfailed : ∃ r ∈ results ++ [failureResult rule context code text], r.passed = false :=
    ⟨_, List.mem_append_right _ (List.mem_singleton_self _), rfl⟩
  have hvalid : (engine.decision intent context inputSnapshotId
      (results ++ [failureResult rule context code text]) .error none).Valid :=
    decision_valid_of_refused hid hhash (by decide) hfailed
  refine ⟨_, ?_, rfl, hvalid.refused_fields (by intro h; cases h), rfl⟩
  rw [evaluate_failure hid hrules hearlier hfailure, hresult, ok_bind]
  exact hvalid.validate

/-- **Without a failure** the decision approves what passed and has a price. -/
theorem approved_iff_of_returned (hreturned : Returned intent context engine.rules results) {d : RiskDecision}
    (h : engine.evaluate intent context inputSnapshotId = .ok d) :
    d.status = .approved ↔ (∀ r ∈ results, r.passed = true) ∧ intent.limitPrice.isSome = true := by
  have hloop : evaluateRules intent context engine.rules = .ok results := by
    rw [← evaluateRulesCalls_snd, evaluateRulesCalls_returned hreturned]
  constructor
  · intro happroved
    obtain ⟨hpasses, -, hprice⟩ := evaluate_approved h happroved
    refine ⟨(evaluateRules_all_passed hloop).mpr hpasses, ?_⟩
    rw [← hprice]
    exact ((evaluate_eq_ok h).1.approved_fields happroved).2
  · rintro ⟨hpassed, hsome⟩
    obtain ⟨price, hprice⟩ := Option.isSome_iff_exists.mp hsome
    have hid : TextWithin 128 inputSnapshotId := by
      obtain ⟨hvalid, _, _, _, rfl⟩ := evaluate_eq_ok h
      exact hvalid.inputSnapshotId_within
    rw [evaluate_of_approved hid hloop hpassed hprice] at h
    obtain ⟨expiresAt, -, hd⟩ := bind_eq_ok.mp h
    obtain ⟨-, rfl⟩ := RiskDecision.validate_eq_ok.mp hd
    rfl

theorem evaluateRules_of_returned (h : Returned intent context engine.rules results) :
    evaluateRules intent context engine.rules = .ok results := by
  rw [← evaluateRulesCalls_snd, evaluateRulesCalls_returned h]

/-- A decision that was returned has its texts within their bounds. -/
theorem texts_within_of_evaluate {d : RiskDecision} (h : engine.evaluate intent context inputSnapshotId = .ok d) :
    TextWithin 128 inputSnapshotId ∧ engine.configurationHash.length ≤ 128 := by
  obtain ⟨hvalid, _, _, _, rfl⟩ := evaluate_eq_ok h
  exact ⟨hvalid.inputSnapshotId_within, hvalid.configurationHash_within.2⟩

/-- What is approved expires at a representable time. -/
theorem expiry_of_evaluate (hreturned : Returned intent context engine.rules results)
    (hpassed : ∀ r ∈ results, r.passed = true) (hsome : intent.limitPrice.isSome = true) {d : RiskDecision}
    (h : engine.evaluate intent context inputSnapshotId = .ok d) :
    ∀ ttl ∈ engine.approvalTtl, IsDatetime (context.evaluatedAt + ttl) := by
  obtain ⟨price, hprice⟩ := Option.isSome_iff_exists.mp hsome
  rw [evaluate_of_approved (texts_within_of_evaluate h).1 (evaluateRules_of_returned hreturned) hpassed hprice,
    bind_eq_ok] at h
  obtain ⟨expiresAt, hexpires, -⟩ := h
  exact (approvalExpiry_approved_iff.mp hexpires).1

/-- Without a failure and within the bounds a decision is returned. -/
theorem evaluate_of_withinBounds (h : engine.WithinBounds intent context inputSnapshotId)
    (hreturned : Returned intent context engine.rules results) :
    ∃ d, engine.evaluate intent context inputSnapshotId = .ok d := by
  have hid := h.inputSnapshotId_within
  have hresults := evaluateRules_of_returned hreturned
  by_cases happroved : (∀ r ∈ results, r.passed = true) ∧ intent.limitPrice.isSome = true
  · obtain ⟨hpassed, hsome⟩ := happroved
    obtain ⟨price, hprice⟩ := Option.isSome_iff_exists.mp hsome
    have hexpires := approvalExpiry_approved_iff.mpr ⟨h.expiry results hreturned hpassed hsome, rfl⟩
    have hvalid : (engine.decision intent context inputSnapshotId results .approved
        (engine.approvalTtl.map (context.evaluatedAt + ·))).Valid := by
      refine decision_valid_of_approved hid h.configurationHash_le (evaluateRules_ne_nil engine.rules_ne hresults)
        hpassed hprice ?_
      intro t ht
      obtain ⟨ttl, hmem, rfl⟩ := Option.mem_map.mp ht
      exact lt_add_of_pos_right _ (engine.approvalTtl_pos ttl hmem)
    refine ⟨engine.decision intent context inputSnapshotId results .approved
      (engine.approvalTtl.map (context.evaluatedAt + ·)), ?_⟩
    rw [evaluate_of_approved hid hresults hpassed hprice, hexpires, ok_bind]
    exact hvalid.validate
  · obtain ⟨results', status, hstatus, hfailed, hevaluate⟩ := evaluate_of_refused hid hresults happroved
    exact ⟨_, hevaluate.trans (decision_valid_of_refused hid h.configurationHash_le hstatus hfailed).validate⟩

/-- **The engine fails closed**, and decides where no rule fails, exactly within the bounds. -/
theorem failsClosed_iff :
    engine.FailsClosed intent context inputSnapshotId ↔ engine.WithinBounds intent context inputSnapshotId := by
  constructor
  · intro hcloses
    obtain ⟨d, hd⟩ : ∃ d, engine.evaluate intent context inputSnapshotId = .ok d := by
      rcases returned_or_failure intent context engine.rules with
        ⟨results, hreturned⟩ | ⟨earlier, rule, later, results, code, text, hrules, hearlier, hfailure⟩
      · obtain ⟨-, d, hd, -⟩ := hcloses.onReturns results hreturned
        exact ⟨d, hd⟩
      · obtain ⟨-, d, hd, -⟩ := hcloses.onFailure earlier rule later results code text hrules hearlier hfailure
        exact ⟨d, hd⟩
    obtain ⟨hid, hhash⟩ := texts_within_of_evaluate hd
    refine ⟨hid, hhash, ?_, fun results hreturned hpassed hsome => expiry_of_evaluate hreturned hpassed hsome hd⟩
    intro earlier rule later results code text hrules hearlier hfailure
    rw [evaluate_failure hid hrules hearlier hfailure] at hd
    obtain ⟨failing, hfailing, -⟩ := bind_eq_ok.mp hd
    exact ((ruleErrorResult_eq_ok hfailure).mp hfailing).1
  · intro hbounds
    refine ⟨?_, ?_⟩
    · intro earlier rule later results code text hrules hearlier hfailure
      have hreportable := hbounds.failure earlier rule later results code text hrules hearlier hfailure
      refine ⟨?_, onFailure_of_reportable hbounds.inputSnapshotId_within hbounds.configurationHash_le hrules hearlier
        hfailure hreportable⟩
      rw [hrules, evaluateRulesCalls_failure hearlier hfailure]
    · intro results hreturned
      obtain ⟨d, hd⟩ := evaluate_of_withinBounds hbounds hreturned
      refine ⟨?_, d, hd, approved_iff_of_returned hreturned hd⟩
      rw [evaluateRulesCalls_returned hreturned]

/-- A rule with an identifier of 129 characters that raises. -/
def longRule : RiskRule where
  ruleId := longHash
  version := "long"
  ruleClass := "LongRule"
  parameters := .null
  evaluate _ _ := .raised "ValueError"
  ruleId_ne := by
    intro h
    have hlength := length_longHash
    rw [h] at hlength
    cases hlength
  version_ne := by decide

/-- **A failing rule makes the engine raise.** The constructor accepts the rule, and its failure cannot be reported. -/
theorem longRule_raises : ∃ engine, create .constant [longRule] (some "long rule") none fixedDecisionId = .ok engine ∧
    ¬engine.FailsClosed quoteTwo enabledContext "snapshot" := by
  obtain ⟨engine, hengine⟩ := @create_ok .constant [longRule] (some "long rule") none fixedDecisionId
    (List.cons_ne_nil _ _) (List.nodup_singleton _) (by rintro ttl ⟨⟩) (by decide)
  refine ⟨engine, hengine, fun hcloses => ?_⟩
  have hrules := (create_eq_ok hengine).1
  have hreportable := (failsClosed_iff.mp hcloses).failure [] longRule [] [] _ _ hrules rfl rfl
  have hle := hreportable.ruleId_le
  have hlength : longRule.ruleId.length = 129 := length_longHash
  rw [hlength] at hle
  exact absurd hle (by decide)

end RiskEngine
end Pmrp
