import Pmrp.Risk.Context

/-!
# `Risk.KillSwitches` — the kill switches that apply to an intent

`risk/kill_switches.py`: from a list of kill switches to the state that `KillSwitchClearRule` reads. `Covers`
says when a switch applies to a subject; `clearStateForSubject_ok` reads the built state in those terms.
-/

namespace Pmrp

/-- The identifiers that decide which switches apply. -/
structure KillSwitchEvaluationSubject where
  strategyId : StrategyId
  marketId : MarketId
  exchangeId : Option ExchangeId := none
  accountId : Option AccountId := none
  executionGatewayId : Option String := none
  gateway_within : ∀ s ∈ executionGatewayId, TextWithin KillSwitchState.scopeIdMaxLength s

namespace KillSwitchEvaluationSubject

/-- The identifier a scope is compared with; the global scope is compared with none. -/
def identifier (subject : KillSwitchEvaluationSubject) : KillSwitchScope → Option String
  | .global => none
  | .strategy => some subject.strategyId.val
  | .market => some subject.marketId.val
  | .exchange => subject.exchangeId.map (·.val)
  | .account => subject.accountId.map (·.val)
  | .executionGateway => subject.executionGatewayId

end KillSwitchEvaluationSubject

/-! ## Matching -/

/-- `_matches_subject`. An identifier that the subject lacks equals no scope. -/
def matchesSubject (killSwitch : KillSwitchState) (subject : KillSwitchEvaluationSubject) : Result Bool :=
  if killSwitch.scope = .global then .ok true
  else
    match killSwitch.scopeId with
    | none => .error (riskConfigurationError "active non-global kill switch requires scope_id")
    | some scopeId => .ok (subject.identifier killSwitch.scope == some scopeId)

/-- `clear_state_for_subject`: the scopes of the active switches that match. -/
def activeScopes (subject : KillSwitchEvaluationSubject) :
    List KillSwitchState → Result (Finset KillSwitchScope)
  | [] => .ok ∅
  | killSwitch :: rest =>
      if killSwitch.active = false then activeScopes subject rest
      else do
        let applies ← matchesSubject killSwitch subject
        let scopes ← activeScopes subject rest
        pure (if applies then insert killSwitch.scope scopes else scopes)

theorem clear_of_empty {scopes : Finset KillSwitchScope} (h : decide (scopes = ∅) = true) : scopes = ∅ :=
  of_decide_eq_true h

def clearStateForSubject (killSwitches : List KillSwitchState) (subject : KillSwitchEvaluationSubject)
    (observedAt : UTCDateTime) : Result RiskKillSwitchClearState := do
  let scopes ← activeScopes subject killSwitches
  pure
    { clear := decide (scopes = ∅)
      observedAt := observedAt
      activeScopes := scopes
      clear_empty := clear_of_empty }

/-- `build_kill_switch_clear_state`: the default factory has no configuration. -/
def buildKillSwitchClearState (killSwitches : List KillSwitchState) (subject : KillSwitchEvaluationSubject)
    (observedAt : UTCDateTime) : Result RiskKillSwitchClearState :=
  clearStateForSubject killSwitches subject observedAt

/-! ## What a built state says -/

/-- A switch applies to a subject. A scope whose identifier the subject lacks does not apply. -/
def Covers (killSwitch : KillSwitchState) (subject : KillSwitchEvaluationSubject) : Prop :=
  killSwitch.scope = .global ∨
    ∃ id, subject.identifier killSwitch.scope = some id ∧ killSwitch.scopeId = some id

/-- An active switch that names no scope to compare. -/
def Undecidable (killSwitch : KillSwitchState) : Prop :=
  killSwitch.active = true ∧ killSwitch.scope ≠ .global ∧ killSwitch.scopeId = none

section

variable {killSwitch : KillSwitchState} {subject : KillSwitchEvaluationSubject}
variable {killSwitches : List KillSwitchState}

variable (subject) in
theorem matchesSubject_ok (hactive : killSwitch.active = true) (h : ¬Undecidable killSwitch) :
    ∃ applies, matchesSubject killSwitch subject = .ok applies ∧
      (applies = true ↔ Covers killSwitch subject) := by
  unfold matchesSubject Covers
  by_cases hglobal : killSwitch.scope = .global
  · exact ⟨true, if_pos hglobal, by simp [hglobal]⟩
  · rw [if_neg hglobal]
    cases hscope : killSwitch.scopeId with
    | none => exact absurd ⟨hactive, hglobal, hscope⟩ h
    | some scopeId =>
        refine ⟨_, rfl, ?_⟩
        simp [hglobal]

variable (subject) in
/-- Without an undecidable switch, the scopes are those of the active switches that cover the subject. -/
theorem activeScopes_ok (h : ∀ k ∈ killSwitches, ¬Undecidable k) :
    ∃ scopes, activeScopes subject killSwitches = .ok scopes ∧
      ∀ scope, scope ∈ scopes ↔
        ∃ k ∈ killSwitches, k.active = true ∧ Covers k subject ∧ k.scope = scope := by
  induction killSwitches with
  | nil => exact ⟨∅, rfl, by simp⟩
  | cons k rest ih =>
      obtain ⟨scopes, hscopes, hmem⟩ := ih fun x hx => h x (List.mem_cons_of_mem _ hx)
      cases hactive : k.active with
      | false =>
          refine ⟨scopes, by rw [activeScopes, if_pos hactive, hscopes], fun scope => ?_⟩
          simp [hmem, hactive]
      | true =>
          obtain ⟨applies, happlies, hcovers⟩ :=
            matchesSubject_ok subject hactive (h k List.mem_cons_self)
          have hrun : activeScopes subject (k :: rest)
              = .ok (if applies then insert k.scope scopes else scopes) := by
            rw [activeScopes, if_neg (by simp [hactive]), happlies, ok_bind, hscopes, ok_bind]; rfl
          refine ⟨_, hrun, fun scope => ?_⟩
          by_cases hc : Covers k subject
          · rw [if_pos (hcovers.mpr hc), Finset.mem_insert, hmem, eq_comm (a := scope)]
            simp [hactive, hc]
          · have hfalse : applies = false := Bool.eq_false_iff.mpr fun ht => hc (hcovers.mp ht)
            simp [hfalse, hmem, hc]

/-- One undecidable switch makes the whole listing an error. -/
theorem activeScopes_error (h : ∃ k ∈ killSwitches, Undecidable k) :
    activeScopes subject killSwitches
      = .error (riskConfigurationError "active non-global kill switch requires scope_id") := by
  induction killSwitches with
  | nil => obtain ⟨k, hk, -⟩ := h; cases hk
  | cons k rest ih =>
      by_cases hundecidable : Undecidable k
      · obtain ⟨hactive, hglobal, hscope⟩ := hundecidable
        rw [activeScopes, if_neg (by simp [hactive]), matchesSubject, if_neg hglobal, hscope]
        rfl
      · have hrest : activeScopes subject rest
            = .error (riskConfigurationError "active non-global kill switch requires scope_id") := by
          obtain ⟨x, hx, hux⟩ := h
          rcases List.mem_cons.mp hx with rfl | hx
          · exact absurd hux hundecidable
          · exact ih ⟨x, hx, hux⟩
        cases hactive : k.active with
        | false => rw [activeScopes, if_pos hactive, hrest]
        | true =>
            obtain ⟨applies, happlies, -⟩ := matchesSubject_ok subject hactive hundecidable
            rw [activeScopes, if_neg (by simp [hactive]), happlies, ok_bind, hrest, error_bind]

variable {observedAt : UTCDateTime}

variable (subject observedAt) in
theorem clearStateForSubject_ok (h : ∀ k ∈ killSwitches, ¬Undecidable k) :
    ∃ state, clearStateForSubject killSwitches subject observedAt = .ok state ∧
      (state.clear = true ↔ ¬∃ k ∈ killSwitches, k.active = true ∧ Covers k subject) ∧
      ∀ scope, scope ∈ state.activeScopes ↔
        ∃ k ∈ killSwitches, k.active = true ∧ Covers k subject ∧ k.scope = scope := by
  obtain ⟨scopes, hscopes, hmem⟩ := activeScopes_ok subject h
  refine ⟨_, by rw [clearStateForSubject, hscopes, ok_bind]; rfl, ?_, hmem⟩
  rw [decide_eq_true_iff, Finset.eq_empty_iff_forall_notMem]
  constructor
  · rintro hempty ⟨k, hk, hactive, hcovers⟩
    exact hempty k.scope ((hmem _).mpr ⟨k, hk, hactive, hcovers, rfl⟩)
  · rintro hnone scope hscope
    obtain ⟨k, hk, hactive, hcovers, -⟩ := (hmem _).mp hscope
    exact hnone ⟨k, hk, hactive, hcovers⟩

theorem clearStateForSubject_error (h : ∃ k ∈ killSwitches, Undecidable k) :
    clearStateForSubject killSwitches subject observedAt
      = .error (riskConfigurationError "active non-global kill switch requires scope_id") := by
  rw [clearStateForSubject, activeScopes_error h, error_bind]

end

end Pmrp
