import Pmrp.Risk.Correctness.Approval
import Pmrp.Risk.KillSwitches
import Pmrp.Storage.KillSwitches

/-!
# `Risk.Correctness.KillSwitchCover` — from the stored switches to the clear state

An unfiltered listing followed by the clear-state factory. When the listing is not cut off by its limit, the
state is clear exactly when no stored active switch covers the subject (`clear_iff_uncovered`). A listing that
is cut off may leave out a covering switch, and a switch whose scope the subject has no identifier for is
taken not to apply.
-/

namespace Pmrp
namespace KillSwitchCover

open KillSwitchRepository

variable {collate : String → String → Bool} {rows : List KillSwitchState} {limit : ℤ}

/-- **Every active switch within the limit counts.** If the limit holds all active switches of a stored
    table, the listing succeeds; a non-global active switch without a scope makes the state an error;
    otherwise the state is clear exactly when no stored active switch covers the subject, and it names the
    scopes of those that do. -/
theorem clear_iff_uncovered (hstored : Stored rows) (hpos : 0 < limit) (hmax : limit ≤ maxActiveLimit)
    (hcount : ((rows.filter (·.active)).length : ℤ) ≤ limit) (subject : KillSwitchEvaluationSubject)
    (observedAt : UTCDateTime) :
    ∃ switches, listActive collate rows none none limit = .ok switches ∧
      ((∃ k ∈ rows, Undecidable k) →
        buildKillSwitchClearState switches subject observedAt
          = .error (riskConfigurationError "active non-global kill switch requires scope_id")) ∧
      ((∀ k ∈ rows, ¬Undecidable k) →
        ∃ state, buildKillSwitchClearState switches subject observedAt = .ok state ∧
          (state.clear = true ↔ ¬∃ k ∈ rows, k.active = true ∧ Covers k subject) ∧
          ∀ scope, scope ∈ state.activeScopes ↔
            ∃ k ∈ rows, k.active = true ∧ Covers k subject ∧ k.scope = scope) := by
  obtain ⟨switches, hlist, hmem⟩ := listActive_complete collate hstored hpos hmax hcount
  refine ⟨switches, hlist, ?_, ?_⟩
  · rintro ⟨k, hk, hundecidable⟩
    exact clearStateForSubject_error ⟨k, (hmem k).mpr ⟨hk, hundecidable.1⟩, hundecidable⟩
  · intro hdecidable
    obtain ⟨state, hstate, hclear, hscopes⟩ := clearStateForSubject_ok subject observedAt
      fun k hk => hdecidable k ((hmem k).mp hk).1
    -- the listed switches and the stored active ones are the same
    have hsame : ∀ P : KillSwitchState → Prop,
        (∃ k ∈ switches, k.active = true ∧ P k) ↔ ∃ k ∈ rows, k.active = true ∧ P k := by
      intro P
      refine exists_congr fun k => ?_
      rw [hmem]
      tauto
    refine ⟨state, hstate, ?_, fun scope => ?_⟩
    · rw [hclear, hsame]
    · rw [hscopes, hsame]

/-! ## Concrete switches -/

def heldSwitch (killSwitchId : String) (scope : KillSwitchScope) (scopeId : Option String) :
    KillSwitchState where
  killSwitchId := killSwitchId
  scope := scope
  scopeId := scopeId
  active := true
  activatedAt := some 0
  activatedBy := some "operator"
  activationReason := some "drill"
  version := 0

/-- A switch on an account. -/
def accountSwitch : KillSwitchState := heldSwitch "ks_account" .account (some "acct_other")
def globalSwitch : KillSwitchState := heldSwitch "ks_global" .global none

theorem no_gateway : ∀ s ∈ (none : Option String), TextWithin KillSwitchState.scopeIdMaxLength s := by
  rintro s ⟨⟩

/-- A subject of which neither the account nor the exchange nor the gateway is known. -/
def bareSubject : KillSwitchEvaluationSubject where
  strategyId := RiskEngine.makerStrategy
  marketId := RiskEngine.rainMarket
  gateway_within := no_gateway

/-- Text compared by code points. -/
def codePointsBefore : List Char → List Char → Bool
  | [], _ => true
  | _ :: _, [] => false
  | a :: as, b :: bs => if a = b then codePointsBefore as bs else decide (a.toNat < b.toNat)

def codePoints (a b : String) : Bool := codePointsBefore a.toList b.toList

theorem accountSwitch_valid : accountSwitch.Valid :=
  (KillSwitchState.validate_eq_ok.mp (by decide +kernel : accountSwitch.validate = .ok accountSwitch)).1

theorem globalSwitch_valid : globalSwitch.Valid :=
  (KillSwitchState.validate_eq_ok.mp (by decide +kernel : globalSwitch.validate = .ok globalSwitch)).1

theorem stored_account : Stored [accountSwitch] := by
  refine Reaches.tail (a := .add accountSwitch) .refl trivial ⟨accountSwitch_valid, ?_⟩
  decide +kernel

theorem stored_both : Stored [accountSwitch, globalSwitch] := by
  refine Reaches.tail (a := .add globalSwitch) stored_account trivial ⟨globalSwitch_valid, ?_⟩
  decide +kernel

theorem clear_iff_uncovered_both :
    ∃ switches, listActive codePoints [accountSwitch, globalSwitch] none none defaultActiveLimit = .ok switches ∧
      ((∃ k ∈ [accountSwitch, globalSwitch], Undecidable k) →
        buildKillSwitchClearState switches bareSubject 5
          = .error (riskConfigurationError "active non-global kill switch requires scope_id")) ∧
      ((∀ k ∈ [accountSwitch, globalSwitch], ¬Undecidable k) →
        ∃ state, buildKillSwitchClearState switches bareSubject 5 = .ok state ∧
          (state.clear = true ↔
            ¬∃ k ∈ [accountSwitch, globalSwitch], k.active = true ∧ Covers k bareSubject) ∧
          ∀ scope, scope ∈ state.activeScopes ↔
            ∃ k ∈ [accountSwitch, globalSwitch], k.active = true ∧ Covers k bareSubject ∧ k.scope = scope) :=
  clear_iff_uncovered stored_both (by decide) (by decide) (by decide) bareSubject 5

/-- **A covered subject that is clear.** With a limit of 1 the listing ends before the active global switch.
    And with the default limit, an active account switch leaves a subject clear whose account is not known. -/
theorem covered_and_clear :
    (Stored [accountSwitch, globalSwitch] ∧
      (∃ k ∈ [accountSwitch, globalSwitch], k.active = true ∧ Covers k bareSubject) ∧
      ∃ switches state, listActive codePoints [accountSwitch, globalSwitch] none none 1 = .ok switches ∧
        buildKillSwitchClearState switches bareSubject 5 = .ok state ∧ state.clear = true) ∧
    (Stored [accountSwitch] ∧ accountSwitch.active = true ∧ accountSwitch.scope = .account ∧
      bareSubject.accountId = none ∧
      ∃ switches state, listActive codePoints [accountSwitch] none none defaultActiveLimit = .ok switches ∧
        buildKillSwitchClearState switches bareSubject 5 = .ok state ∧ state.clear = true) := by
  have hbuild : ∃ state, buildKillSwitchClearState [accountSwitch] bareSubject 5 = .ok state ∧
      state.clear = true :=
    ⟨⟨true, 5, ∅, fun _ => rfl⟩, rfl, rfl⟩
  refine ⟨⟨stored_both, ⟨globalSwitch, by simp, rfl, .inl rfl⟩, [accountSwitch], ?_⟩,
    stored_account, rfl, rfl, rfl, [accountSwitch], ?_⟩
  · obtain ⟨state, hstate⟩ := hbuild
    refine ⟨state, ?_, hstate⟩
    rw [listActive_ok stored_both (by decide) (by decide)]
    have hsorted : (selected [accountSwitch, globalSwitch] none none).Pairwise
        fun r s => orderedBefore codePoints r s = true := by decide +kernel
    rw [List.mergeSort_of_pairwise hsorted]
    rfl
  · obtain ⟨state, hstate⟩ := hbuild
    refine ⟨state, ?_, hstate⟩
    rw [listActive_ok stored_account (by decide) (by decide)]
    have hsorted : (selected [accountSwitch] none none).Pairwise
        fun r s => orderedBefore codePoints r s = true := by decide +kernel
    rw [List.mergeSort_of_pairwise hsorted]
    rfl

end KillSwitchCover
end Pmrp
