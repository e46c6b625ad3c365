import Pmrp.Adapters.PolymarketWebSocket
import Pmrp.Lib.Transitions

/-!
# `Adapters.Correctness.TokenUpdates` — when a connection records what it has sent

A call of `update_tokens` records what it computed before its send. Two calls that overlap both start from the same
record, and the one that resumes last drops the update of the other (`overlapping_lost`). `InTurn` is the condition on
a step under which this cannot happen, and `recorded_of_inTurn` says that every run whose steps meet it ends with the
fold of the plans that were sent.
-/

namespace Pmrp
namespace PolymarketWebSocket
namespace Connection

variable {s t : Connection} {initial recorded : SubscriptionState} {action : UpdateAction} {n : ℕ}

/-- A call resumes in the order of the sends, and its plan does to the record of now what it did to the record that it
    has read. -/
def InTurn (s : Connection) : UpdateAction → Prop
  | .resume n => s.unresumed.head? = some n ∧
      ∀ call ∈ s.calls n, ∀ recorded ∈ s.subscription,
        recorded.applyUpdate call.plan = call.read.applyUpdate call.plan
  | _ => True

/-- The record is the fold of the plans of the calls that resumed; the calls that did not are the last that sent. -/
structure Recorded (initial : SubscriptionState) (s : Connection) (recorded : SubscriptionState)
    (resumed unresumed : List TokenUpdatePlan) : Prop where
  subscription : s.subscription = some recorded
  fold : resumed.foldlM SubscriptionState.applyUpdate initial = .ok recorded
  sends : s.sends = resumed ++ unresumed
  plans : List.Forall₂ (fun n plan => ∃ call, s.calls n = some call ∧ call.plan = plan) s.unresumed unresumed
  nodup : s.unresumed.Nodup

theorem recorded_subscribed (initial : SubscriptionState) : Recorded initial (subscribed initial) initial [] [] where
  subscription := rfl
  fold := rfl
  sends := rfl
  plans := .nil
  nodup := List.nodup_nil

variable {resumed unresumed : List TokenUpdatePlan}

theorem isCall_of_plans {calls : ℕ → Option UpdateCall} {waiting : List ℕ}
    (h : List.Forall₂ (fun n plan => ∃ call, calls n = some call ∧ call.plan = plan) waiting unresumed)
    (hmem : n ∈ waiting) : calls n ≠ none := by
  induction h with
  | nil => cases hmem
  | cons hhead htail ih =>
      rcases List.mem_cons.mp hmem with rfl | hmem
      · obtain ⟨call, hcall, -⟩ := hhead
        rw [hcall]
        exact Option.some_ne_none call
      · exact ih hmem

/-- A number that waits is that of a call. -/
theorem Recorded.isCall (h : Recorded initial s recorded resumed unresumed) (hmem : n ∈ s.unresumed) :
    s.calls n ≠ none :=
  isCall_of_plans h.plans hmem

/-- What happens to another call does not touch the calls that are still to resume. -/
theorem plans_update {calls : ℕ → Option UpdateCall} {waiting : List ℕ} (other : Option UpdateCall)
    (hnot : n ∉ waiting)
    (h : List.Forall₂ (fun n plan => ∃ call, calls n = some call ∧ call.plan = plan) waiting unresumed) :
    List.Forall₂ (fun m plan => ∃ call, Function.update calls n other m = some call ∧ call.plan = plan) waiting
      unresumed := by
  induction h with
  | nil => exact .nil
  | cons hhead htail ih =>
      rw [List.mem_cons, not_or] at hnot
      refine .cons ?_ (ih hnot.2)
      rwa [Function.update_of_ne (Ne.symm hnot.1)]

/-- One step of a run in turn. -/
theorem Recorded.step (h : Recorded initial s recorded resumed unresumed) (hturn : InTurn s action)
    (hstep : s.Step action t) :
    ∃ recorded' resumed' unresumed', Recorded initial t recorded' resumed' unresumed' := by
  cases hstep with
  | @start n call hidle hread =>
      have hnot : n ∉ s.unresumed := fun hmem => h.isCall hmem hidle
      exact ⟨recorded, resumed, unresumed, h.subscription, h.fold, h.sends, plans_update _ hnot h.plans, h.nodup⟩
  | refuse hidle hrefused => exact ⟨recorded, resumed, unresumed, h⟩
  | @send n call hcall hwaiting =>
      refine ⟨recorded, resumed, unresumed ++ [call.plan], h.subscription, h.fold, ?_, ?_, ?_⟩
      · rw [h.sends, List.append_assoc]
      · exact List.rel_append h.plans (.cons ⟨call, hcall, rfl⟩ .nil)
      · refine h.nodup.append (List.nodup_singleton n) ?_
        intro m hm hn
        obtain rfl := List.mem_singleton.mp hn
        exact hwaiting hm
  | @fail n call hcall hwaiting =>
      exact ⟨recorded, resumed, unresumed, h.subscription, h.fold, h.sends, plans_update _ hwaiting h.plans, h.nodup⟩
  | @resume n call hcall hsent =>
      obtain ⟨hfirst, hcurrent⟩ := hturn
      obtain ⟨rest, hrest⟩ : ∃ rest, s.unresumed = n :: rest := by
        cases hunresumed : s.unresumed with
        | nil => rw [hunresumed] at hfirst; cases hfirst
        | cons m rest =>
            rw [hunresumed] at hfirst
            obtain rfl := Option.some_inj.mp hfirst
            exact ⟨rest, rfl⟩
      have hnodup := h.nodup
      have hplans := h.plans
      rw [hrest] at hnodup hplans
      obtain ⟨hnot, hnodup⟩ := List.nodup_cons.mp hnodup
      cases hplans with
      | @cons _ plan _ others hhead hothers =>
          obtain ⟨call', hcall', rfl⟩ := hhead
          obtain rfl : call = call' := Option.some_inj.mp (hcall.symm.trans hcall')
          -- the plan moves from the front of the unresumed ones to the end of the resumed ones
          refine ⟨call.updated, resumed ++ [call.plan], others, rfl, ?_, ?_, ?_, ?_⟩
          · have hupdate := (hcurrent call hcall recorded h.subscription).trans call.computed
            rw [List.foldlM_append, h.fold, ok_bind, List.foldlM_cons, hupdate, ok_bind]
            rfl
          · rw [h.sends, List.append_assoc]
            rfl
          · show List.Forall₂ _ (s.unresumed.erase n) others
            rw [hrest, List.erase_cons_head]
            exact plans_update _ hnot hothers
          · show (s.unresumed.erase n).Nodup
            rw [hrest, List.erase_cons_head]
            exact hnodup

theorem recorded_of_reaches (h : Reaches Step InTurn (subscribed initial) s) :
    ∃ recorded resumed unresumed, Recorded initial s recorded resumed unresumed := by
  refine h.inv (fun t => ∃ recorded resumed unresumed, Recorded initial t recorded resumed unresumed) ?_
    ⟨initial, [], [], recorded_subscribed initial⟩
  rintro t action u ⟨recorded, resumed, unresumed, hrecorded⟩ hturn hstep
  exact hrecorded.step hturn hstep

/-- A call that raises does not touch the record, whatever the other calls do. -/
theorem subscription_of_raises (hraises : action.Raises) (hstep : s.Step action t) :
    t.subscription = s.subscription := by
  cases hstep with
  | start => cases hraises
  | refuse => rfl
  | send => cases hraises
  | fail => rfl
  | resume => cases hraises

/-- **No lost update in turn.** In every run of calls that resume in turn, the record is the fold of the plans that
    were sent whenever all calls have ended, and a call that raises leaves it as it was. -/
theorem recorded_of_inTurn (h : Reaches Step InTurn (subscribed initial) s) :
    (s.Ended → s.RecordsSends initial) ∧
      ∀ action t, action.Raises → s.Step action t → t.subscription = s.subscription := by
  refine ⟨fun hended => ?_, fun action t hraises hstep => subscription_of_raises hraises hstep⟩
  obtain ⟨recorded, resumed, unresumed, hrecorded⟩ := recorded_of_reaches h
  have hnone : s.unresumed = [] := by
    refine List.eq_nil_iff_forall_not_mem.mpr fun n hmem => ?_
    exact hrecorded.isCall hmem (hended n)
  have hplans := hrecorded.plans
  rw [hnone] at hplans
  cases hplans with
  | nil =>
      have hsends := hrecorded.sends
      rw [List.append_nil] at hsends
      exact ⟨recorded, hrecorded.subscription, hsends ▸ hrecorded.fold⟩

/-! ## Two calls -/

theorem tokenIds_single {tokenId : String} (h : tokenId ≠ "" ∧ isStripped tokenId = true ∧
    tokenId.length ≤ textMaxLength) : TokenIds [tokenId] where
  ne_nil := List.cons_ne_nil _ _
  nodup := List.nodup_singleton _
  text t ht := by
    obtain rfl := List.mem_singleton.mp ht
    exact h

theorem rainToken : TokenIds ["rain"] := tokenIds_single (by decide)
theorem snowToken : TokenIds ["snow"] := tokenIds_single (by decide)
theorem hailToken : TokenIds ["hail"] := tokenIds_single (by decide)

/-- Subscribed to one token. -/
def onRain : SubscriptionState where
  tokenIds := ["rain"]
  valid := rainToken

def addSnow : TokenUpdatePlan := ⟨.subscribe, ["snow"], snowToken⟩
def addHail : TokenUpdatePlan := ⟨.subscribe, ["hail"], hailToken⟩

def onRainAndSnow : SubscriptionState where
  tokenIds := ["rain", "snow"]
  valid := tokenIds_appendUnique rainToken snowToken

def onRainAndHail : SubscriptionState where
  tokenIds := ["rain", "hail"]
  valid := tokenIds_appendUnique rainToken hailToken

def snowCall : UpdateCall := ⟨addSnow, onRain, onRainAndSnow, rfl⟩
def hailCall : UpdateCall := ⟨addHail, onRain, onRainAndHail, rfl⟩

/-- The connection after two overlapping calls that both add the token. -/
def afterSnowTwice : Connection := { subscription := some onRainAndSnow, sends := [addSnow, addSnow] }

theorem afterSnowTwice_reached : Reaches Step InTurn (subscribed onRain) afterSnowTwice := by
  -- both read the record before either has sent, and adding the token twice is adding it once
  let one : Connection :=
    { subscribed onRain with calls := Function.update (subscribed onRain).calls 0 (some snowCall) }
  let two : Connection := { one with calls := Function.update one.calls 1 (some snowCall) }
  let sentOne : Connection := { two with unresumed := [0], sends := [addSnow] }
  let sentTwo : Connection := { two with unresumed := [0, 1], sends := [addSnow, addSnow] }
  let resumedOne : Connection :=
    { sentTwo with
      subscription := some onRainAndSnow, calls := Function.update sentTwo.calls 0 none, unresumed := [1] }
  have hfirst : two.calls 0 = some snowCall := rfl
  have hsecond : two.calls 1 = some snowCall := rfl
  have hsecond' : resumedOne.calls 1 = some snowCall := rfl
  have hstartOne : (subscribed onRain).Step (.start 0 addSnow) one := .start snowCall rfl rfl
  have hstartTwo : one.Step (.start 1 addSnow) two := .start snowCall rfl rfl
  have hsendOne : two.Step (.send 0) sentOne := @Step.send two 0 snowCall hfirst List.not_mem_nil
  have honeFree : 1 ∉ [0] := by decide
  have hsendTwo : sentOne.Step (.send 1) sentTwo := @Step.send sentOne 1 snowCall hsecond honeFree
  have hresumeOne : sentTwo.Step (.resume 0) resumedOne := .resume (s := sentTwo) hfirst List.mem_cons_self
  have hresumeTwo : resumedOne.Step (.resume 1) afterSnowTwice := by
    have hstep := @Step.resume resumedOne 1 snowCall hsecond' List.mem_cons_self
    have hcalls : Function.update resumedOne.calls 1 none = fun _ => none := by
      funext n
      by_cases hone : n = 1
      · rw [hone, Function.update_self]
      by_cases hzero : n = 0
      · rw [hzero]
        rfl
      · rw [Function.update_of_ne hone]
        show Function.update (Function.update one.calls 1 (some snowCall)) 0 none n = none
        rw [Function.update_of_ne hzero, Function.update_of_ne hone]
        exact Function.update_of_ne hzero _ _
    rw [hcalls] at hstep
    exact hstep
  have hstart : ∀ (s : Connection) (n : ℕ), s.InTurn (.start n addSnow) := fun _ _ => trivial
  have hsend : ∀ (s : Connection) (n : ℕ), s.InTurn (.send n) := fun _ _ => trivial
  have hstarted : Reaches Step InTurn (subscribed onRain) two :=
    (Reaches.refl.tail (hstart _ 0) hstartOne).tail (hstart _ 1) hstartTwo
  have hsent : Reaches Step InTurn (subscribed onRain) sentTwo :=
    (hstarted.tail (hsend _ 0) hsendOne).tail (hsend _ 1) hsendTwo
  refine (hsent.tail ?_ hresumeOne).tail ?_ hresumeTwo
  · refine ⟨rfl, ?_⟩
    rintro call hmem recorded ⟨⟩
    obtain rfl : snowCall = call := Option.some_inj.mp (hfirst.symm.trans hmem)
    rfl
  · refine ⟨rfl, ?_⟩
    rintro call hmem recorded ⟨⟩
    obtain rfl : snowCall = call := Option.some_inj.mp (hsecond'.symm.trans hmem)
    rfl

theorem recorded_of_inTurn_snow : afterSnowTwice.RecordsSends onRain :=
  (recorded_of_inTurn afterSnowTwice_reached).1 fun _ => rfl

/-- **A lost update.** Both calls read the record before either has sent. The second to resume records what it had
    computed, and the token of the first is gone from the record, although the exchange has seen both updates. -/
theorem overlapping_lost : ∃ s, Reaches Step (fun _ _ => True) (subscribed onRain) s ∧ s.Ended ∧
    s.sends = [addSnow, addHail] ∧ s.subscription = some onRainAndHail ∧ ¬s.RecordsSends onRain := by
  -- both start, both send, and they resume in the order of their sends
  let one : Connection :=
    { subscribed onRain with calls := Function.update (subscribed onRain).calls 0 (some snowCall) }
  let two : Connection := { one with calls := Function.update one.calls 1 (some hailCall) }
  let sentOne : Connection := { two with unresumed := [0], sends := [addSnow] }
  let sentTwo : Connection := { two with unresumed := [0, 1], sends := [addSnow, addHail] }
  let resumedOne : Connection :=
    { sentTwo with
      subscription := some onRainAndSnow, calls := Function.update sentTwo.calls 0 none, unresumed := [1] }
  let resumedTwo : Connection :=
    { resumedOne with
      subscription := some onRainAndHail, calls := Function.update resumedOne.calls 1 none, unresumed := [] }
  have hsnow : two.calls 0 = some snowCall := rfl
  have hhail : two.calls 1 = some hailCall := rfl
  have hstartOne : (subscribed onRain).Step (.start 0 addSnow) one := .start snowCall rfl rfl
  have hstartTwo : one.Step (.start 1 addHail) two := .start hailCall rfl rfl
  have hsendOne : two.Step (.send 0) sentOne := @Step.send two 0 snowCall hsnow List.not_mem_nil
  have honeFree : 1 ∉ [0] := by decide
  have hsendTwo : sentOne.Step (.send 1) sentTwo :=
    @Step.send sentOne 1 hailCall hhail honeFree
  have hresumeOne : sentTwo.Step (.resume 0) resumedOne := .resume (s := sentTwo) hsnow List.mem_cons_self
  have hresumeTwo : resumedOne.Step (.resume 1) resumedTwo :=
    @Step.resume resumedOne 1 hailCall hhail List.mem_cons_self
  have hsent : Reaches Step (fun _ _ => True) (subscribed onRain) sentTwo :=
    (((Reaches.refl.tail trivial hstartOne).tail trivial hstartTwo).tail trivial hsendOne).tail trivial hsendTwo
  have hresumed : Reaches Step (fun _ _ => True) (subscribed onRain) resumedTwo :=
    (hsent.tail trivial hresumeOne).tail trivial hresumeTwo
  refine ⟨resumedTwo, hresumed, ?_, rfl, rfl, ?_⟩
  · intro n
    by_cases hone : n = 1
    · rw [hone]
      rfl
    by_cases hzero : n = 0
    · rw [hzero]
      rfl
    · show Function.update (Function.update two.calls 0 none) 1 none n = none
      rw [Function.update_of_ne hone, Function.update_of_ne hzero]
      show Function.update (Function.update (subscribed onRain).calls 0 (some snowCall)) 1 (some hailCall) n = none
      rw [Function.update_of_ne hone, Function.update_of_ne hzero]
      rfl
  · rintro ⟨recorded, hrecorded, hfold⟩
    obtain rfl : onRainAndHail = recorded := Option.some_inj.mp hrecorded
    have htokens := congrArg (Except.map SubscriptionState.tokenIds) hfold
    revert htokens
    decide

end Connection
end PolymarketWebSocket
end Pmrp
