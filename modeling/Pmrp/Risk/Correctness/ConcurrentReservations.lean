import Pmrp.Lib.Transitions
import Pmrp.Risk.ConcurrentEvaluations
import Pmrp.Risk.Correctness.Atomicity

/-!
# `Risk.Correctness.ConcurrentReservations` — what concurrent calls reserve together

Between the read and the commit of a call another call may commit, and the rule has compared with a sum that is no
longer the sum of the active reservations.

- **Invariant.** `Inv`: the account is covered, and whatever a running call commits fits what was free when it read.
- **Result.** `never_over_reserved` — the account stays covered in every run in which each call commits on the sum
  that it has read. `two_calls_over_reserve` is a run in which two calls read before either commits.
-/

namespace Pmrp

open CapitalReservationRepository

/-! ## What a call commits -/

@[simp] theorem reservationsOf_append (ss ss' : List RiskStatement) :
    reservationsOf (ss ++ ss') = reservationsOf ss ++ reservationsOf ss' := List.filterMap_append

theorem reservations_foldl_insert (ss : List RiskStatement) (tables : RiskTables) :
    (ss.foldl RiskTables.insert tables).reservations = tables.reservations ++ reservationsOf ss := by
  induction ss generalizing tables with
  | nil => simp [reservationsOf]
  | cons s ss ih =>
      rw [List.foldl_cons, ih]
      cases s <;> simp [RiskTables.insert, reservationsOf]

theorem reservationsOf_statements (inputSnapshot : Option RiskInputSnapshot) (result : RiskEvaluationResult)
    (hooked : List RiskStatement) :
    reservationsOf (RiskEvaluationService.statements inputSnapshot result hooked) =
      result.capitalReservation.toList ++ reservationsOf hooked := by
  have hsnapshots : reservationsOf (inputSnapshot.toList.map .addInputSnapshot) = [] := by
    cases inputSnapshot <;> rfl
  have hreservations : reservationsOf (result.capitalReservation.toList.map .addReservation) =
      result.capitalReservation.toList := by
    cases result.capitalReservation <;> rfl
  have hbreaches : reservationsOf (result.breaches.map .addBreach) = [] := by
    induction result.breaches with
    | nil => rfl
    | cons breach breaches ih => exact ih
  have hdecision (ss : List RiskStatement) :
      reservationsOf (.addDecision result.decision :: ss) = reservationsOf ss := rfl
  rw [RiskEvaluationService.statements, reservationsOf_append, hsnapshots, List.nil_append, hdecision,
    reservationsOf_append, reservationsOf_append, hreservations, hbreaches, List.nil_append]

namespace ReservingCall

variable {setting : ReservingService} {call : ReservingCall} {reserved : ℚ}

/-- What is reserved is what was free when the sum was read. -/
def FitsRead (setting : ReservingService) (reserved : ℚ) (ss : List RiskStatement) : Prop :=
  reservationsOf ss = [] ∨ ∃ reservation, reservationsOf ss = [reservation] ∧ 0 ≤ reservation.notional ∧
    reservation.notional ≤ setting.ctx.sub setting.availableBalance reserved

/-- **The rule bounds the reservation**: both compute the product of one quantity and one price. -/
theorem reservation_fits {context : RiskContext} {result : RiskEvaluationResult} {reservation : CapitalReservation}
    {request : RiskCapitalReservationRequest} (hcontext : call.contextWith setting reserved = .ok context)
    (hevaluates : RiskEvaluationService.Evaluates setting.ctx setting.service call.intent context call.inputSnapshotId
      (some request) result) (hreservation : result.capitalReservation = some reservation) :
    0 ≤ reservation.notional ∧ reservation.notional ≤ setting.ctx.sub setting.availableBalance reserved := by
  have happroved : result.decision.status = .approved :=
    (hevaluates.reservation_iff.mp (by rw [hreservation]; rfl)).1
  have hdecision := hevaluates.decision_eq
  rw [setting.service_engine] at hdecision
  obtain ⟨hpasses, hquantity, hprice⟩ := RiskEngine.evaluate_approved hdecision happroved
  obtain ⟨price, hlimit, state, hstate, -, hle⟩ :=
    AvailableBalanceRule.evaluate_passes.mp (hpasses _ setting.rule_mem)
  have hbuilt := hevaluates.reservation_eq
  rw [hreservation, RiskEvaluationService.buildReservation] at hbuilt
  rw [if_pos happroved] at hbuilt
  obtain ⟨built, hbuild, hsame⟩ := map_eq_ok.mp hbuilt
  obtain rfl := Option.some.inj hsame
  obtain ⟨-, hvalid, reservationId, quantity, limitPrice, expiresAt, hquantity', hprice', rfl⟩ :=
    CapitalReservationFactory.build_eq_ok hbuild
  obtain rfl : quantity = call.intent.quantity := Option.some.inj (hquantity'.symm.trans hquantity)
  obtain rfl : limitPrice = price := Option.some.inj (hprice'.symm.trans (hprice.trans hlimit))
  refine ⟨hvalid.notional_pos.le, ?_⟩
  unfold contextWith at hcontext
  split_ifs at hcontext with hnonneg
  obtain rfl := Except.ok.inj hcontext
  obtain rfl := Option.some.inj hstate
  exact hle

/-- Whatever a call commits fits what it has read. -/
theorem program_commitsOnly : (call.program setting reserved).CommitsOnly (FitsRead setting reserved) [] := by
  unfold program
  cases hcontext : call.contextWith setting reserved with
  | error e => exact trivial
  | ok context =>
      refine (Program.commitsOnly_bind_commit
        (RiskEvaluationService.commitFree_stepsBeforeCommit call.beforeCommit_commitFree)).mpr ?_
      rintro ss ⟨result, u⟩ hruns
      obtain ⟨hevaluates, hooked, hhooked, rfl⟩ := RiskEvaluationService.stepsBeforeCommit_runs hruns
      rw [List.nil_append, FitsRead, reservationsOf_statements, call.beforeCommit_reserves _ _ _ hhooked,
        List.append_nil]
      cases hreservation : result.capitalReservation with
      | none => exact Or.inl rfl
      | some reservation => exact Or.inr ⟨reservation, rfl, reservation_fits hcontext hevaluates hreservation⟩

end ReservingCall

/-! ## Runs -/

namespace ConcurrentEvaluations

variable {setting : ReservingService} {s t : ConcurrentEvaluations}

structure Inv (setting : ReservingService) (s : ConcurrentEvaluations) : Prop where
  nonneg : ∀ row ∈ s.reservationRows setting, 0 ≤ row.notional
  covered : s.Covered setting
  fits : ∀ n, ∀ c ∈ s.running n, c.rest.CommitsOnly (ReservingCall.FitsRead setting c.reserved) c.pending

/-- A call that runs may be replaced by one that fits what it has read. -/
theorem fits_update {n : ℕ} {replacement : Option RunningCall} (h : Inv setting s)
    (hreplacement : ∀ c ∈ replacement, c.rest.CommitsOnly (ReservingCall.FitsRead setting c.reserved) c.pending) :
    ∀ m, ∀ c ∈ Function.update s.running n replacement m,
      c.rest.CommitsOnly (ReservingCall.FitsRead setting c.reserved) c.pending := by
  intro m c hc
  by_cases hm : m = n
  · subst hm
    rw [Function.update_self] at hc
    exact hreplacement c hc
  · rw [Function.update_of_ne hm] at hc
    exact h.fits m c hc

/-- The new rows of a commit. -/
theorem reservationRows_commit (pending : List RiskStatement) (running : ℕ → Option RunningCall) :
    reservationRows setting ⟨pending.foldl RiskTables.insert s.tables, s.now, running⟩ =
      s.reservationRows setting ++
        (reservationsOf pending).filterMap fun reservation => (storeRow setting.column reservation).toOption := by
  unfold reservationRows
  rw [reservations_foldl_insert, List.filterMap_append]

/-- **A commit on the sum that was read** leaves the account covered. -/
theorem covered_commit {c : RunningCall} (running : ℕ → Option RunningCall) (h : Inv setting s)
    (hfits : ReservingCall.FitsRead setting c.reserved c.pending)
    (hunhurried : reservationsOf c.pending ≠ [] → s.Unhurried setting c) :
    (∀ row ∈ reservationRows setting ⟨c.pending.foldl RiskTables.insert s.tables, s.now, running⟩, 0 ≤ row.notional) ∧
      Covered setting ⟨c.pending.foldl RiskTables.insert s.tables, s.now, running⟩ := by
  unfold Covered activeSum
  rw [reservationRows_commit, activeNotionalSum_append]
  have hcovered := h.covered
  unfold Covered activeSum at hcovered
  -- a call adds one reservation at most
  rcases hfits with hnone | ⟨reservation, hone, hnonneg, hle⟩
  · rw [hnone]
    exact ⟨by simpa using h.nonneg, by simpa [activeNotionalSum] using hcovered⟩
  · have hreserves := hunhurried (by rw [hone]; exact List.cons_ne_nil _ _)
    have hcurrent := hreserves.current
    unfold activeSum at hcurrent
    have hkept := hreserves.kept reservation (by rw [hone]; exact List.mem_singleton_self _)
    have hexact := hreserves.exact
    rw [hone]
    cases hrow : storeRow setting.column reservation with
    | error e =>
        have hnew : [reservation].filterMap (fun r => (storeRow setting.column r).toOption) = [] := by
          simp [hrow, Except.toOption]
        rw [hnew]
        exact ⟨by simpa using h.nonneg, by simpa [activeNotionalSum] using hcovered⟩
    | ok row =>
        have hnew : [reservation].filterMap (fun r => (storeRow setting.column r).toOption) = [row] := by
          simp [hrow, Except.toOption]
        -- the column keeps the notional as it is
        have hnotional : row.notional = reservation.notional := by
          rw [storeRow, hkept.storeValue] at hrow
          obtain ⟨quantity, -, hrow⟩ := bind_eq_ok.mp hrow
          rw [ok_bind, pure_eq_ok] at hrow
          rw [← hrow]
        rw [hnew]
        constructor
        · intro r hr
          rcases List.mem_append.mp hr with hr | hr
          · exact h.nonneg r hr
          · rw [List.mem_singleton.mp hr, hnotional]
            exact hnonneg
        · -- what was reserved is at most what was read, and the new row is at most what was free then
          have hsingle := @activeNotionalSum_singleton_le s.now
            { accountId := some setting.accountId, currency := some setting.currency } row (hnotional ▸ hnonneg)
          rw [hnotional] at hsingle
          linarith

theorem inv_step {a : EvaluationAction} (h : Inv setting s) (hcommits : s.CommitsUnhurried setting a)
    (hstep : s.Step setting a t) : Inv setting t := by
  cases hstep with
  | wait hnow =>
      refine ⟨h.nonneg, ?_, h.fits⟩
      exact le_trans (activeNotionalSum_anti h.nonneg hnow) h.covered
  | start call hidle =>
      refine ⟨h.nonneg, h.covered, fits_update h ?_⟩
      rintro c ⟨⟩
      exact ReservingCall.program_commitsOnly
  | @execute n c statement next hrunning hrest =>
      refine ⟨h.nonneg, h.covered, fits_update h ?_⟩
      rintro _ ⟨⟩
      have hfits := h.fits n c hrunning
      rw [hrest] at hfits
      exact hfits
  | @commit n c next hrunning hrest =>
      have hfits := h.fits n c hrunning
      rw [hrest] at hfits
      obtain ⟨hnonneg, hcovered⟩ := covered_commit (Function.update s.running n none) h hfits (hcommits c hrunning)
      have hothers := @fits_update setting s n none h (by rintro _ ⟨⟩)
      exact ⟨hnonneg, hcovered, hothers⟩
  | leave =>
      refine ⟨h.nonneg, h.covered, fits_update h ?_⟩
      rintro _ ⟨⟩

/-- **No over-reservation** in a run in which every call commits on the sum that it has read. -/
theorem never_over_reserved (hrun : Reaches (fun s => Step setting s) (CommitsUnhurried setting) s t)
    (hidle : ∀ n, s.running n = none) (hnonneg : ∀ row ∈ s.reservationRows setting, 0 ≤ row.notional)
    (hcovered : s.Covered setting) : t.Covered setting := by
  have hstart : Inv setting s := by
    refine ⟨hnonneg, hcovered, fun n c hc => ?_⟩
    rw [hidle n] at hc
    cases hc
  exact (hrun.inv (Inv setting) (fun _ _ _ => inv_step) hstart).covered

end ConcurrentEvaluations

/-! ## Two calls on one balance -/

namespace ConcurrentEvaluations

variable {setting : ReservingService} {P : ConcurrentEvaluations → EvaluationAction → Prop}
  {s₀ s : ConcurrentEvaluations} {n : ℕ} {c : RunningCall}

/-- A call with two statements left may run to the end of its commit while nothing else happens. -/
theorem reaches_commit (hP : ∀ t, P t (.execute n)) {x y : RiskStatement}
    {rest : Program RiskStatement PyError (RiskEvaluationResult × Unit)}
    (hreached : Reaches (fun s => Step setting s) P s₀ s) (hrunning : s.running n = some c)
    (hrest : c.rest = .exec x (.exec y (.commit rest)))
    (hcommit : ∀ t, t.tables = s.tables → t.now = s.now →
      t.running n = some { c with rest := .commit rest, pending := c.pending ++ [x] ++ [y] } → P t (.commit n)) :
    ∃ t, Reaches (fun s => Step setting s) P s₀ t ∧
      t.tables = (c.pending ++ [x] ++ [y]).foldl RiskTables.insert s.tables ∧ t.now = s.now ∧
      ∀ m, m ≠ n → t.running m = s.running m := by
  have hfirst := hreached.tail (hP s) (Step.execute hrunning hrest)
  have hsecond := hfirst.tail (hP _) (@Step.execute setting _ n _ y _ (Function.update_self _ _ _) rfl)
  refine ⟨_, hsecond.tail (hcommit _ rfl rfl (Function.update_self _ _ _))
    (@Step.commit setting _ n _ rest (Function.update_self _ _ _) rfl), rfl, rfl, ?_⟩
  intro m hm
  refine (Function.update_of_ne hm _ _).trans ?_
  exact (Function.update_of_ne hm _ _).trans (Function.update_of_ne hm _ _)

end ConcurrentEvaluations

namespace ReservingService

open ConcurrentEvaluations

def balanceRule : BuiltinRule := ⟨.availableBalance, 45000000, by decide⟩

/-- The engine has the available-balance rule only. -/
def balanceEngine : RiskEngine where
  rules := [balanceRule.toRiskRule .exact]
  configurationHash := "balance_only"
  approvalTtl := some 1000000
  decisionIdGenerator intent _ _ _ _ :=
    if intent.intentId.val = "intent_two" then ⟨"risk_two", by decide⟩ else ⟨"risk_rival", by decide⟩
  rules_ne := List.cons_ne_nil _ _
  identities_nodup := List.nodup_singleton _
  approvalTtl_pos := by rintro ttl ⟨⟩; decide
  configurationHash_ne := by decide

/-- An account with a balance of 1, and reservations that have the name of their intent. -/
def oneFranc : ReservingService where
  ctx := .exact
  column := .exact
  service := {
    engine := balanceEngine.evaluate
    approvedOrderFactory := ⟨fun _ _ _ _ => .error (valueError "no order is requested")⟩
    reservationFactory := ⟨fun intent _ _ _ _ => .ok intent.intentId.val⟩ }
  engine := balanceEngine
  maxStateAge := 45000000
  maxStateAge_pos := by decide
  accountId := ⟨"acct_reserving", by decide⟩
  currency := ⟨"CHF", by decide⟩
  availableBalance := 1
  service_engine := rfl
  rule_mem := List.mem_singleton_self _

/-- A call for an intent of notional 1. -/
def call (intent : OrderIntent) : ReservingCall where
  intent := intent
  context := { evaluatedAt := 10 }
  observedAt := 5
  inputSnapshotId := "snapshot"
  inputSnapshot := none
  approvedOrderRequest := none
  exchange := .kalshi
  beforeCommit _ := pure ⟨⟩
  beforeCommit_commitFree _ := trivial
  beforeCommit_reserves := by rintro _ ss _ ⟨rfl, -⟩; rfl

theorem rivalQuantity_pos : (0 : ℚ) < 2 := two_pos

def quoteRival : OrderIntent :=
  RiskEngine.quote ⟨"intent_rival", by decide⟩ .buy 2 (1 / 2) rivalQuantity_pos RiskEngine.half_nonneg

/-- The approval of an intent of notional 1 that finds the balance free. -/
def approval (intent : OrderIntent) : RiskDecision :=
  balanceEngine.decision intent { evaluatedAt := 10 } "snapshot"
    [{ ruleId := "RISK-017", ruleVersion := builtinRuleVersion, passed := true
       reasonCode := "RISK_AVAILABLE_BALANCE_VALID", observedValue := some 1, limitValue := some 1
       unit := some "balance", evaluatedAt := 10 }] .approved (some 1000010)

def reservation (intent : OrderIntent) : CapitalReservation :=
  CapitalReservationFactory.reservation .exact intent.intentId.val intent (approval intent) .kalshi
    oneFranc.accountId oneFranc.currency intent.quantity (1 / 2) 1000010

def approved (intent : OrderIntent) : RiskEvaluationResult :=
  { decision := approval intent, capitalReservation := some (reservation intent) }

theorem evaluate_two : balanceEngine.evaluate RiskEngine.quoteTwo
    { evaluatedAt := 10, availableBalance := some ⟨1, 5, 0, le_refl 0⟩ } "snapshot" =
      .ok (approval RiskEngine.quoteTwo) := by
  decide +kernel

theorem evaluate_rival : balanceEngine.evaluate quoteRival
    { evaluatedAt := 10, availableBalance := some ⟨1, 5, 0, le_refl 0⟩ } "snapshot" = .ok (approval quoteRival) := by
  decide +kernel

/-- The statements of a call that has read 0. -/
theorem program_eq {intent : OrderIntent}
    (hevaluate : balanceEngine.evaluate intent
      { evaluatedAt := 10, availableBalance := some ⟨1, 5, 0, le_refl 0⟩ } "snapshot" = .ok (approval intent))
    (hbuild : oneFranc.service.buildReservation .exact intent (approval intent)
      (some ⟨.kalshi, oneFranc.accountId, oneFranc.currency⟩) = .ok (some (reservation intent)))
    (hvalidate : (approved intent).validate = .ok (approved intent)) :
    (call intent).program oneFranc 0 =
      .exec (.addDecision (approval intent)) (.exec (.addReservation (reservation intent))
        (.commit (.done (approved intent, ⟨⟩)))) := by
  have hcontext : (call intent).contextWith oneFranc 0 =
      .ok { evaluatedAt := 10, availableBalance := some ⟨1, 5, 0, le_refl 0⟩ } := dif_pos (le_refl 0)
  have hempty : validateInputSnapshotMatchesRequest none "snapshot" = .ok ⟨⟩ := by
    simp [validateInputSnapshotMatchesRequest]
  have hsnapshot : validateDecisionInputSnapshot (approval intent) "snapshot" = .ok ⟨⟩ := by
    have hsame : (approval intent).inputSnapshotId = "snapshot" := rfl
    rw [validateDecisionInputSnapshot, raiseIf, if_neg (not_not_intro hsame)]
  have horder : oneFranc.service.buildApprovedOrder intent (approval intent) none = .ok none := rfl
  have hbreaches : oneFranc.service.derivedBreaches (approval intent) = .ok [] := rfl
  refine (Program.bind_of_ok hcontext _).trans ?_
  refine (Program.bind_bind_of_ok hempty _ _).trans ?_
  refine (Program.bind_bind_of_ok hevaluate _ _).trans ?_
  refine (Program.bind_bind_of_ok hsnapshot _ _).trans ?_
  refine congrArg (Program.exec (RiskStatement.addDecision (approval intent))) ?_
  refine (Program.bind_bind_of_ok hbuild _ _).trans ?_
  refine (Program.forM_singleton_bind_bind (reservation intent) RiskStatement.addReservation _ _).trans ?_
  refine congrArg (Program.exec (RiskStatement.addReservation (reservation intent))) ?_
  refine (Program.bind_bind_of_ok horder _ _).trans ?_
  refine (Program.bind_bind_of_ok hbreaches _ _).trans ?_
  exact (Program.bind_bind_of_ok hvalidate _ _).trans rfl

theorem program_two : (call RiskEngine.quoteTwo).program oneFranc 0 =
    .exec (.addDecision (approval RiskEngine.quoteTwo)) (.exec (.addReservation (reservation RiskEngine.quoteTwo))
      (.commit (.done (approved RiskEngine.quoteTwo, ⟨⟩)))) :=
  program_eq evaluate_two (by decide +kernel) (by decide +kernel)

theorem program_rival : (call quoteRival).program oneFranc 0 =
    .exec (.addDecision (approval quoteRival)) (.exec (.addReservation (reservation quoteRival))
      (.commit (.done (approved quoteRival, ⟨⟩)))) :=
  program_eq evaluate_rival (by decide +kernel) (by decide +kernel)

/-- No call runs, and nothing is reserved. -/
def idle : ConcurrentEvaluations := ⟨{}, 10, fun _ => none⟩

/-- The call has read the sum of the idle state. -/
def started (n : ℕ) (intent : OrderIntent) (s : ConcurrentEvaluations) : ConcurrentEvaluations :=
  s.set n (some { reserved := s.activeSum oneFranc, rest := (call intent).program oneFranc (s.activeSum oneFranc) })

theorem activeSum_idle : idle.activeSum oneFranc = 0 := by decide +kernel

theorem covered_idle : idle.Covered oneFranc := by
  rw [Covered, activeSum_idle]
  decide +kernel

/-- Two calls read 0, and each reserves the whole balance. -/
theorem two_calls_over_reserve : idle.Covered oneFranc ∧ (∀ n, idle.running n = none) ∧
    ∃ t, Reaches (fun s => Step oneFranc s) (fun _ _ => True) idle t ∧ t.activeSum oneFranc = 2 ∧
      ¬t.Covered oneFranc := by
  refine ⟨covered_idle, fun _ => rfl, ?_⟩
  have hfirst : Reaches (fun s => Step oneFranc s) (fun _ _ => True) idle (started 0 RiskEngine.quoteTwo idle) :=
    Reaches.refl.tail trivial (.start _ rfl)
  have hsecond := hfirst.tail trivial
      (@Step.start oneFranc (started 0 RiskEngine.quoteTwo idle) 1 (call quoteRival) rfl)
  have htwo := (congrArg ((call RiskEngine.quoteTwo).program oneFranc) activeSum_idle).trans program_two
  have hrival := (congrArg ((call quoteRival).program oneFranc) activeSum_idle).trans program_rival
  obtain ⟨t, ht, htables, hnow, hothers⟩ := reaches_commit (n := 0) (fun _ => trivial) hsecond rfl htwo
    (fun _ _ _ _ => trivial)
  obtain ⟨u, hu, hutables, hunow, -⟩ := reaches_commit (n := 1) (fun _ => trivial) ht
    (hothers 1 (by decide)) hrival (fun _ _ _ _ => trivial)
  have hsum : u.activeSum oneFranc = 2 := by
    unfold activeSum reservationRows
    rw [hutables, hunow, htables, hnow]
    show activeNotionalSum (([reservation RiskEngine.quoteTwo] ++ [reservation quoteRival]).filterMap
      fun r => (storeRow .exact r).toOption) 10 _ = 2
    decide +kernel
  refine ⟨u, hu, hsum, fun hcovered => ?_⟩
  unfold Covered at hcovered
  rw [hsum] at hcovered
  exact absurd hcovered (by decide +kernel)

/-- Two calls have read 0, one reserves the whole balance, and the other leaves without a commit. -/
theorem one_commit_is_covered : ∃ t, Reaches (fun s => Step oneFranc s) (CommitsUnhurried oneFranc) idle t ∧
    t.activeSum oneFranc = 1 ∧ t.Covered oneFranc := by
  have hfirst : Reaches (fun s => Step oneFranc s) (CommitsUnhurried oneFranc) idle
      (started 0 RiskEngine.quoteTwo idle) :=
    Reaches.refl.tail (a := .start 0 (call RiskEngine.quoteTwo)) trivial (.start _ rfl)
  have hsecond : Reaches (fun s => Step oneFranc s) (CommitsUnhurried oneFranc) idle
      (started 1 quoteRival (started 0 RiskEngine.quoteTwo idle)) :=
    hfirst.tail (a := .start 1 (call quoteRival)) trivial
      (@Step.start oneFranc (started 0 RiskEngine.quoteTwo idle) 1 (call quoteRival) rfl)
  have htwo := (congrArg ((call RiskEngine.quoteTwo).program oneFranc) activeSum_idle).trans program_two
  obtain ⟨t, ht, htables, hnow, -⟩ := reaches_commit (n := 0) (fun _ => trivial) hsecond rfl htwo (by
      intro t htables hnow hrun c hc _
      obtain rfl := Option.some.inj (hrun.symm.trans hc)
      refine ⟨?_, le_refl _, fun _ _ => rfl⟩
      unfold activeSum reservationRows
      rw [htables, hnow]
      exact le_refl _)
  have hleft : Reaches (fun s => Step oneFranc s) (CommitsUnhurried oneFranc) idle (t.set 1 none) :=
    ht.tail (a := .leave 1) trivial .leave
  have hsum : (t.set 1 none).activeSum oneFranc = 1 := by
    show t.activeSum oneFranc = 1
    unfold activeSum reservationRows
    rw [htables, hnow]
    show activeNotionalSum ([reservation RiskEngine.quoteTwo].filterMap fun r => (storeRow .exact r).toOption) 10 _ = 1
    decide +kernel
  refine ⟨t.set 1 none, hleft, hsum, never_over_reserved hleft (fun _ => rfl) ?_ covered_idle⟩
  rintro row ⟨⟩

end ReservingService
end Pmrp
