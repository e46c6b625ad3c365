import Mathlib.Tactic.Linarith
import Pmrp.Adapters.FixtureOrders

/-!
# `Adapters.Correctness.OrderAnswers` — one answer for a key, one capacity for a limit

Over any run of calls, across connections and disconnections, an idempotency key has one answer (`AnsweredOnce`), and
the calls that a rate limit governs pass until the capacity that was left does not cover another one (`WithinBudget`).
Each is a statement about one call, and composes.
-/

namespace Pmrp
namespace FixtureOrders

open Fixture RateLimits

/-! ## Kept answers -/

section Answers

variable {A : Type} {kept before middle after answers answers' : List (String × A)} {key : String} {a b : A}
  {made made' : String → A → Prop}

def answerOf (kept : List (String × A)) (key : String) : Option A := (Dictionary.lookup Prod.fst key kept).map Prod.snd

theorem once_of_kept {make : Result A} (h : answerOf kept key = some a) : once kept key make = (.ok a, kept) := by
  obtain ⟨existing, hexisting, rfl⟩ := Option.map_eq_some_iff.mp h
  unfold once
  rw [hexisting]

theorem once_of_error {make : Result A} {e : PyError} (h : answerOf kept key = none) (hmake : make = .error e) :
    once kept key make = (.error e, kept) := by
  unfold once
  rw [Option.map_eq_none_iff.mp h, hmake]

theorem once_of_ok {make : Result A} (h : answerOf kept key = none) (hmake : make = .ok a) :
    once kept key make = (.ok a, Dictionary.insert Prod.fst (key, a) kept) := by
  unfold once
  rw [Option.map_eq_none_iff.mp h, hmake]

theorem answerOf_insert (kept : List (String × A)) (key k : String) (a : A) :
    answerOf (Dictionary.insert Prod.fst (key, a) kept) k = if key = k then some a else answerOf kept k := by
  rw [answerOf, Dictionary.lookup_insert]
  split_ifs
  · rfl
  · rfl

/-- Every answer given is the one that is kept after, what was kept is kept, and what is new was given, and made as
    `made` says. -/
structure AnsweredOnce (before after answers : List (String × A)) (made : String → A → Prop) : Prop where
  answered : ∀ key a, (key, a) ∈ answers → answerOf after key = some a
  kept : ∀ key a, answerOf before key = some a → answerOf after key = some a
  new : ∀ key a, answerOf after key = some a → answerOf before key = some a ∨ (key, a) ∈ answers ∧ made key a

theorem AnsweredOnce.refl (kept : List (String × A)) (made : String → A → Prop) : AnsweredOnce kept kept [] made where
  answered _ _ h := absurd h List.not_mem_nil
  kept _ _ h := h
  new _ _ h := Or.inl h

theorem AnsweredOnce.trans (h : AnsweredOnce before middle answers made)
    (h' : AnsweredOnce middle after answers' made') :
    AnsweredOnce before after (answers ++ answers') fun key a => made key a ∨ made' key a where
  answered key a ha := by
    rcases List.mem_append.mp ha with ha | ha
    · exact h'.kept key a (h.answered key a ha)
    · exact h'.answered key a ha
  kept key a ha := h'.kept key a (h.kept key a ha)
  new key a ha := by
    rcases h'.new key a ha with hmiddle | ⟨hanswer, hmade⟩
    · exact (h.new key a hmiddle).imp_right fun hnew => ⟨List.mem_append_left _ hnew.1, Or.inl hnew.2⟩
    · exact Or.inr ⟨List.mem_append_right _ hanswer, Or.inr hmade⟩

theorem AnsweredOnce.mono (h : AnsweredOnce before after answers made) (hmade : ∀ key a, made key a → made' key a) :
    AnsweredOnce before after answers made' where
  answered := h.answered
  kept := h.kept
  new key a ha := (h.new key a ha).imp_right fun hnew => ⟨hnew.1, hmade key a hnew.2⟩

def answerUnder (key : String) : Result A → List (String × A)
  | .ok a => [(key, a)]
  | .error _ => []

/-- One call of `once`. -/
theorem answeredOnce_once (kept : List (String × A)) (key : String) (make : Result A) :
    AnsweredOnce kept (once kept key make).2 (answerUnder key (once kept key make).1) fun k a =>
      k = key ∧ make = .ok a := by
  cases hkept : answerOf kept key with
  | some existing =>
      rw [once_of_kept hkept]
      refine ⟨fun k a ha => ?_, fun _ _ h => h, fun _ _ h => Or.inl h⟩
      obtain ⟨rfl, rfl⟩ := Prod.mk.inj (List.mem_singleton.mp ha)
      exact hkept
  | none =>
      cases hmake : make with
      | error e =>
          rw [once_of_error hkept rfl]
          exact .refl kept _
      | ok answer =>
          rw [once_of_ok hkept rfl]
          refine ⟨fun k a ha => ?_, fun k a h => ?_, fun k a h => ?_⟩
          · obtain ⟨rfl, rfl⟩ := Prod.mk.inj (List.mem_singleton.mp ha)
            rw [answerOf_insert, if_pos rfl]
          · rw [answerOf_insert, if_neg, h]
            rintro rfl
            rw [hkept] at h
            cases h
          · rw [answerOf_insert] at h
            split_ifs at h with hk
            · subst hk
              cases h
              exact Or.inr ⟨List.mem_singleton.mpr rfl, rfl, rfl⟩
            · exact Or.inl h

end Answers

/-! ## The answers of a run -/

namespace TradingAdapter

def orderAnswer : Operation × Outcome → Option (String × ExchangeOrderAcknowledgement)
  | (.placeOrder request _, .order acknowledgement) => some (request.idempotencyKey, acknowledgement)
  | _ => none

def cancelAnswer : Operation × Outcome → Option (String × CancelOrderAcknowledgement)
  | (.cancelOrder request _, .cancel acknowledgement) => some (request.idempotencyKey, acknowledgement)
  | _ => none

/-- The acknowledgement of an order request among the calls. -/
def OrderedBy (operations : List Operation) (key : String) (acknowledgement : ExchangeOrderAcknowledgement) : Prop :=
  ∃ request clock, .placeOrder request clock ∈ operations ∧ request.idempotencyKey = key ∧
    acknowledgeOrder request clock = .ok acknowledgement

def CancelledBy (operations : List Operation) (key : String) (acknowledgement : CancelOrderAcknowledgement) : Prop :=
  ∃ request clock, .cancelOrder request clock ∈ operations ∧ request.idempotencyKey = key ∧
    acknowledgeCancel request clock = .ok acknowledgement

variable (s : TradingAdapter)

theorem checkRateLimit_kept (endpointCategory : AdapterEndpointCategory) (operation : String)
    (decidedAt : UTCDateTime) :
    (s.checkRateLimit endpointCategory operation decidedAt).2.submittedOrders = s.submittedOrders ∧
      (s.checkRateLimit endpointCategory operation decidedAt).2.cancelledOrders = s.cancelledOrders := by
  unfold checkRateLimit
  split
  · split_ifs
    · exact ⟨rfl, rfl⟩
    · split
      · exact ⟨rfl, rfl⟩
      · split_ifs <;> exact ⟨rfl, rfl⟩
  · exact ⟨rfl, rfl⟩

theorem passChecks_kept (checks : Except TradingRaised Unit) (endpointCategory : AdapterEndpointCategory)
    (operation : String) (decidedAt : UTCDateTime) :
    (s.passChecks checks endpointCategory operation decidedAt).2.submittedOrders = s.submittedOrders ∧
      (s.passChecks checks endpointCategory operation decidedAt).2.cancelledOrders = s.cancelledOrders := by
  cases checks with
  | error raised => exact ⟨rfl, rfl⟩
  | ok u => exact s.checkRateLimit_kept endpointCategory operation decidedAt

theorem placeOrder_cancelled (request : ExchangeOrderRequest) (clock : Readings) :
    (s.placeOrder request clock).2.cancelledOrders = s.cancelledOrders := by
  have hkept := s.passChecks_kept (s.placeOrderChecks request) .orders "place_order" clock.decidedAt
  unfold placeOrder
  split
  next s' heq => rw [heq] at hkept; exact hkept.2
  next s' heq => rw [heq] at hkept; exact hkept.2

theorem orderAnswer_of (request : ExchangeOrderRequest) (clock : Readings)
    (answer : Result ExchangeOrderAcknowledgement) :
    (orderAnswer (.placeOrder request clock, Outcome.of .order (answer.mapError .acknowledgement))).toList =
      answerUnder request.idempotencyKey answer := by
  cases answer <;> rfl

theorem cancelAnswer_of (request : CancelOrderRequest) (clock : Readings)
    (answer : Result CancelOrderAcknowledgement) :
    (cancelAnswer (.cancelOrder request clock, Outcome.of .cancel (answer.mapError .acknowledgement))).toList =
      answerUnder request.idempotencyKey answer := by
  cases answer <;> rfl

theorem placeOrder_answered (request : ExchangeOrderRequest) (clock : Readings) :
    AnsweredOnce s.submittedOrders (s.placeOrder request clock).2.submittedOrders
      (orderAnswer (.placeOrder request clock, Outcome.of .order (s.placeOrder request clock).1)).toList
      (OrderedBy [.placeOrder request clock]) := by
  have hkept := (s.passChecks_kept (s.placeOrderChecks request) .orders "place_order" clock.decidedAt).1
  unfold placeOrder
  split
  next raised s' heq =>
      rw [heq] at hkept
      rw [← hkept]
      exact .refl _ _
  next u s' heq =>
      rw [heq] at hkept
      rw [← hkept, orderAnswer_of]
      refine (answeredOnce_once s'.submittedOrders request.idempotencyKey (acknowledgeOrder request clock)).mono ?_
      rintro key a ⟨rfl, hmade⟩
      exact ⟨request, clock, List.mem_singleton.mpr rfl, rfl, hmade⟩

theorem cancelOrder_answered (request : CancelOrderRequest) (clock : Readings) :
    AnsweredOnce s.cancelledOrders (s.cancelOrder request clock).2.cancelledOrders
      (cancelAnswer (.cancelOrder request clock, Outcome.of .cancel (s.cancelOrder request clock).1)).toList
      (CancelledBy [.cancelOrder request clock]) := by
  have hkept := (s.passChecks_kept s.cancelOrderChecks .orders "cancel_order" clock.decidedAt).2
  unfold cancelOrder
  split
  next raised s' heq =>
      rw [heq] at hkept
      rw [← hkept]
      exact .refl _ _
  next u s' heq =>
      rw [heq] at hkept
      rw [← hkept, cancelAnswer_of]
      refine (answeredOnce_once s'.cancelledOrders request.idempotencyKey (acknowledgeCancel request clock)).mono ?_
      rintro key a ⟨rfl, hmade⟩
      exact ⟨request, clock, List.mem_singleton.mpr rfl, rfl, hmade⟩

theorem cancelOrder_submitted (request : CancelOrderRequest) (clock : Readings) :
    (s.cancelOrder request clock).2.submittedOrders = s.submittedOrders := by
  have hkept := (s.passChecks_kept s.cancelOrderChecks .orders "cancel_order" clock.decidedAt).1
  unfold cancelOrder
  split
  next s' heq => rw [heq] at hkept; exact hkept
  next s' heq => rw [heq] at hkept; exact hkept

/-- One call. -/
theorem step_answered (operation : Operation) :
    AnsweredOnce s.submittedOrders (s.step operation).2.submittedOrders
        (orderAnswer (operation, (s.step operation).1)).toList (OrderedBy [operation]) ∧
      AnsweredOnce s.cancelledOrders (s.step operation).2.cancelledOrders
        (cancelAnswer (operation, (s.step operation).1)).toList (CancelledBy [operation]) := by
  cases operation with
  | connect =>
      rw [step]
      split
      · exact ⟨.refl _ _, .refl _ _⟩
      · exact ⟨.refl _ _, .refl _ _⟩
  | disconnect => exact ⟨.refl _ _, .refl _ _⟩
  | subscribeMarketData subscriptions => exact ⟨.refl _ _, .refl _ _⟩
  | listMarkets exchange environment clock =>
      obtain ⟨hsubmitted, hcancelled⟩ : (s.listMarkets exchange environment clock).2.submittedOrders = _ ∧
          (s.listMarkets exchange environment clock).2.cancelledOrders = _ :=
        s.passChecks_kept (s.listMarketsChecks exchange environment) .marketData "list_markets" clock.decidedAt
      rw [step, hsubmitted, hcancelled]
      exact ⟨.refl _ _, .refl _ _⟩
  | placeOrder request clock =>
      refine ⟨s.placeOrder_answered request clock, ?_⟩
      change AnsweredOnce s.cancelledOrders (s.placeOrder request clock).2.cancelledOrders [] _
      rw [s.placeOrder_cancelled request clock]
      exact .refl _ _
  | cancelOrder request clock =>
      refine ⟨?_, s.cancelOrder_answered request clock⟩
      change AnsweredOnce s.submittedOrders (s.cancelOrder request clock).2.submittedOrders [] _
      rw [s.cancelOrder_submitted request clock]
      exact .refl _ _

/-- In any run of calls, whatever fails and whenever the adapter reconnects, every order that is acknowledged under a
    key has the one acknowledgement that the adapter keeps for it from then on: that of the first request under the key
    in this run, or of one before. Cancellations are the same. -/
theorem answered_once (s : TradingAdapter) (operations : List Operation) :
    AnsweredOnce s.submittedOrders (s.run operations).2.submittedOrders
        ((s.run operations).1.flatMap fun entry => (orderAnswer entry).toList) (OrderedBy operations) ∧
      AnsweredOnce s.cancelledOrders (s.run operations).2.cancelledOrders
        ((s.run operations).1.flatMap fun entry => (cancelAnswer entry).toList) (CancelledBy operations) := by
  induction operations generalizing s with
  | nil => exact ⟨.refl _ _, .refl _ _⟩
  | cons operation operations ih =>
      obtain ⟨horder, hcancel⟩ := s.step_answered operation
      obtain ⟨horders, hcancels⟩ := ih (s.step operation).2
      constructor
      · refine (horder.trans horders).mono ?_
        rintro key a (⟨request, clock, hmem, hmade⟩ | ⟨request, clock, hmem, hmade⟩)
        · exact ⟨request, clock, List.mem_singleton.mp hmem ▸ List.mem_cons_self, hmade⟩
        · exact ⟨request, clock, List.mem_cons_of_mem _ hmem, hmade⟩
      · refine (hcancel.trans hcancels).mono ?_
        rintro key a (⟨request, clock, hmem, hmade⟩ | ⟨request, clock, hmem, hmade⟩)
        · exact ⟨request, clock, List.mem_singleton.mp hmem ▸ List.mem_cons_self, hmade⟩
        · exact ⟨request, clock, List.mem_cons_of_mem _ hmem, hmade⟩

/-! ## The capacity of a run -/

/-- What a rate limit is asked about, for the calls that ask it. -/
def Operation.endpoint : Operation → Option (AdapterEndpointCategory × String)
  | .listMarkets _ _ _ => some (.marketData, "list_markets")
  | .placeOrder _ _ => some (.orders, "place_order")
  | .cancelOrder _ _ => some (.orders, "cancel_order")
  | _ => none

/-- The rule governs the call. -/
def Governed (rule : AdapterRateLimitRule) (operation : Operation) : Prop :=
  operation.endpoint = some (rule.endpointCategory, rule.operation)

instance (rule : AdapterRateLimitRule) (operation : Operation) : Decidable (Governed rule operation) :=
  inferInstanceAs (Decidable (_ = _))

/-- The call got past its checks and its rate limit. -/
def Outcome.passed : Outcome → Bool
  | .raised (.early _) => false
  | .raised (.ambiguousSubmission _) => false
  | .raised (.rateLimitInput _) => false
  | .raised (.rateLimited _) => false
  | _ => true

/-- The rate limit blocked the call. -/
def Outcome.limited : Outcome → Bool
  | .raised (.rateLimited _) => true
  | _ => false

/-- The number of calls of the rule that passed. -/
def passes (rule : AdapterRateLimitRule) (log : List (Operation × Outcome)) : ℕ :=
  log.countP fun entry => decide (Governed rule entry.1) && entry.2.passed

/-- The capacity after a call of capacity `r`, by its outcome. -/
inductive Spent (rule : AdapterRateLimitRule) (r : ℤ) (operation : Operation) (outcome : Outcome) : ℤ → Prop
  | passed (hgoverned : Governed rule operation) (hpassed : outcome.passed = true) (hcost : rule.cost ≤ r)
      (hlimited : outcome.limited = false) : Spent rule r operation outcome (r - rule.cost)
  | limited (hgoverned : Governed rule operation) (hpassed : outcome.passed = false) (hcost : r < rule.cost) :
      Spent rule r operation outcome r
  | free (hpassed : Governed rule operation → outcome.passed = false)
      (hlimited : Governed rule operation → outcome.limited = false) : Spent rule r operation outcome r

/-- The rule and a capacity that it can have. -/
structure HasCapacity (s : TradingAdapter) (rule : AdapterRateLimitRule) (r : ℤ) : Prop where
  rule_eq : s.rateLimitRule = some rule
  remaining_eq : s.rateLimitRemaining = some r
  nonneg : 0 ≤ r
  le_limit : r ≤ rule.limit

variable {s : TradingAdapter} {rule : AdapterRateLimitRule} {r : ℤ}

/-- The rate limit lets a call that it governs pass while the capacity covers the cost. -/
inductive Checked (s : TradingAdapter) (rule : AdapterRateLimitRule) (r : ℤ)
    (endpoint : AdapterEndpointCategory × String) : Except TradingRaised Unit × TradingAdapter → Prop
  | passed {s' : TradingAdapter} (hgoverned : endpoint = (rule.endpointCategory, rule.operation))
      (hcost : rule.cost ≤ r) (h : HasCapacity s' rule (r - rule.cost)) : Checked s rule r endpoint (.ok ⟨⟩, s')
  | limited {s' : TradingAdapter} {context : Result RateLimitContext}
      (hgoverned : endpoint = (rule.endpointCategory, rule.operation)) (hcost : r < rule.cost)
      (h : HasCapacity s' rule r) : Checked s rule r endpoint (.error (.rateLimited context), s')
  | free (hgoverned : endpoint ≠ (rule.endpointCategory, rule.operation)) (h : HasCapacity s rule r) :
      Checked s rule r endpoint (.ok ⟨⟩, s)

theorem checkRateLimit_checked (h : HasCapacity s rule r) (endpointCategory : AdapterEndpointCategory)
    (operation : String) (decidedAt : UTCDateTime) :
    Checked s rule r (endpointCategory, operation) (s.checkRateLimit endpointCategory operation decidedAt) := by
  have hcost := rule.cost_pos
  have hnonneg := h.nonneg
  have hlimit := h.le_limit
  have hevaluable : Evaluable rule r decidedAt none rule.cost :=
    ⟨hcost, rule.cost_le_limit, hnonneg, hlimit, fun _ htime => absurd htime (Option.not_mem_none _)⟩
  unfold checkRateLimit
  rw [h.rule_eq, h.remaining_eq]
  by_cases hgoverned : rule.endpointCategory = endpointCategory ∧ rule.operation = operation
  · obtain ⟨rfl, rfl⟩ := hgoverned
    have hdecision : evaluateRateLimit rule r decidedAt none none = .ok (decisionOf rule r decidedAt none rule.cost) :=
      evaluateRateLimit_eq_ok.mpr ⟨hevaluable, rfl⟩
    simp only [ne_eq, not_true_eq_false, or_self, if_false, hdecision]
    by_cases hallowed : rule.cost ≤ r
    · have htrue : (decisionOf rule r decidedAt none rule.cost).allowed = true :=
        decide_eq_true hallowed
      have hafter : (decisionOf rule r decidedAt none rule.cost).remainingAfter = r - rule.cost :=
        if_pos hallowed
      rw [if_pos htrue, hafter]
      exact .passed rfl hallowed ⟨rfl, rfl, by omega, by omega⟩
    · have hfalse : ¬(decisionOf rule r decidedAt none rule.cost).allowed = true := by
        simpa [decisionOf] using hallowed
      rw [if_neg hfalse]
      exact .limited rfl (not_le.mp hallowed) ⟨rfl, rfl, hnonneg, hlimit⟩
  · have hother : rule.endpointCategory ≠ endpointCategory ∨ rule.operation ≠ operation := by
      by_contra hboth
      push Not at hboth
      exact hgoverned hboth
    simp only [if_pos hother]
    refine .free (fun heq => hgoverned ?_) h
    obtain ⟨rfl, rfl⟩ := Prod.mk.inj heq
    exact ⟨rfl, rfl⟩

/-! ### The checks before the rate limit -/

/-- Neither passed nor blocked by the rate limit. -/
def Early (raised : TradingRaised) : Prop :=
  (Outcome.raised raised).passed = false ∧ (Outcome.raised raised).limited = false

/-- The checks raise nothing but what is raised before the rate limit. -/
def RaisesEarly (checks : Except TradingRaised Unit) : Prop := ∀ raised, checks = .error raised → Early raised

theorem raisesEarly_mapError (checks : Except Raised Unit) : RaisesEarly (checks.mapError .early) := by
  intro raised h
  cases checks with
  | ok u => cases h
  | error e => cases h; exact ⟨rfl, rfl⟩

theorem RaisesEarly.bind {checks : Except TradingRaised Unit} {next : Unit → Except TradingRaised Unit}
    (h : RaisesEarly checks) (hnext : ∀ u, RaisesEarly (next u)) : RaisesEarly (checks >>= next) := by
  intro raised hraised
  cases checks with
  | ok u => exact hnext u raised hraised
  | error e => exact h raised hraised

theorem raisesEarly_raiseIf {bad : Prop} [Decidable bad] {raised : TradingRaised} (h : Early raised) :
    RaisesEarly (raiseIf bad raised) := by
  intro raised' hraised
  unfold raiseIf at hraised
  split_ifs at hraised
  cases hraised
  exact h

theorem raisesEarly_listMarketsChecks (exchange : String) (environment : Environment) :
    RaisesEarly (s.listMarketsChecks exchange environment) :=
  (raisesEarly_mapError _).bind fun _ => (raisesEarly_mapError _).bind fun _ => raisesEarly_mapError _

theorem raisesEarly_cancelOrderChecks : RaisesEarly s.cancelOrderChecks :=
  (raisesEarly_mapError _).bind fun _ => raisesEarly_mapError _

theorem raisesEarly_placeOrderChecks (request : ExchangeOrderRequest) : RaisesEarly (s.placeOrderChecks request) :=
  (raisesEarly_mapError _).bind fun _ => (raisesEarly_raiseIf ⟨rfl, rfl⟩).bind fun _ => raisesEarly_mapError _

/-! ### Calls and runs -/

/-- What the checks and the rate limit make of the capacity, for any answer of the call behind them. -/
structure Admitted (rule : AdapterRateLimitRule) (r : ℤ) (operation : Operation)
    (result : Except TradingRaised Unit × TradingAdapter) (r' : ℤ) : Prop where
  capacity : HasCapacity result.2 rule r'
  raised : ∀ raised, result.1 = .error raised → Spent rule r operation (.raised raised) r'
  answered : ∀ u, result.1 = .ok u → ∀ outcome : Outcome, outcome.passed = true → outcome.limited = false →
    Spent rule r operation outcome r'

theorem passChecks_spent (h : HasCapacity s rule r) (operation : Operation) {checks : Except TradingRaised Unit}
    {endpointCategory : AdapterEndpointCategory} {name : String} (decidedAt : UTCDateTime)
    (hendpoint : operation.endpoint = some (endpointCategory, name)) (hchecks : RaisesEarly checks) :
    ∃ r', Admitted rule r operation (s.passChecks checks endpointCategory name decidedAt) r' := by
  have hgoverned : Governed rule operation ↔ (endpointCategory, name) = (rule.endpointCategory, rule.operation) := by
    rw [Governed, hendpoint, Option.some.injEq]
  cases checks with
  | error raised =>
      refine ⟨r, h, fun raised' hraised => ?_, fun u hu => ?_⟩
      · cases hraised
        exact .free (fun _ => (hchecks raised rfl).1) fun _ => (hchecks raised rfl).2
      · cases hu
  | ok u =>
      have hchecked := checkRateLimit_checked h endpointCategory name decidedAt
      change ∃ r', Admitted rule r operation (s.checkRateLimit endpointCategory name decidedAt) r'
      generalize s.checkRateLimit endpointCategory name decidedAt = result at hchecked ⊢
      cases hchecked with
      | passed heq hcost hafter =>
          refine ⟨_, hafter, fun raised hraised => ?_, fun _ _ outcome hpassed hlimited => ?_⟩
          · cases hraised
          · exact .passed (hgoverned.mpr heq) hpassed hcost hlimited
      | limited heq hcost hafter =>
          refine ⟨r, hafter, fun raised hraised => ?_, fun u hu => ?_⟩
          · cases hraised
            exact .limited (hgoverned.mpr heq) rfl hcost
          · cases hu
      | free hne hafter =>
          refine ⟨r, hafter, fun raised hraised => ?_, fun _ _ outcome _ hlimited => ?_⟩
          · cases hraised
          · exact .free (fun hg => absurd (hgoverned.mp hg) hne) fun _ => hlimited

theorem order_passes (answer : Result ExchangeOrderAcknowledgement) :
    (Outcome.of .order (answer.mapError .acknowledgement)).passed = true ∧
      (Outcome.of .order (answer.mapError .acknowledgement)).limited = false := by
  cases answer with
  | ok acknowledgement => exact ⟨rfl, rfl⟩
  | error e => exact ⟨rfl, rfl⟩

theorem cancel_passes (answer : Result CancelOrderAcknowledgement) :
    (Outcome.of .cancel (answer.mapError .acknowledgement)).passed = true ∧
      (Outcome.of .cancel (answer.mapError .acknowledgement)).limited = false := by
  cases answer with
  | ok acknowledgement => exact ⟨rfl, rfl⟩
  | error e => exact ⟨rfl, rfl⟩

theorem placeOrder_spent (h : HasCapacity s rule r) (request : ExchangeOrderRequest) (clock : Readings) :
    ∃ r', HasCapacity (s.placeOrder request clock).2 rule r' ∧
      Spent rule r (.placeOrder request clock) (Outcome.of .order (s.placeOrder request clock).1) r' := by
  obtain ⟨r', hcapacity, hraised, hanswered⟩ :=
    passChecks_spent h (.placeOrder request clock) clock.decidedAt rfl (raisesEarly_placeOrderChecks request)
  refine ⟨r', ?_⟩
  unfold placeOrder
  split
  next raised s' heq =>
      rw [heq] at hcapacity hraised
      exact ⟨hcapacity, hraised raised rfl⟩
  next u s' heq =>
      rw [heq] at hcapacity hanswered
      obtain ⟨hpassed, hlimited⟩ :=
        order_passes (once s'.submittedOrders request.idempotencyKey (acknowledgeOrder request clock)).1
      exact ⟨⟨hcapacity.rule_eq, hcapacity.remaining_eq, hcapacity.nonneg, hcapacity.le_limit⟩,
        hanswered u rfl _ hpassed hlimited⟩

theorem cancelOrder_spent (h : HasCapacity s rule r) (request : CancelOrderRequest) (clock : Readings) :
    ∃ r', HasCapacity (s.cancelOrder request clock).2 rule r' ∧
      Spent rule r (.cancelOrder request clock) (Outcome.of .cancel (s.cancelOrder request clock).1) r' := by
  obtain ⟨r', hcapacity, hraised, hanswered⟩ :=
    passChecks_spent h (.cancelOrder request clock) clock.decidedAt rfl raisesEarly_cancelOrderChecks
  refine ⟨r', ?_⟩
  unfold cancelOrder
  split
  next raised s' heq =>
      rw [heq] at hcapacity hraised
      exact ⟨hcapacity, hraised raised rfl⟩
  next u s' heq =>
      rw [heq] at hcapacity hanswered
      obtain ⟨hpassed, hlimited⟩ :=
        cancel_passes (once s'.cancelledOrders request.idempotencyKey (acknowledgeCancel request clock)).1
      exact ⟨⟨hcapacity.rule_eq, hcapacity.remaining_eq, hcapacity.nonneg, hcapacity.le_limit⟩,
        hanswered u rfl _ hpassed hlimited⟩

theorem listMarkets_spent (h : HasCapacity s rule r) (exchange : String) (environment : Environment)
    (clock : Readings) :
    ∃ r', HasCapacity (s.listMarkets exchange environment clock).2 rule r' ∧
      Spent rule r (.listMarkets exchange environment clock)
        (Outcome.of (fun _ => .done) (s.listMarkets exchange environment clock).1) r' := by
  obtain ⟨r', hcapacity, hraised, hanswered⟩ := passChecks_spent h (.listMarkets exchange environment clock)
    clock.decidedAt rfl (raisesEarly_listMarketsChecks exchange environment)
  refine ⟨r', hcapacity, ?_⟩
  cases hresult : (s.listMarkets exchange environment clock).1 with
  | ok u => exact hanswered u hresult .done rfl rfl
  | error raised => exact hraised raised hresult

/-- One call. -/
theorem step_spent (h : HasCapacity s rule r) (operation : Operation) :
    ∃ r', HasCapacity (s.step operation).2 rule r' ∧ Spent rule r operation (s.step operation).1 r' := by
  have hungoverned : operation.endpoint = none → ∀ outcome, Spent rule r operation outcome r := by
    intro hnone outcome
    have hnot : ¬Governed rule operation := by
      intro hsome
      rw [Governed, hnone] at hsome
      cases hsome
    exact .free (fun hg => absurd hg hnot) fun hg => absurd hg hnot
  cases operation with
  | connect =>
      refine ⟨r, ?_, hungoverned rfl _⟩
      rw [step]
      split
      · exact ⟨h.rule_eq, h.remaining_eq, h.nonneg, h.le_limit⟩
      · exact h
  | disconnect => exact ⟨r, ⟨h.rule_eq, h.remaining_eq, h.nonneg, h.le_limit⟩, hungoverned rfl _⟩
  | subscribeMarketData subscriptions =>
      exact ⟨r, ⟨h.rule_eq, h.remaining_eq, h.nonneg, h.le_limit⟩, hungoverned rfl _⟩
  | listMarkets exchange environment clock => exact listMarkets_spent h exchange environment clock
  | placeOrder request clock => exact placeOrder_spent h request clock
  | cancelOrder request clock => exact cancelOrder_spent h request clock

/-- What a run makes of the capacity. -/
structure WithinBudget (rule : AdapterRateLimitRule) (r : ℤ) (log : List (Operation × Outcome)) (r' : ℤ) : Prop where
  spent : r' = r - passes rule log * rule.cost
  nonneg : 0 ≤ r'
  blocked : ∀ entry ∈ log, Governed rule entry.1 → entry.2.limited = true → r' < rule.cost
  -- none passes after a blocked one
  final : log.Pairwise fun earlier later => Governed rule earlier.1 → earlier.2.limited = true →
    Governed rule later.1 → later.2.passed = false

/-- Where what is left does not cover the cost, no call passes. -/
theorem WithinBudget.none_passes {log : List (Operation × Outcome)} {r' : ℤ} (h : WithinBudget rule r log r')
    (hshort : r < rule.cost) : ∀ entry ∈ log, Governed rule entry.1 → entry.2.passed = false := by
  have hcost := rule.cost_pos
  have hnone : passes rule log = 0 := by
    by_contra hsome
    have hone : (1 : ℤ) ≤ passes rule log := by exact_mod_cast Nat.one_le_iff_ne_zero.mpr hsome
    have htaken : rule.cost ≤ passes rule log * rule.cost := le_mul_of_one_le_left hcost.le hone
    have hspent := h.spent
    have hnonneg := h.nonneg
    linarith
  intro entry hentry hgoverned
  by_contra hpassed
  refine List.countP_eq_zero.mp hnone entry hentry ?_
  rw [decide_eq_true hgoverned, Bool.eq_true_of_not_eq_false hpassed]
  rfl

/-- Of the calls that a rule governs, those that pass take its cost from the capacity, each of them; the capacity never
    falls below zero, and a call is blocked only when what is left then does not cover the cost. So once a call is
    blocked no later one passes, and answers given again count like new ones. -/
theorem run_withinBudget (h : HasCapacity s rule r) (operations : List Operation) :
    ∃ r', HasCapacity (s.run operations).2 rule r' ∧ WithinBudget rule r (s.run operations).1 r' := by
  induction operations generalizing s r with
  | nil =>
      refine ⟨r, h, ?_, h.nonneg, fun _ hentry => absurd hentry List.not_mem_nil, .nil⟩
      change r = r - ((0 : ℕ) : ℤ) * rule.cost
      simp
  | cons operation operations ih =>
      obtain ⟨middle, hmiddle, hspent⟩ := step_spent h operation
      obtain ⟨r', hafter, hrest⟩ := ih hmiddle
      have hcost := rule.cost_pos
      have hcount : passes rule (s.run (operation :: operations)).1 =
          passes rule ((s.step operation).2.run operations).1 +
            if (decide (Governed rule operation) && (s.step operation).1.passed) = true then 1 else 0 :=
        List.countP_cons
      have hle : r' ≤ middle := by
        rw [hrest.spent]
        have hpasses : (0 : ℤ) ≤ passes rule ((s.step operation).2.run operations).1 * rule.cost := by positivity
        linarith
      refine ⟨r', hafter, ?_, hrest.nonneg, fun entry hentry hgoverned hlimited => ?_,
        .cons (fun later hlater hgoverned hlimited => ?_) hrest.final⟩
      · rw [hrest.spent, hcount]
        cases hspent with
        | passed hgoverned hpassed _ _ =>
            rw [if_pos (by rw [decide_eq_true hgoverned, hpassed]; rfl)]
            push_cast
            ring
        | limited _ hpassed _ =>
            rw [if_neg (by rw [hpassed, Bool.and_false]; exact Bool.false_ne_true), add_zero]
        | free hpassed _ =>
            rw [if_neg (by simpa using hpassed), add_zero]
      · rcases List.mem_cons.mp hentry with rfl | hentry
        · cases hspent with
          | passed _ _ _ hnot => rw [hnot] at hlimited; cases hlimited
          | limited _ _ hshort => exact lt_of_le_of_lt hle hshort
          | free _ hnot => rw [hnot hgoverned] at hlimited; cases hlimited
        · exact hrest.blocked entry hentry hgoverned hlimited
      · refine hrest.none_passes ?_ later hlater
        cases hspent with
        | passed _ _ _ hnot => rw [hnot] at hlimited; cases hlimited
        | limited _ _ hshort => exact hshort
        | free _ hnot => rw [hnot hgoverned] at hlimited; cases hlimited

/-! ### Two orders where the limit has room for one -/

theorem cost_one : (0 : ℤ) < 1 ∧ (1 : ℤ) ≤ 1 := by decide

def oneOrder : AdapterRateLimitRule where
  exchange := "fixture"
  endpointCategory := .orders
  operation := "place_order"
  windowName := "second"
  limit := 1
  cost := 1
  cost_pos := cost_one.1
  cost_le_limit := cost_one.2

def limitedAdapter : TradingAdapter where
  adapter := ⟨"fixture", .test, none, true, true, false, []⟩
  rateLimitRule := some oneOrder
  rateLimitRemaining := some 1

theorem orderId_rain : IsIdentifier "ord_" "ord_rain" := by decide
theorem accountId_main : IsIdentifier "acct_" "acct_main" := by decide

def rainOrder : ExchangeOrderRequest :=
  ⟨⟨"ord_rain", orderId_rain⟩, "rain", "fixture", ⟨"acct_main", accountId_main⟩, "key"⟩

theorem run_withinBudget_again :
    ∃ r', HasCapacity (limitedAdapter.run [.placeOrder rainOrder ⟨0, 0, 0⟩, .placeOrder rainOrder ⟨1, 1, 1⟩]).2
        oneOrder r' ∧
      WithinBudget oneOrder 1
        (limitedAdapter.run [.placeOrder rainOrder ⟨0, 0, 0⟩, .placeOrder rainOrder ⟨1, 1, 1⟩]).1 r' :=
  run_withinBudget ⟨rfl, rfl, by decide, by decide⟩ _

end TradingAdapter
end FixtureOrders
end Pmrp
