import Pmrp.Risk.Approvals
import Pmrp.Risk.Correctness.Approval
import Pmrp.Schemas.Correctness.WrittenDecimals

/-!
# `Risk.Correctness.ExecutableApprovals` — what is approved can be ordered and reserved

An engine with an approval ttl returns a decision that both factories accept. `Executable` is what they build: the
order and the reservation are of the intent, for the approved quantity at the intent's price, and live from the
evaluation until the ttl has run out.

Two limits remain. The reservation wants a positive notional, while a price of zero is a valid price of an intent and
of an order. And nobody compares the end of the window with the expiry of the intent: an intent that has expired is
approved like any other (`expiredGift_approved`).
-/

namespace Pmrp
namespace RiskEngine

variable {engine : RiskEngine} {intent : OrderIntent} {context : RiskContext} {inputSnapshotId : String}
variable {d : RiskDecision}

/-! ## What an approving decision says -/

/-- An approval ends its ttl after the evaluation. -/
theorem evaluate_approvalExpiresAt (h : engine.evaluate intent context inputSnapshotId = .ok d)
    (happroved : d.status = .approved) :
    d.approvalExpiresAt = engine.approvalTtl.map (context.evaluatedAt + ·) := by
  simp only [evaluate, bind_eq_ok, Prod.exists] at h
  obtain ⟨-, -, -, -, results, status, -, expiresAt, hexpires, hd⟩ := h
  obtain ⟨-, rfl⟩ := RiskDecision.validate_eq_ok.mp hd
  obtain rfl : status = .approved := happroved
  exact (approvalExpiry_approved_iff.mp hexpires).2

/-- The decision approves the intent at a price, for a window that starts at the evaluation. -/
structure ApprovedAt (d : RiskDecision) (intent : OrderIntent) (context : RiskContext) (ttl : Timedelta)
    (price : ℚ) : Prop where
  approves : Approves d intent
  intent_price : intent.limitPrice = some price
  quantity : d.approvedQuantity = some intent.quantity
  limitPrice : d.approvedLimitPrice = some price
  evaluatedAt : d.evaluatedAt = context.evaluatedAt
  expiresAt : d.approvalExpiresAt = some (context.evaluatedAt + ttl)

theorem approvedAt_of_evaluate {ttl : Timedelta} (httl : engine.approvalTtl = some ttl)
    (h : engine.evaluate intent context inputSnapshotId = .ok d) (happroved : d.status = .approved) :
    ∃ price, ApprovedAt d intent context ttl price := by
  have hexpires := evaluate_approvalExpiresAt h happroved
  obtain ⟨-, hquantity, hprice⟩ := evaluate_approved h happroved
  obtain ⟨hvalid, results, status, expiresAt, rfl⟩ := evaluate_eq_ok h
  obtain ⟨price, hsome⟩ := Option.isSome_iff_exists.mp (hvalid.approved_fields happroved).2
  refine ⟨price, ⟨happroved, rfl, rfl⟩, hprice.symm.trans hsome, hquantity, hsome, rfl, ?_⟩
  rw [hexpires, httl]
  rfl

/-! ## What the factories build from it -/

variable {ttl : Timedelta} {price : ℚ}

theorem ApprovedAt.pair (h : ApprovedAt d intent context ttl price) (construction : String) :
    validateDecisionPair construction intent d = .ok () := by
  obtain ⟨⟨hstatus, hintent, hcorrelation⟩, -, hquantity, hprice, -, -⟩ := h
  simp only [validateDecisionPair, bind_eq_ok, raiseIf_eq_ok, exists_const, not_not, hquantity, hprice]
  refine ⟨hstatus, hintent, hcorrelation, ?_, ?_⟩
  · simp
  · rintro ⟨_, ⟨⟩, hlt⟩
    exact lt_irrefl _ hlt

theorem ApprovedAt.values (h : ApprovedAt d intent context ttl price) :
    approvedValues d = .ok (intent.quantity, price) :=
  approvedValues_eq_ok.mpr ⟨h.quantity, h.limitPrice⟩

theorem validateExchange_ok {exchange : String} (h : TextWithin 64 exchange) :
    validateExchange exchange = .ok () := by
  have hne : exchange ≠ "" := by
    rintro rfl
    exact absurd h.1 (by decide)
  simp only [validateExchange, bind_eq_ok, raiseIf_eq_ok, exists_const, not_lt]
  exact ⟨hne, h.2⟩

/-- The order is valid: its pricing was checked on the intent, and its window is as long as the ttl. -/
theorem ApprovedAt.order (h : ApprovedAt d intent context ttl price) (hpos : 0 < ttl) (sha : Sha256)
    (content : ApprovalContent String) (g : HashingApprovedOrderReferenceGenerator) {exchange : String}
    (hexchange : TextWithin 64 exchange) (accountId : AccountId) : ∃ references,
      buildApprovedOrder sha content g intent d exchange accountId =
        .ok (ApprovedOrderFactory.order intent d exchange accountId intent.quantity price references) := by
  have hvalid : ∀ references, (ApprovedOrderFactory.order intent d exchange accountId intent.quantity price
      references).Valid := by
    intro references
    have hnonneg := intent.limitPrice_nonneg price h.intent_price
    -- type, price and post-only are those of the intent, which were checked when it was built
    refine ⟨hexchange, intent.quantity_pos, ?_, references.clientOrderId_within,
      references.idempotencyKey_within, ?_, ?_, ?_⟩
    · rintro p ⟨⟩
      exact hnonneg
    · rintro ⟨-, hnone⟩
      cases hnone
    · rintro ⟨hmarket, hpost⟩
      exact absurd (intent.market_not_postOnly hmarket) (by simpa [ApprovedOrderFactory.order] using hpost)
    · intro t ht
      have hwindow : t = context.evaluatedAt + ttl := Option.some_inj.mp (ht.symm.trans h.expiresAt)
      have hstart : d.evaluatedAt = context.evaluatedAt := h.evaluatedAt
      show d.evaluatedAt < t
      rw [hstart, hwindow]
      exact lt_add_of_pos_right _ hpos
  obtain ⟨references, hreferences⟩ : ∃ references, g.references sha content intent d exchange accountId =
      .ok references := ⟨_, rfl⟩
  refine ⟨references, ?_⟩
  rw [buildApprovedOrder, ApprovedOrderFactory.build, validateApprovalPair, h.pair, ok_bind,
    validateExchange_ok hexchange, ok_bind, h.values, ok_bind]
  simp only [hreferences, ok_bind]
  exact ApprovedOrder.validate_eq_ok.mpr ⟨hvalid references, rfl⟩

/-- The reservation `build` validates, where its notional does not overflow. -/
theorem ApprovedAt.build_reservation (h : ApprovedAt d intent context ttl price) {ctx : DecimalContext}
    (hfinite : ctx.overflows (intent.quantity * price) = false) (sha : Sha256)
    (content : ApprovalContent (ExchangeName × Currency)) (exchange : ExchangeName) (accountId : AccountId)
    (currency : Currency) : ∃ reservationId, TextWithin reservationIdMaxLength reservationId ∧
      buildCapitalReservation ctx sha content intent d exchange accountId currency =
        (CapitalReservationFactory.reservation ctx reservationId intent d exchange accountId currency
          intent.quantity price (context.evaluatedAt + ttl)).validate := by
  have hwithin := hashingReservationId_within sha (content intent d (exchange, currency) accountId)
  refine ⟨_, hwithin, ?_⟩
  rw [buildCapitalReservation, CapitalReservationFactory.build, validateReservationPair, h.pair, ok_bind,
    h.values, ok_bind]
  simp only [h.expiresAt, Option.elim_some, ok_bind, hashingReservationId]
  have htrap : ctx.trap [intent.quantity * price] = .ok () :=
    DecimalContext.trap_eq_ok.mpr (List.forall_mem_singleton.mpr hfinite)
  rw [@CapitalReservation.validateReservationId_eq_ok _ () |>.mpr hwithin, ok_bind, htrap, ok_bind]

theorem validate_of_notional_nonpos {r : CapitalReservation}
    (hwithin : TextWithin reservationIdMaxLength r.reservationId) (hquantity : 0 < r.quantity)
    (hnotional : r.notional ≤ 0) :
    r.validate = .error (riskConfigurationError "capital reservation notional must be positive") := by
  have hid : validateReservationId r.reservationId = .ok () :=
    CapitalReservation.validateReservationId_eq_ok.mpr hwithin
  rw [CapitalReservation.validate, hid, ok_bind, raiseIf_bind_of_not (not_le.mpr hquantity),
    raiseIf_bind_of hnotional]

/-- The context has the notional of an order at this price: it is neither rounded to zero nor too large. -/
structure HasNotional (ctx : DecimalContext) (intent : OrderIntent) (price : ℚ) : Prop where
  positive : 0 < ctx.mul intent.quantity price
  finite : ctx.overflows (intent.quantity * price) = false

/-- A reservation has a positive notional, so that it exists where the context has one. -/
theorem ApprovedAt.reservation (h : ApprovedAt d intent context ttl price) (hpos : 0 < ttl) {ctx : DecimalContext}
    (hnotional : HasNotional ctx intent price) (sha : Sha256) (content : ApprovalContent (ExchangeName × Currency))
    (exchange : ExchangeName) (accountId : AccountId)
    (currency : Currency) : ∃ reservationId,
      buildCapitalReservation ctx sha content intent d exchange accountId currency =
        .ok (CapitalReservationFactory.reservation ctx reservationId intent d exchange accountId currency
          intent.quantity price (context.evaluatedAt + ttl)) := by
  obtain ⟨reservationId, hwithin, hbuild⟩ :=
    h.build_reservation hnotional.finite sha content exchange accountId currency
  refine ⟨reservationId, hbuild.trans (CapitalReservation.Valid.validate ?_)⟩
  have hwindow : d.evaluatedAt < context.evaluatedAt + ttl := by
    rw [h.evaluatedAt]
    exact lt_add_of_pos_right _ hpos
  refine ⟨hwithin, intent.quantity_pos, hnotional.positive, hwindow, fun _ => rfl, ?_, ?_⟩
  · intro hclosed
    exact absurd rfl hclosed
  · rintro t ⟨⟩

/-! ## The two builders on an approval -/

/-- An order of the intent and a reservation for it, with the window of the decision. -/
structure Executable (ctx : DecimalContext) (intent : OrderIntent) (price : ℚ) (evaluatedAt : UTCDateTime)
    (ttl : Timedelta) (order : ApprovedOrder) (reservation : CapitalReservation) : Prop where
  order_intentId : order.intentId = intent.intentId
  order_quantity : order.quantity ≤ intent.quantity
  order_limitPrice : order.limitPrice = intent.limitPrice
  order_approvedAt : order.approvedAt = evaluatedAt
  order_expiresAt : order.approvalExpiresAt = some (evaluatedAt + ttl)
  reservation_intentId : reservation.intentId = intent.intentId
  reservation_quantity : reservation.quantity = order.quantity
  reservation_notional : reservation.notional = ctx.mul order.quantity price
  reservation_createdAt : reservation.createdAt = evaluatedAt
  reservation_expiresAt : reservation.expiresAt = evaluatedAt + ttl

/-- **Approved decisions can be executed.** What an engine with a ttl approves at a price whose notional the context
    has, both builders accept, on every exchange and account and in every currency. -/
theorem approved_executable (sha : Sha256) (content : ApprovalContent String)
    (reservationContent : ApprovalContent (ExchangeName × Currency)) (g : HashingApprovedOrderReferenceGenerator)
    (httl : engine.approvalTtl = some ttl) (h : engine.evaluate intent context inputSnapshotId = .ok d)
    (happroved : d.status = .approved)
    (hnotional : ∀ price ∈ intent.limitPrice, HasNotional defaultContext intent price)
    (exchange : ExchangeName) (accountId : AccountId) (currency : Currency) :
    ∃ price order reservation, intent.limitPrice = some price ∧
      buildApprovedOrder sha content g intent d exchange.value accountId = .ok order ∧
      buildCapitalReservation defaultContext sha reservationContent intent d exchange accountId currency =
        .ok reservation ∧
      Executable defaultContext intent price context.evaluatedAt ttl order reservation := by
  have hpos := engine.approvalTtl_pos ttl httl
  obtain ⟨price, hat⟩ := approvedAt_of_evaluate httl h happroved
  have hexchange : TextWithin 64 exchange.value := by
    cases exchange with
    | kalshi => exact .ofList (by decide)
    | polymarket => exact .ofList (by decide)
  obtain ⟨references, horder⟩ := hat.order hpos sha content g hexchange accountId
  obtain ⟨reservationId, hreservation⟩ :=
    hat.reservation hpos (hnotional price hat.intent_price) sha reservationContent exchange accountId
      currency
  refine ⟨price, _, _, hat.intent_price, horder, hreservation, ?_⟩
  exact ⟨rfl, le_rfl, hat.intent_price.symm, hat.evaluatedAt, hat.expiresAt, rfl, rfl, rfl, hat.evaluatedAt, rfl⟩

/-! ## A concrete approval -/

theorem pmrp_within : TextWithin referencePrefixMaxLength "pmrp" := .ofList (by decide)
theorem approvedOrder_within : TextWithin referencePrefixMaxLength "approved-order" := .ofList (by decide)

def defaultReferences : HashingApprovedOrderReferenceGenerator where
  clientOrderPrefix_within := pmrp_within
  idempotencyPrefix_within := approvedOrder_within

def makerAccount : AccountId := ⟨"acct_maker", by decide⟩
def makerCurrency : Currency := ⟨"NOK", by decide⟩

/-- The enabled rule approves whatever has a price and comes from the enabled strategy. -/
theorem enabledRule_approves {intent : OrderIntent} {price : ℚ} (hprice : intent.limitPrice = some price) :
    ∃ (engine : RiskEngine) (d : RiskDecision), engine.approvalTtl = some 1000000 ∧
      engine.evaluate intent enabledContext "snapshot" = .ok d ∧ d.status = .approved := by
  obtain ⟨engine, hengine⟩ := configured_enabledRule none (by decide)
  have happrovable : Approvable [enabledRule] intent enabledContext := by
    refine ⟨price, hprice, fun rule hrule => ?_⟩
    obtain rfl := List.mem_singleton.mp hrule
    exact ⟨⟨true, 5⟩, rfl, by decide, rfl⟩
  have hdecides : engine.Decides [enabledRule] intent enabledContext "snapshot" := by
    refine (decides_iff hengine (by decide)).mpr ⟨?_, fun _ => ?_⟩
    · rintro hash ⟨⟩
    · rintro ttl ⟨⟩
      constructor <;> simp [enabledContext, maxDatetime]
  obtain ⟨d, hd, hstatus, -, -⟩ := hdecides
  exact ⟨engine, d, (create_eq_ok hengine).2.1, hd, hstatus.mpr happrovable⟩

theorem approved_executable_quoteTwo : ∃ price order reservation, quoteTwo.limitPrice = some price ∧
    Executable defaultContext quoteTwo price enabledContext.evaluatedAt 1000000 order reservation := by
  obtain ⟨engine, d, httl, hd, happroved⟩ := @enabledRule_approves quoteTwo _ rfl
  -- two at a half make one
  have hone : Written (2 * (1 / 2)) := by
    have h := written_shortDecimal 1 0 (by norm_num) (by decide) (by decide)
    norm_num at h ⊢
    exact h
  have hnotional : ∀ price ∈ quoteTwo.limitPrice, HasNotional defaultContext quoteTwo price := by
    rintro price ⟨⟩
    exact ⟨one_pos.trans_eq ((by norm_num : (1 : ℚ) = 2 * (1 / 2)).trans (round_eq_of_written hone).symm),
      not_overflows_of_written hone⟩
  obtain ⟨price, order, reservation, hsome, -, -, hexecutable⟩ :=
    approved_executable .constant (fun _ _ _ _ => .null) (fun _ _ _ _ => .null) defaultReferences httl hd
      happroved hnotional .kalshi makerAccount makerCurrency
  exact ⟨price, order, reservation, hsome, hexecutable⟩

theorem gift_pos : (0 : ℚ) < 2 := two_pos
theorem gift_nonneg : (0 : ℚ) ≤ 0 := le_rfl

theorem gift_expires : ∀ t ∈ some (7 : UTCDateTime), 0 < t := by
  rintro t ⟨⟩
  decide

/-- An offer of 2 at a price of zero that expired before the concrete context was captured. -/
def expiredGift : OrderIntent :=
  { quote ⟨"intent_gift", by decide⟩ .sell 2 0 gift_pos gift_nonneg with
    expiresAt := some 7
    expires_after_creation := gift_expires }

/-- **An approval without a reservation, of an intent that has expired.** The engine approves the gift, the order is
    built with a window that starts after the expiry of the intent, and the reservation is refused. -/
theorem expiredGift_approved : ∃ (engine : RiskEngine) (d : RiskDecision) (order : ApprovedOrder),
    engine.approvalTtl = some 1000000 ∧
    engine.evaluate expiredGift enabledContext "snapshot" = .ok d ∧ d.status = .approved ∧
    buildApprovedOrder .constant (fun _ _ _ _ => .null) defaultReferences expiredGift d ExchangeName.kalshi.value
      makerAccount = .ok order ∧
    expiredGift.expiresAt = some 7 ∧ 7 < order.approvedAt ∧
    buildCapitalReservation defaultContext .constant (fun _ _ _ _ => .null) expiredGift d .kalshi makerAccount
      makerCurrency = .error (riskConfigurationError "capital reservation notional must be positive") := by
  obtain ⟨engine, d, httl, hd, happroved⟩ := @enabledRule_approves expiredGift _ rfl
  obtain ⟨price, hat⟩ := approvedAt_of_evaluate httl hd happroved
  obtain rfl : (0 : ℚ) = price := Option.some_inj.mp hat.intent_price
  have hpos : (0 : ℤ) < 1000000 := by decide
  have hexchange : TextWithin 64 ExchangeName.kalshi.value := .ofList (by decide)
  obtain ⟨references, horder⟩ := hat.order hpos .constant (fun _ _ _ _ => .null) defaultReferences hexchange
    makerAccount
  have hfinite : defaultContext.overflows (expiredGift.quantity * 0) = false := by
    have h := written_shortDecimal 0 0 (by norm_num) (by decide) (by decide)
    rw [Int.cast_zero, zero_mul] at h
    rw [mul_zero]
    exact not_overflows_of_written h
  obtain ⟨reservationId, hwithin, hbuild⟩ := hat.build_reservation hfinite .constant
    (fun _ _ _ _ => .null) .kalshi makerAccount makerCurrency
  refine ⟨engine, d, _, httl, hd, happroved, horder, rfl, ?_, ?_⟩
  · show (7 : ℤ) < d.evaluatedAt
    rw [hat.evaluatedAt]
    decide
  · refine hbuild.trans (validate_of_notional_nonpos hwithin expiredGift.quantity_pos ?_)
    show defaultContext.mul expiredGift.quantity 0 ≤ 0
    rw [DecimalContext.mul, mul_zero, DecimalContext.round_zero]

end RiskEngine
end Pmrp
