import Pmrp.Schemas.Orders
import Pmrp.Schemas.Risk

/-!
# `Risk.Approvals` — the order and the reservation that an approval authorizes

`risk/approvals.py` and `risk/reservations.py`. Both factories take an intent with a decision on it, check that the
decision approves this intent, and build their record from the approved quantity and price. The identifiers come
from generators, which are parameters. The ones the source ships hash the content of the approval, in which a
decimal stands as its text; that content is a parameter of theirs.

- `ApprovedOrderFactory.build_eq_ok` and `CapitalReservationFactory.build_eq_ok` say what a record that was built is.
-/

namespace Pmrp

/-! ## The pair of an intent and a decision -/

/-- `_validate_approval_pair` and `_validate_reservation_pair`, which differ in the name of what is built. -/
def validateDecisionPair (construction : String) (intent : OrderIntent) (decision : RiskDecision) : Result Unit := do
  raiseIf (decision.status ≠ .approved)
    (riskInputError s!"{construction} construction requires an approved risk decision")
  raiseIf (decision.intentId ≠ intent.intentId) (riskInputError "risk decision intent_id must match order intent")
  raiseIf (decision.correlationId ≠ intent.correlationId)
    (riskInputError "risk decision correlation_id must match order intent")
  raiseIf (decision.approvedQuantity = none ∨ decision.approvedLimitPrice = none)
    (riskInputError "approved risk decision requires quantity and limit price")
  raiseIf (∃ quantity ∈ decision.approvedQuantity, intent.quantity < quantity)
    (riskInputError "approved quantity cannot exceed requested intent quantity")

def validateApprovalPair : OrderIntent → RiskDecision → Result Unit := validateDecisionPair "approved order"

def validateReservationPair : OrderIntent → RiskDecision → Result Unit := validateDecisionPair "capital reservation"

/-- `_approved_order_values` and `_approved_reservation_values`. -/
def approvedValues (decision : RiskDecision) : Result (ℚ × ℚ) :=
  match decision.approvedQuantity, decision.approvedLimitPrice with
  | some quantity, some limitPrice => .ok (quantity, limitPrice)
  | _, _ => .error (riskInputError "approved risk decision requires quantity and limit price")

/-- The decision approves this intent. -/
structure Approves (decision : RiskDecision) (intent : OrderIntent) : Prop where
  status : decision.status = .approved
  intentId : decision.intentId = intent.intentId
  correlationId : decision.correlationId = intent.correlationId

theorem approves_of_validateDecisionPair {construction : String} {intent : OrderIntent} {decision : RiskDecision}
    {u : Unit} (h : validateDecisionPair construction intent decision = .ok u) : Approves decision intent := by
  simp only [validateDecisionPair, bind_eq_ok, raiseIf_eq_ok, exists_const, not_not] at h
  obtain ⟨hstatus, hintent, hcorrelation, -, -⟩ := h
  exact ⟨hstatus, hintent, hcorrelation⟩

theorem approvedValues_eq_ok {decision : RiskDecision} {quantity limitPrice : ℚ} :
    approvedValues decision = .ok (quantity, limitPrice) ↔
      decision.approvedQuantity = some quantity ∧ decision.approvedLimitPrice = some limitPrice := by
  unfold approvedValues
  split
  · rename_i q p hq hp
    rw [hq, hp]
    simp
  · rename_i hnone
    constructor
    · intro h
      cases h
    · rintro ⟨hq, hp⟩
      exact (hnone _ _ hq hp).elim

/-! ## Approved orders -/

structure ApprovedOrderReferences where
  orderId : OrderId
  clientOrderId : String
  idempotencyKey : String
  clientOrderId_within : TextWithin 256 clientOrderId
  idempotencyKey_within : TextWithin 256 idempotencyKey

/-- `references(intent=…, decision=…, exchange=…, account_id=…)`. -/
abbrev ApprovedOrderReferenceGenerator :=
  OrderIntent → RiskDecision → String → AccountId → Result ApprovedOrderReferences

structure ApprovedOrderFactory where
  referenceGenerator : ApprovedOrderReferenceGenerator

/-- `_validate_exchange`. -/
def validateExchange (exchange : String) : Result Unit := do
  raiseIf (exchange = "") (riskInputError "approved order exchange must not be empty")
  raiseIf (64 < exchange.length) (riskInputError "approved order exchange must be at most 64 characters")

namespace ApprovedOrderFactory

/-- The order `build` builds. -/
def order (intent : OrderIntent) (decision : RiskDecision) (exchange : String) (accountId : AccountId)
    (quantity limitPrice : ℚ) (references : ApprovedOrderReferences) : ApprovedOrder where
  orderId := references.orderId
  intentId := intent.intentId
  strategyId := intent.strategyId
  riskDecisionId := decision.riskDecisionId
  exchange := exchange
  accountId := accountId
  marketId := intent.marketId
  contractId := intent.contractId
  outcomeId := intent.outcomeId
  side := intent.side
  quantity := quantity
  limitPrice := some limitPrice
  orderType := intent.orderType
  timeInForce := intent.timeInForce
  postOnly := intent.postOnly
  reduceOnly := intent.reduceOnly
  approvedAt := decision.evaluatedAt
  approvalExpiresAt := decision.approvalExpiresAt
  clientOrderId := references.clientOrderId
  idempotencyKey := references.idempotencyKey
  correlationId := intent.correlationId

def build (factory : ApprovedOrderFactory) (intent : OrderIntent) (decision : RiskDecision) (exchange : String)
    (accountId : AccountId) : Result ApprovedOrder := do
  validateApprovalPair intent decision
  validateExchange exchange
  let (quantity, limitPrice) ← approvedValues decision
  let references ← factory.referenceGenerator intent decision exchange accountId
  (order intent decision exchange accountId quantity limitPrice references).validate

theorem build_eq_ok {factory : ApprovedOrderFactory} {intent : OrderIntent} {decision : RiskDecision}
    {exchange : String} {accountId : AccountId} {built : ApprovedOrder}
    (h : factory.build intent decision exchange accountId = .ok built) :
    Approves decision intent ∧ ∃ quantity limitPrice references,
      decision.approvedQuantity = some quantity ∧ decision.approvedLimitPrice = some limitPrice ∧
      built = order intent decision exchange accountId quantity limitPrice references := by
  simp only [build, bind_eq_ok, Prod.exists] at h
  obtain ⟨_, hpair, -, -, quantity, limitPrice, hvalues, references, -, hvalid⟩ := h
  obtain ⟨hquantity, hprice⟩ := approvedValues_eq_ok.mp hvalues
  exact ⟨approves_of_validateDecisionPair hpair, quantity, limitPrice, references, hquantity, hprice,
    (ApprovedOrder.validate_eq_ok.mp hvalid).2⟩

end ApprovedOrderFactory

/-! ## Capital reservations -/

inductive CapitalReservationStatus
  | active
  | released
  | expired
  deriving DecidableEq, Repr

structure CapitalReservation where
  reservationId : String
  intentId : IntentId
  strategyId : StrategyId
  exchange : ExchangeName
  accountId : AccountId
  marketId : MarketId
  quantity : ℚ
  notional : ℚ
  currency : Currency
  status : CapitalReservationStatus
  createdAt : UTCDateTime
  expiresAt : UTCDateTime
  releasedAt : Option UTCDateTime := none
  deriving DecidableEq

def reservationIdMaxLength : ℕ := 128

/-- `_validate_reservation_id`. -/
def validateReservationId (reservationId : String) : Result Unit := do
  raiseIf (reservationId = "") (riskConfigurationError "capital reservation ID must not be empty")
  raiseIf (reservationIdMaxLength < reservationId.length)
    (riskConfigurationError "capital reservation ID must be at most 128 characters")

namespace CapitalReservation

structure Valid (r : CapitalReservation) : Prop where
  reservationId_within : TextWithin reservationIdMaxLength r.reservationId
  quantity_pos : 0 < r.quantity
  notional_pos : 0 < r.notional
  expires_after : r.createdAt < r.expiresAt
  active_open : r.status = .active → r.releasedAt = none
  released_closed : r.status ≠ .active → r.releasedAt ≠ none
  released_after : ∀ t ∈ r.releasedAt, r.createdAt ≤ t

/-- `__post_init__`. -/
def validate (r : CapitalReservation) : Result CapitalReservation := do
  validateReservationId r.reservationId
  raiseIf (r.quantity ≤ 0) (riskConfigurationError "capital reservation quantity must be positive")
  raiseIf (r.notional ≤ 0) (riskConfigurationError "capital reservation notional must be positive")
  raiseIf (r.expiresAt ≤ r.createdAt)
    (riskConfigurationError "capital reservation expires_at must be after created_at")
  raiseIf (r.status = .active ∧ r.releasedAt ≠ none)
    (riskConfigurationError "active capital reservation cannot have released_at")
  raiseIf (r.status ≠ .active ∧ r.releasedAt = none)
    (riskConfigurationError "released capital reservation requires released_at")
  raiseIf (¬∀ t ∈ r.releasedAt, r.createdAt ≤ t)
    (riskConfigurationError "capital reservation released_at cannot precede created_at")
  pure r

theorem validateReservationId_eq_ok {reservationId : String} {u : Unit} :
    validateReservationId reservationId = .ok u ↔ TextWithin reservationIdMaxLength reservationId := by
  simp only [validateReservationId, bind_eq_ok, raiseIf_eq_ok, exists_const, not_lt, TextWithin,
    Nat.one_le_iff_ne_zero, ne_eq, String.length_eq_zero_iff]

theorem validate_eq_ok {r built : CapitalReservation} : r.validate = .ok built ↔ r.Valid ∧ built = r := by
  simp only [validate, bind_eq_ok, validateReservationId_eq_ok, raiseIf_eq_ok, exists_const, pure_eq_ok, not_le,
    not_and, not_not]
  constructor
  · rintro ⟨h1, h2, h3, h4, h5, h6, h7, rfl⟩
    exact ⟨⟨h1, h2, h3, h4, h5, h6, h7⟩, rfl⟩
  · rintro ⟨⟨h1, h2, h3, h4, h5, h6, h7⟩, rfl⟩
    exact ⟨h1, h2, h3, h4, h5, h6, h7, rfl⟩

theorem Valid.validate {r : CapitalReservation} (h : r.Valid) : r.validate = .ok r := validate_eq_ok.mpr ⟨h, rfl⟩

end CapitalReservation

/-- `reservation_id(intent=…, decision=…, exchange=…, account_id=…, currency=…)`. -/
abbrev CapitalReservationIdGenerator :=
  OrderIntent → RiskDecision → ExchangeName → AccountId → Currency → Result String

structure CapitalReservationFactory where
  idGenerator : CapitalReservationIdGenerator

namespace CapitalReservationFactory

variable (ctx : DecimalContext)

/-- The reservation `build` builds. -/
def reservation (reservationId : String) (intent : OrderIntent) (decision : RiskDecision) (exchange : ExchangeName)
    (accountId : AccountId) (currency : Currency) (quantity limitPrice : ℚ) (expiresAt : UTCDateTime) :
    CapitalReservation where
  reservationId := reservationId
  intentId := intent.intentId
  strategyId := intent.strategyId
  exchange := exchange
  accountId := accountId
  marketId := intent.marketId
  quantity := quantity
  notional := ctx.mul quantity limitPrice
  currency := currency
  status := .active
  createdAt := decision.evaluatedAt
  expiresAt := expiresAt

def build (factory : CapitalReservationFactory) (intent : OrderIntent) (decision : RiskDecision)
    (exchange : ExchangeName) (accountId : AccountId) (currency : Currency) : Result CapitalReservation := do
  validateReservationPair intent decision
  let (quantity, limitPrice) ← approvedValues decision
  let expiresAt ← decision.approvalExpiresAt.elim
    (.error (riskInputError "capital reservation requires approval_expires_at")) .ok
  let reservationId ← factory.idGenerator intent decision exchange accountId currency
  validateReservationId reservationId
  ctx.trap [quantity * limitPrice]
  (reservation ctx reservationId intent decision exchange accountId currency quantity limitPrice expiresAt).validate

variable {ctx}

theorem build_eq_ok {factory : CapitalReservationFactory} {intent : OrderIntent} {decision : RiskDecision}
    {exchange : ExchangeName} {accountId : AccountId} {currency : Currency} {built : CapitalReservation}
    (h : factory.build ctx intent decision exchange accountId currency = .ok built) :
    Approves decision intent ∧ built.Valid ∧ ∃ reservationId quantity limitPrice expiresAt,
      decision.approvedQuantity = some quantity ∧ decision.approvedLimitPrice = some limitPrice ∧
      built = reservation ctx reservationId intent decision exchange accountId currency quantity limitPrice
        expiresAt := by
  simp only [build, bind_eq_ok, Prod.exists] at h
  obtain ⟨_, hpair, quantity, limitPrice, hvalues, expiresAt, -, reservationId, -, -, -, -, -, hvalid⟩ := h
  obtain ⟨hquantity, hprice⟩ := approvedValues_eq_ok.mp hvalues
  obtain ⟨hbuilt, rfl⟩ := CapitalReservation.validate_eq_ok.mp hvalid
  exact ⟨approves_of_validateDecisionPair hpair, hbuilt, reservationId, quantity, limitPrice, expiresAt,
    hquantity, hprice, rfl⟩

end CapitalReservationFactory

/-! ## The generators the source ships -/

/-- What the generators hash: the names, times and decimals of the approval, for an order on this exchange and
    account, or for a reservation in this currency. -/
abbrev ApprovalContent (Target : Type) := OrderIntent → RiskDecision → Target → AccountId → CanonicalData

/-- `digest[:48]`. -/
def referenceDigest (sha : Sha256) (value : CanonicalData) : String :=
  String.ofList ((sha.hexdigest value).toList.take 48)

theorem length_referenceDigest (sha : Sha256) (value : CanonicalData) :
    (referenceDigest sha value).length = 48 := by
  rw [referenceDigest, String.length_ofList, List.length_take, String.length_toList, sha.length_hexdigest]
  rfl

def referencePrefixMaxLength : ℕ := 64

/-- A reference is its prefix, a dash and 48 digits. -/
theorem reference_within (sha : Sha256) (value : CanonicalData) {s : String}
    (h : TextWithin referencePrefixMaxLength s) : TextWithin 256 (s ++ "-" ++ referenceDigest sha value) := by
  have hdash : "-".length = 1 := rfl
  obtain ⟨-, hmax⟩ := h
  unfold referencePrefixMaxLength at hmax
  unfold TextWithin
  rw [String.length_append, String.length_append, length_referenceDigest, hdash]
  omega

structure HashingApprovedOrderReferenceGenerator where
  clientOrderPrefix : String := "pmrp"
  idempotencyPrefix : String := "approved-order"
  clientOrderPrefix_within : TextWithin referencePrefixMaxLength clientOrderPrefix
  idempotencyPrefix_within : TextWithin referencePrefixMaxLength idempotencyPrefix

namespace HashingApprovedOrderReferenceGenerator

def references (sha : Sha256) (content : ApprovalContent String) (g : HashingApprovedOrderReferenceGenerator) :
    ApprovedOrderReferenceGenerator := fun intent decision exchange accountId =>
  let value := content intent decision exchange accountId
  .ok
    { orderId := ⟨"ord" ++ "_" ++ shortDigest sha value, isIdentifier_shortDigest sha "ord" rfl (by decide) value⟩
      clientOrderId := g.clientOrderPrefix ++ "-" ++ referenceDigest sha value
      idempotencyKey := g.idempotencyPrefix ++ "-" ++ referenceDigest sha value
      clientOrderId_within := reference_within sha value g.clientOrderPrefix_within
      idempotencyKey_within := reference_within sha value g.idempotencyPrefix_within }

end HashingApprovedOrderReferenceGenerator

/-- `HashingCapitalReservationIdGenerator`. -/
def hashingReservationId (sha : Sha256) (content : ApprovalContent (ExchangeName × Currency)) :
    CapitalReservationIdGenerator := fun intent decision exchange accountId currency =>
  .ok ("reserve_" ++ shortDigest sha (content intent decision (exchange, currency) accountId))

theorem hashingReservationId_within (sha : Sha256) (value : CanonicalData) :
    TextWithin reservationIdMaxLength ("reserve_" ++ shortDigest sha value) := by
  have hname : "reserve_".length = 8 := rfl
  unfold TextWithin reservationIdMaxLength
  rw [String.length_append, length_shortDigest, hname]
  omega

/-- `build_approved_order` with a hashing generator: the default one, or one with other texts before the digest. -/
def buildApprovedOrder (sha : Sha256) (content : ApprovalContent String)
    (g : HashingApprovedOrderReferenceGenerator) : OrderIntent → RiskDecision → String → AccountId →
      Result ApprovedOrder :=
  ApprovedOrderFactory.build ⟨g.references sha content⟩

/-- `build_capital_reservation` with its default generator. -/
def buildCapitalReservation (ctx : DecimalContext) (sha : Sha256)
    (content : ApprovalContent (ExchangeName × Currency)) : OrderIntent → RiskDecision → ExchangeName →
      AccountId → Currency → Result CapitalReservation :=
  CapitalReservationFactory.build ctx ⟨hashingReservationId sha content⟩

end Pmrp
