import Pmrp.Adapters.RateLimits
import Pmrp.Lib.Dictionary
import Pmrp.Schemas.Texts

/-!
# `Adapters.FixtureOrders` — the order calls of the adapter that plays fixtures

The calls of `adapters/fixture.py` that change the adapter: connections, streams, `list_markets`, `place_order` and
`cancel_order`, with the rate limit and the acknowledgements that are kept by idempotency key. A call comes with the
times that it reads from the clock.
-/

namespace Pmrp
namespace FixtureOrders

open Fixture RateLimits

/-! ## Requests and acknowledgements -/

/-- What `place_order` reads of the request. -/
structure ExchangeOrderRequest where
  orderId : OrderId
  clientOrderId : String
  exchange : String
  accountId : AccountId
  idempotencyKey : String

structure ExchangeOrderAcknowledgement where
  orderId : OrderId
  clientOrderId : String
  exchangeOrderId : String
  exchange : String
  accountId : AccountId
  accepted : Bool
  exchangeStatus : String
  acknowledgedAt : UTCDateTime
  exchangeOccurredAt : UTCDateTime
  deriving DecidableEq

/-- What `cancel_order` reads of the request. -/
structure CancelOrderRequest where
  cancelRequestId : String
  orderId : OrderId
  exchange : String
  accountId : AccountId
  idempotencyKey : String

structure CancelOrderAcknowledgement where
  cancelRequestId : String
  orderId : OrderId
  exchange : String
  accountId : AccountId
  accepted : Bool
  exchangeStatus : String
  acknowledgedAt : UTCDateTime
  deriving DecidableEq

/-- The times that a call reads, in order. -/
structure Readings where
  decidedAt : UTCDateTime
  acknowledgedAt : UTCDateTime
  exchangeOccurredAt : UTCDateTime

/-- The order's reference at the exchange is longer than the client's, and the model of the acknowledgement bounds both
    alike. -/
def acknowledgeOrder (request : ExchangeOrderRequest) (clock : Readings) : Result ExchangeOrderAcknowledgement := do
  let exchangeOrderId := s!"fixture-{request.clientOrderId}"
  checkText "exchange_order_id" 256 exchangeOrderId
  pure {
    orderId := request.orderId
    clientOrderId := request.clientOrderId
    exchangeOrderId
    exchange := request.exchange
    accountId := request.accountId
    accepted := true
    exchangeStatus := "accepted"
    acknowledgedAt := clock.acknowledgedAt
    exchangeOccurredAt := clock.exchangeOccurredAt }

def acknowledgeCancel (request : CancelOrderRequest) (clock : Readings) : Result CancelOrderAcknowledgement :=
  pure {
    cancelRequestId := request.cancelRequestId
    orderId := request.orderId
    exchange := request.exchange
    accountId := request.accountId
    accepted := true
    exchangeStatus := "cancelled"
    acknowledgedAt := clock.acknowledgedAt }

/-! ## The adapter -/

structure RateLimitContext where
  operation : String
  remainingBefore : String
  rateLimit : String
  deriving DecidableEq

/-- What a call raises, by the place where it does. An `AdapterError` comes as what its constructor makes of it. -/
inductive TradingRaised
  | early (raised : Raised)
  | ambiguousSubmission (requestId : Result String)
  | rateLimitInput (error : PyError)
  | rateLimited (context : Result RateLimitContext)
  | acknowledgement (error : PyError)

structure TradingAdapter where
  adapter : FixtureAdapter
  rateLimitRule : Option AdapterRateLimitRule
  rateLimitRemaining : Option ℤ
  lastRateLimitDecision : Option AdapterRateLimitDecision := none
  submittedOrders : List (String × ExchangeOrderAcknowledgement) := []
  cancelledOrders : List (String × CancelOrderAcknowledgement) := []

/-- The answer under a key: the one that is kept, or a new one that is kept from now on. -/
def once {A : Type} (kept : List (String × A)) (key : String) (make : Result A) : Result A × List (String × A) :=
  match Dictionary.lookup Prod.fst key kept with
  | some existing => (.ok existing.2, kept)
  | none =>
      match make with
      | .error e => (.error e, kept)
      | .ok answer => (.ok answer, Dictionary.insert Prod.fst (key, answer) kept)

namespace TradingAdapter

variable (s : TradingAdapter)

/-- An error of the adapter is made for its exchange, which the constructor checks. -/
def forExchange {α : Type} (made : Result α) : Result α := do
  raiseIf (¬IsStrippedText s.adapter.exchange) (valueError "exchange must be nonempty without surrounding whitespace")
  made

def rateLimitContext (operation : String) (decision : AdapterRateLimitDecision) : Result RateLimitContext := do
  let remainingBefore ← intText decision.remainingBefore
  let rateLimit ← intText decision.limit
  s.forExchange (pure { operation, remainingBefore, rateLimit })

def checkRateLimit (endpointCategory : AdapterEndpointCategory) (operation : String) (decidedAt : UTCDateTime) :
    Except TradingRaised Unit × TradingAdapter :=
  match s.rateLimitRule, s.rateLimitRemaining with
  | some rule, some remaining =>
      if rule.endpointCategory ≠ endpointCategory ∨ rule.operation ≠ operation then (.ok ⟨⟩, s)
      else
        match evaluateRateLimit rule remaining decidedAt none none with
        | .error e => (.error (.rateLimitInput e), s)
        | .ok decision =>
            if decision.allowed = true then
              (.ok ⟨⟩, { s with
                lastRateLimitDecision := some decision
                rateLimitRemaining := some decision.remainingAfter })
            else
              (.error (.rateLimited (s.rateLimitContext operation decision)),
                { s with lastRateLimitDecision := some decision })
  | _, _ => (.ok ⟨⟩, s)

/-- The checks of a call, and the rate limit behind them. -/
def passChecks (checks : Except TradingRaised Unit) (endpointCategory : AdapterEndpointCategory) (operation : String)
    (decidedAt : UTCDateTime) : Except TradingRaised Unit × TradingAdapter :=
  match checks with
  | .error raised => (.error raised, s)
  | .ok _ => s.checkRateLimit endpointCategory operation decidedAt

def listMarketsChecks (exchange : String) (environment : Environment) : Except TradingRaised Unit := do
  (s.adapter.ensureConnected .marketData).mapError .early
  (s.adapter.validateScope exchange environment).mapError .early
  (s.adapter.raiseConfiguredFailure .marketData "list_markets").mapError .early

def listMarkets (exchange : String) (environment : Environment) (clock : Readings) :
    Except TradingRaised Unit × TradingAdapter :=
  s.passChecks (s.listMarketsChecks exchange environment) .marketData "list_markets" clock.decidedAt

def placeOrderChecks (request : ExchangeOrderRequest) : Except TradingRaised Unit := do
  (s.adapter.ensureConnected .orders).mapError .early
  raiseIf (s.adapter.failureMode = some .ambiguousSubmission)
    (.ambiguousSubmission (s.forExchange do
      raiseIf (request.idempotencyKey = "" ∨ isStripped request.idempotencyKey = false)
        (valueError "request_id must be nonempty without surrounding whitespace")
      pure request.idempotencyKey))
  (s.adapter.raiseConfiguredFailure .orders "place_order").mapError .early

def placeOrder (request : ExchangeOrderRequest) (clock : Readings) :
    Except TradingRaised ExchangeOrderAcknowledgement × TradingAdapter :=
  match s.passChecks (s.placeOrderChecks request) .orders "place_order" clock.decidedAt with
  | (.error raised, s') => (.error raised, s')
  | (.ok _, s') =>
      let answer := once s'.submittedOrders request.idempotencyKey (acknowledgeOrder request clock)
      (answer.1.mapError .acknowledgement, { s' with submittedOrders := answer.2 })

def cancelOrderChecks : Except TradingRaised Unit := do
  (s.adapter.ensureConnected .orders).mapError .early
  (s.adapter.raiseConfiguredFailure .orders "cancel_order").mapError .early

def cancelOrder (request : CancelOrderRequest) (clock : Readings) :
    Except TradingRaised CancelOrderAcknowledgement × TradingAdapter :=
  match s.passChecks s.cancelOrderChecks .orders "cancel_order" clock.decidedAt with
  | (.error raised, s') => (.error raised, s')
  | (.ok _, s') =>
      let answer := once s'.cancelledOrders request.idempotencyKey (acknowledgeCancel request clock)
      (answer.1.mapError .acknowledgement, { s' with cancelledOrders := answer.2 })

/-! ## Runs -/

inductive Operation
  | connect
  | disconnect
  | subscribeMarketData (subscriptions : List MarketSubscription)
  | listMarkets (exchange : String) (environment : Environment) (clock : Readings)
  | placeOrder (request : ExchangeOrderRequest) (clock : Readings)
  | cancelOrder (request : CancelOrderRequest) (clock : Readings)

inductive Outcome
  | done
  | order (acknowledgement : ExchangeOrderAcknowledgement)
  | cancel (acknowledgement : CancelOrderAcknowledgement)
  | raised (raised : TradingRaised)

def Outcome.of {α : Type} (answer : α → Outcome) : Except TradingRaised α → Outcome
  | .ok a => answer a
  | .error e => .raised e

/-- One call, run to its end. -/
def step : Operation → Outcome × TradingAdapter
  | .connect =>
      match s.adapter.connect with
      | .ok adapter => (.done, { s with adapter })
      | .error raised => (.raised (.early raised), s)
  | .disconnect => (.done, { s with adapter := s.adapter.disconnect })
  | .subscribeMarketData subscriptions =>
      let stream := s.adapter.subscribeMarketData subscriptions
      (stream.raised.elim .done fun raised => .raised (.early raised), { s with adapter := stream.adapter })
  | .listMarkets exchange environment clock =>
      let result := s.listMarkets exchange environment clock
      (Outcome.of (fun _ => .done) result.1, result.2)
  | .placeOrder request clock =>
      let result := s.placeOrder request clock
      (Outcome.of .order result.1, result.2)
  | .cancelOrder request clock =>
      let result := s.cancelOrder request clock
      (Outcome.of .cancel result.1, result.2)

/-- The calls one after the other: what each of them gives, and the adapter then. -/
def run : TradingAdapter → List Operation → List (Operation × Outcome) × TradingAdapter
  | s, [] => ([], s)
  | s, operation :: operations =>
      ((operation, (s.step operation).1) :: (run (s.step operation).2 operations).1,
        (run (s.step operation).2 operations).2)

end TradingAdapter
end FixtureOrders
end Pmrp
