import Pmrp.Schemas.Primitives

/-!
# `Adapters.Fixture` — the adapter that plays fixtures

The connection and the market-data stream of `adapters/fixture.py`, with the errors of `adapters/base/errors.py` that
they raise. A stream is an asynchronous generator: here, what it yields, and what it raises after that.
-/

namespace Pmrp
namespace Fixture

inductive Environment
  | «local»
  | test
  | development
  | staging
  | shadow
  | production
  deriving DecidableEq

inductive AdapterEndpointCategory
  | account
  | authentication
  | health
  | marketData
  | orders
  | stream
  | unknown
  deriving DecidableEq

inductive AdapterErrorClass
  | adapterAuthenticationError
  | adapterTimeoutError
  | adapterProtocolError
  | adapterSequenceGapError
  deriving DecidableEq

structure AdapterError where
  cls : AdapterErrorClass
  safeMessage : String
  exchange : String
  endpointCategory : AdapterEndpointCategory
  retryable : Bool
  deriving DecidableEq

/-- What is raised: an `AdapterError`, or what its constructor raises. -/
inductive Raised
  | adapterError (error : AdapterError)
  | pyError (error : PyError)
  deriving DecidableEq

/-- Raising an `AdapterError`. -/
def raiseAdapterError (cls : AdapterErrorClass) (safeMessage exchange : String)
    (endpointCategory : AdapterEndpointCategory) (retryable : Bool) : Raised :=
  if IsStrippedText exchange then .adapterError { cls, safeMessage, exchange, endpointCategory, retryable }
  else .pyError (valueError "exchange must be nonempty without surrounding whitespace")

/-- The record, as far as the stream reads it, and its identifier. -/
structure RawExchangeEvent where
  rawRecordId : String
  sequence : Option ℕ
  deriving DecidableEq

structure MarketSubscription where
  exchange : String
  environment : Environment
  exchange_text : IsStrippedText exchange

inductive FixtureAdapterFailureMode
  | authentication
  | ambiguousSubmission
  | malformedPayload
  | sequenceGap
  | timeout
  deriving DecidableEq

structure FixtureAdapter where
  exchange : String
  environment : Environment
  failureMode : Option FixtureAdapterFailureMode
  connected : Bool
  authenticated : Bool
  subscriptionsActive : Bool
  streamEvents : List RawExchangeEvent

namespace FixtureAdapter

variable (adapter : FixtureAdapter)

/-! ## Connections -/

def connect : Except Raised FixtureAdapter :=
  if adapter.failureMode = some .authentication then
    .error (raiseAdapterError .adapterAuthenticationError "fixture adapter authentication failed" adapter.exchange
      .authentication false)
  else .ok { adapter with connected := true, authenticated := true }

def disconnect : FixtureAdapter :=
  { adapter with connected := false, authenticated := false, subscriptionsActive := false }

def ensureConnected (endpointCategory : AdapterEndpointCategory) : Except Raised Unit :=
  if adapter.connected = false ∨ adapter.authenticated = false then
    .error (raiseAdapterError .adapterProtocolError "fixture adapter is not connected" adapter.exchange
      endpointCategory false)
  else .ok ()

def validateScope (exchange : String) (environment : Environment) : Except Raised Unit :=
  if exchange ≠ adapter.exchange ∨ environment ≠ adapter.environment then
    .error (raiseAdapterError .adapterProtocolError "fixture adapter request scope does not match adapter scope"
      adapter.exchange .unknown false)
  else .ok ()

def raiseConfiguredFailure (endpointCategory : AdapterEndpointCategory) (operation : String) : Except Raised Unit :=
  if adapter.failureMode = some .timeout then
    .error (raiseAdapterError .adapterTimeoutError s!"fixture adapter timed out during {operation}" adapter.exchange
      endpointCategory true)
  else if adapter.failureMode = some .malformedPayload then
    .error (raiseAdapterError .adapterProtocolError s!"fixture adapter malformed payload during {operation}"
      adapter.exchange endpointCategory false)
  else .ok ()

/-! ## The stream -/

/-- What a stream yields, what it raises after that, and the adapter then. -/
structure StreamRun where
  yields : List RawExchangeEvent
  raised : Option Raised
  adapter : FixtureAdapter

def sequenceGapError : Raised :=
  raiseAdapterError .adapterSequenceGapError "fixture adapter sequence gap detected" adapter.exchange .stream false

/-- `event.sequence != previous_sequence + 1`, where both are given. -/
def isGap (previousSequence : Option ℕ) (event : RawExchangeEvent) : Bool :=
  match previousSequence, event.sequence with
  | some previous, some sequence => sequence != previous + 1
  | _, _ => false

/-- The loop over the events. -/
def streamLoop : Option ℕ → List RawExchangeEvent → List RawExchangeEvent × Option Raised
  | _, [] => ([], none)
  | previousSequence, event :: events =>
      if adapter.failureMode = some .sequenceGap then ([], some adapter.sequenceGapError)
      else if isGap previousSequence event then ([], some adapter.sequenceGapError)
      else
        let rest := streamLoop event.sequence events
        (event :: rest.1, rest.2)

/-- What `event_stream` checks before it yields anything. -/
def openStream (subscriptions : List MarketSubscription) : Except Raised Unit := do
  adapter.ensureConnected .stream
  adapter.raiseConfiguredFailure .stream "subscribe_market_data"
  if subscriptions = [] then
    throw (raiseAdapterError .adapterProtocolError "fixture adapter requires at least one market-data subscription"
      adapter.exchange .stream false)
  subscriptions.forM fun subscription => adapter.validateScope subscription.exchange subscription.environment

/-- The stream of `subscribe_market_data`, run to its end. -/
def subscribeMarketData (subscriptions : List MarketSubscription) : StreamRun :=
  match adapter.openStream subscriptions with
  | .error raised => { yields := [], raised := some raised, adapter }
  | .ok () =>
      let run := adapter.streamLoop none adapter.streamEvents
      { yields := run.1, raised := run.2, adapter := { adapter with subscriptionsActive := true } }

/-! ## Accepted subscriptions -/

/-- The subscription is for the adapter's exchange and environment. -/
def InScope (subscription : MarketSubscription) : Prop :=
  subscription.exchange = adapter.exchange ∧ subscription.environment = adapter.environment

variable {adapter}

theorem validateScope_of_inScope {subscription : MarketSubscription} (h : adapter.InScope subscription) :
    adapter.validateScope subscription.exchange subscription.environment = .ok () := by
  unfold validateScope
  rw [if_neg]
  rintro (hexchange | henvironment)
  · exact hexchange h.1
  · exact henvironment h.2

theorem openStream_ok {subscriptions : List MarketSubscription} (hconnected : adapter.connected = true)
    (hauthenticated : adapter.authenticated = true) (hmode : adapter.failureMode = none) (hne : subscriptions ≠ [])
    (hscope : ∀ subscription ∈ subscriptions, adapter.InScope subscription) :
    adapter.openStream subscriptions = .ok () := by
  have hforM : ∀ rest : List MarketSubscription, (∀ subscription ∈ rest, adapter.InScope subscription) →
      (rest.forM fun subscription => adapter.validateScope subscription.exchange subscription.environment) =
        .ok () := by
    intro rest
    induction rest with
    | nil => intro _; rfl
    | cons subscription rest ih =>
        intro hrest
        rw [List.forall_mem_cons] at hrest
        show (adapter.validateScope subscription.exchange subscription.environment >>= fun _ => rest.forM _) = .ok ()
        rw [validateScope_of_inScope hrest.1]
        exact ih hrest.2
  unfold openStream ensureConnected raiseConfiguredFailure
  simp only [hconnected, hauthenticated, hmode, hne]
  exact hforM subscriptions hscope

end FixtureAdapter
end Fixture
end Pmrp
