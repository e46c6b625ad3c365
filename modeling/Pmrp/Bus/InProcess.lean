import Mathlib.Data.String.Basic
import Mathlib.Logic.Function.Basic
import Pmrp.Bus.Subscription
import Pmrp.Lib.StableSort
import Pmrp.Schemas.Primitives

/-!
# `Bus.InProcess` — the in-process event bus

`InProcessEventBus` of `bus/in_process.py`. Nothing under the publish lock waits, so a call of `publish`, `subscribe`
or `close` is one step, and so is a consumer's `__anext__` from the moment an item is there.

Subscriptions are objects that outlive their registration: a consumer drains what it was given after the bus has
forgotten it. They are numbered in the order of their creation. The class of an event and the market it belongs to
are parameters.
-/

namespace Pmrp

structure InProcessEventBus (E τ : Type) where
  defaultQueueSize : ℕ
  deterministic : Bool
  /-- Every subscription that was made, by number. -/
  objects : ℕ → Option (QueuedEventSubscription E τ) := fun _ => none
  created : ℕ := 0
  /-- `_subscriptions`, in insertion order. -/
  subscriptions : List (String × ℕ) := []
  closed : Bool := false
  publishedEvents : ℕ := 0
  deliveredEvents : ℕ := 0
  backpressureEvents : ℕ := 0
  lastDeliveryOrder : List String := []
  defaultQueueSize_pos : 1 ≤ defaultQueueSize

namespace InProcessEventBus

variable {E τ : Type} (isInstance : E → τ → Bool) (marketId : E → Option String)

def setObject (bus : InProcessEventBus E τ) (n : ℕ) (s : QueuedEventSubscription E τ) : InProcessEventBus E τ :=
  { bus with objects := Function.update bus.objects n (some s) }

/-! ## Publishing -/

/-- `_event_partition_key`. -/
def eventPartitionKey (event : E) (explicitPartitionKey : Option String) : Option String :=
  match explicitPartitionKey with
  | some key => some key
  | none => marketId event

/-- The filter of a subscription. -/
def Accepts (eventType : τ) (partitionKey : Option String) (event : E) (eventKey : Option String) : Bool :=
  isInstance event eventType && (partitionKey.isNone || partitionKey == eventKey)

/-- `_ordered_subscriptions`. Consumer names are unique, so the rest of the sort key decides nothing. -/
def orderedSubscriptions (bus : InProcessEventBus E τ) : List ℕ :=
  if bus.deterministic then (sortByKey Prod.fst bus.subscriptions).map Prod.snd else bus.subscriptions.map Prod.snd

/-- `_matching_subscriptions`. -/
def matchingSubscriptions (bus : InProcessEventBus E τ) (event : E) (eventKey : Option String) : List ℕ :=
  bus.orderedSubscriptions.filter fun n =>
    (bus.objects n).any fun s => !s.closed && Accepts isInstance s.eventType s.partitionKey event eventKey

def names (bus : InProcessEventBus E τ) (ns : List ℕ) : List String :=
  ns.filterMap fun n => (bus.objects n).map (·.consumerName)

/-- The delivery loop. A subscription that raises stops it, and the ones before have their event. -/
def deliver (event : E) : List ℕ → InProcessEventBus E τ → Except EventBusError Unit × InProcessEventBus E τ
  | [], bus => (.ok ⟨⟩, bus)
  | n :: ns, bus =>
      match bus.objects n with
      | none => deliver event ns bus
      | some s =>
          match s.publishNowait event with
          | .error e => (.error e, bus)
          | .ok s => deliver event ns (bus.setObject n s)

def publish (bus : InProcessEventBus E τ) (event : E) (partitionKey : Option String) :
    Except EventBusError Unit × InProcessEventBus E τ :=
  if bus.closed then (.error (.closed "event bus is closed"), bus)
  else
    let matching := bus.matchingSubscriptions isInstance event (eventPartitionKey marketId event partitionKey)
    let fullSubscriptions := matching.filter fun n => (bus.objects n).any (·.full)
    if fullSubscriptions ≠ [] then
      (.error (.backpressure (bus.names fullSubscriptions)),
        { bus with backpressureEvents := bus.backpressureEvents + 1 })
    else
      match deliver event matching bus with
      | (.error e, bus) => (.error e, bus)
      | (.ok _, bus) =>
          (.ok ⟨⟩, { bus with
            publishedEvents := bus.publishedEvents + 1
            deliveredEvents := bus.deliveredEvents + matching.length
            lastDeliveryOrder := bus.names matching })

/-! ## Subscribing -/

/-- The subscription that `subscribe` makes, after its checks. -/
def newSubscription (bus : InProcessEventBus E τ) (eventType : τ) (consumerName : String)
    (partitionKey : Option String) (queueSize : Option ℤ) : Except EventBusError (QueuedEventSubscription E τ) := do
  raiseIf (bus.closed = true) (.closed "event bus is closed")
  -- `_validate_consumer_name`
  raiseIf (consumerName = "" ∨ isStripped consumerName = false)
    (.invalidConsumerName "consumer_name must be nonempty without surrounding whitespace")
  raiseIf (consumerName ∈ bus.subscriptions.map Prod.fst)
    (.duplicateConsumer s!"consumer is already registered: {consumerName}")
  match queueSize with
  | none =>
      pure { eventType, consumerName, partitionKey, queueSize := bus.defaultQueueSize
             queueSize_pos := bus.defaultQueueSize_pos }
  | some size =>
      if h : 1 ≤ size.toNat then
        pure { eventType, consumerName, partitionKey, queueSize := size.toNat, queueSize_pos := h }
      else .error (.invalidQueueSize "queue_size must be positive")

def subscribe (bus : InProcessEventBus E τ) (eventType : τ) (consumerName : String) (partitionKey : Option String)
    (queueSize : Option ℤ) : Except EventBusError ℕ × InProcessEventBus E τ :=
  match bus.newSubscription eventType consumerName partitionKey queueSize with
  | .error e => (.error e, bus)
  | .ok s =>
      (.ok bus.created, { bus.setObject bus.created s with
        created := bus.created + 1, subscriptions := bus.subscriptions ++ [(consumerName, bus.created)] })

/-! ## Closing and receiving -/

/-- `close` of the subscription with this number, with `_remove_subscription` as its callback. -/
def closeSubscription (bus : InProcessEventBus E τ) (n : ℕ) : Except EventBusError Unit × InProcessEventBus E τ :=
  match bus.objects n with
  | none => (.ok ⟨⟩, bus)
  | some s =>
      match s.close with
      | (.error e, s) => (.error e, bus.setObject n s)
      | (.ok false, _) => (.ok ⟨⟩, bus)
      | (.ok true, s) =>
          (.ok ⟨⟩, { bus.setObject n s with
            subscriptions := bus.subscriptions.filter fun entry => entry.1 ≠ s.consumerName })

def closeSubscriptions : List ℕ → InProcessEventBus E τ → Except EventBusError Unit × InProcessEventBus E τ
  | [], bus => (.ok ⟨⟩, bus)
  | n :: ns, bus =>
      match bus.closeSubscription n with
      | (.error e, bus) => (.error e, bus)
      | (.ok _, bus) => closeSubscriptions ns bus

/-- `close` of the bus, as far as it concerns subscriptions. -/
def close (bus : InProcessEventBus E τ) : Except EventBusError Unit × InProcessEventBus E τ :=
  if bus.closed then (.ok ⟨⟩, bus)
  else closeSubscriptions (bus.subscriptions.map Prod.snd) { bus with closed := true }

/-- A consumer's `__anext__`; none while it waits. -/
def receive (bus : InProcessEventBus E τ) (n : ℕ) :
    Option (QueuedEventSubscription.Received E × InProcessEventBus E τ) :=
  (bus.objects n).bind fun s => s.next.map fun received => (received.1, bus.setObject n received.2)

end InProcessEventBus
end Pmrp
