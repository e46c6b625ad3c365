import Mathlib.Data.Int.Notation
import Mathlib.Data.List.Basic
import Pmrp.Lib.Outcome

/-!
# `Bus.Subscription` — bounded FIFO subscriptions

`QueuedEventSubscription` of `bus/subscription.py`, over any type of events and of event types. The queue has one
place more than the subscription admits events, for the marker that ends the stream.
-/

namespace Pmrp

/-- The exceptions of `bus/errors.py`, `asyncio.QueueFull` and the `ValueError` of a consumer name. -/
inductive EventBusError
  | closed (message : String)
  | backpressure (consumerNames : List String)
  | duplicateConsumer (message : String)
  | invalidQueueSize (message : String)
  | invalidConsumerName (message : String)
  | queueFull
  deriving DecidableEq, Repr

inductive QueueItem (E : Type)
  | event (event : E)
  | closed
  deriving DecidableEq, Repr

structure QueuedEventSubscription (E τ : Type) where
  eventType : τ
  consumerName : String
  partitionKey : Option String
  queueSize : ℕ
  queue : List (QueueItem E) := []
  pendingEvents : ℤ := 0
  closed : Bool := false
  queueSize_pos : 1 ≤ queueSize

namespace QueuedEventSubscription

variable {E τ : Type}

/-- `put_nowait` of a queue with `maxsize=queue_size + 1`. -/
def putNowait (s : QueuedEventSubscription E τ) (item : QueueItem E) :
    Except EventBusError (QueuedEventSubscription E τ) :=
  if s.queueSize + 1 ≤ s.queue.length then .error .queueFull else .ok { s with queue := s.queue ++ [item] }

def full (s : QueuedEventSubscription E τ) : Bool := decide ((s.queueSize : ℤ) ≤ s.pendingEvents)

def publishNowait (s : QueuedEventSubscription E τ) (event : E) :
    Except EventBusError (QueuedEventSubscription E τ) :=
  if s.closed then .error (.closed "event subscription is closed")
  else if s.full then .error (.backpressure [s.consumerName])
  else
    match s.putNowait (.event event) with
    | .error _ => .error (.backpressure [s.consumerName])
    | .ok s => .ok { s with pendingEvents := s.pendingEvents + 1 }

/-- What `__anext__` returns, or that the iteration is over. -/
inductive Received (E : Type)
  | event (event : E)
  | stopAsyncIteration
  deriving DecidableEq, Repr

/-- `__anext__` once the queue has an item; it waits while there is none. -/
def next (s : QueuedEventSubscription E τ) : Option (Received E × QueuedEventSubscription E τ) :=
  match s.queue with
  | [] => none
  | .closed :: rest => some (.stopAsyncIteration, { s with queue := rest })
  | .event event :: rest =>
      some (.event event, { s with queue := rest, pendingEvents := s.pendingEvents - 1 })

/-- `close` up to its `on_close` callback: the subscription afterwards, and whether the call goes on to it. -/
def close (s : QueuedEventSubscription E τ) : Except EventBusError Bool × QueuedEventSubscription E τ :=
  if s.closed then (.ok false, s)
  else
    match { s with closed := true }.putNowait .closed with
    | .error e => (.error e, { s with closed := true })
    | .ok s => (.ok true, s)

end QueuedEventSubscription
end Pmrp
