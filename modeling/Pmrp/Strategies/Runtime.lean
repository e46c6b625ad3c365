import Mathlib.Data.String.Basic
import Mathlib.Logic.Function.Basic
import Pmrp.Lib.StableSort
import Pmrp.Strategies.Context

/-!
# `Strategies.Runtime` — starting, feeding and stopping strategies

`StrategyRuntime` of `strategies/runtime.py`. A coroutine runs from one `await` to the next without a switch, so it is
a list of segments: each takes the strategy's handle and what the `await` before it gave, and says where the coroutine
waits next or how it ended. `start` and `stop` make one task for each strategy (`asyncio.gather`), and a started
strategy has a task that consumes its events.

The callbacks of a strategy, the bus and the publisher of lifecycle events are outside the model: what they return is
an input of the segment after them. Closing a subscription waits for nothing and does not fail, as on the in-process
bus.
-/

namespace Pmrp

inductive HealthStatus
  | healthy
  | degraded
  | unhealthy
  | unknown
  deriving DecidableEq, Repr

structure StrategySubscription where
  closed : Bool := false
  deriving DecidableEq, Repr

/-- `_StrategyHandle`. -/
structure StrategyHandle where
  context : StrategyContext
  subscribedEventTypes : List String
  queueSize : ℕ
  state : StrategyState := .created
  healthStatus : HealthStatus := .unknown
  healthMessage : Option String := none
  subscription : Option StrategySubscription := none
  /-- The number of the task that consumes the events. -/
  task : Option ℕ := none
  processedEvents : ℕ := 0
  ignoredEvents : ℕ := 0
  failedEvents : ℕ := 0
  startedAt : Option UTCDateTime := none
  stoppedAt : Option UTCDateTime := none
  lastEventAt : Option UTCDateTime := none
  lastFailureAt : Option UTCDateTime := none

/-- How a task ends. -/
inductive Ended
  | returned
  | raised (e : StrategyError)
  | publisherRaised
  deriving DecidableEq, Repr

/-- Where a coroutine waits. -/
inductive Waiting
  /-- In the queue of the event loop, before its first segment. -/
  | startSpawned
  | initializing (previousStatus : HealthStatus)
  | startPublishing
  | stopSpawned (reason : String)
  | joining (reason : String) (previousStatus : HealthStatus) (task : ℕ)
  | shuttingDown (reason : String) (previousStatus : HealthStatus)
  | stopPublishing
  | nextEvent
  | processing
  | consumerPublishing
  deriving DecidableEq, Repr

inductive Progress
  | waits (waiting : Waiting)
  | ended (how : Ended)
  deriving DecidableEq, Repr

/-- What a segment leaves. -/
structure Segment where
  handle : StrategyHandle
  progress : Progress
  /-- The segment has created the task that consumes the events. -/
  createsTask : Bool := false

namespace StrategyHandle

/-- `transition_to`, and what follows it. -/
def transitionTo (handle : StrategyHandle) (nextState : StrategyState) (next : StrategyHandle → Segment) : Segment :=
  match transitionStrategyState handle.state nextState with
  | .error e => { handle, progress := .ended (.raised e) }
  | .ok state => next { handle with state }

/-- `_close_subscription`. -/
def closeSubscription (handle : StrategyHandle) : StrategyHandle :=
  { handle with subscription := handle.subscription.map fun _ => { closed := true } }

/-- `_publish_strategy_health_changed`: the publisher is called only for a change, and not to `UNKNOWN`. -/
def publishHealthChanged (lifecycleEvents : Bool) (handle : StrategyHandle) (previousStatus : HealthStatus)
    (waiting : Waiting) : Segment :=
  if !lifecycleEvents ∨ previousStatus = handle.healthStatus ∨ handle.healthStatus = .unknown then
    { handle, progress := .ended .returned }
  else { handle, progress := .waits waiting }

/-- `_publish_strategy_started` and `_publish_strategy_stopped`. -/
def publishLifecycle (lifecycleEvents : Bool) (handle : StrategyHandle) (waiting : Waiting) : Segment :=
  if lifecycleEvents then { handle, progress := .waits waiting } else { handle, progress := .ended .returned }

/-! ## `_start_strategy` -/

def beginStart (handle : StrategyHandle) : Segment :=
  if handle.state ∈ terminalStrategyStates ∨ handle.state = .running then { handle, progress := .ended .returned }
  else
    handle.transitionTo .initializing fun next =>
      { handle := next, progress := .waits (.initializing handle.healthStatus) }

/-- `mark_start_failure`, and the health event after it. -/
def startFailure (lifecycleEvents : Bool) (now : UTCDateTime) (handle : StrategyHandle) (previousStatus : HealthStatus)
    (message : String) : Segment :=
  let handle := { handle with
    context := handle.context.disableOrderIntents
    failedEvents := handle.failedEvents + 1
    lastFailureAt := some now }
  handle.transitionTo .failed fun handle =>
    publishHealthChanged lifecycleEvents { handle with healthStatus := .unhealthy, healthMessage := some message }
      previousStatus .startPublishing

def afterInitialize (lifecycleEvents : Bool) (now : UTCDateTime) (task : ℕ) (handle : StrategyHandle)
    (previousStatus : HealthStatus) (initialized subscribed : Bool) : Segment :=
  if !initialized then startFailure lifecycleEvents now handle previousStatus "strategy initialization failed"
  else if !subscribed then startFailure lifecycleEvents now handle previousStatus "strategy subscription failed"
  else
    let handle := { handle with subscription := some {}, startedAt := some now }
    handle.transitionTo .running fun handle =>
      { publishLifecycle lifecycleEvents
          { handle with healthStatus := .healthy, healthMessage := none, task := some task } .startPublishing with
        createsTask := true }

/-! ## `_consume_strategy_events` -/

/-- The subscription gave an event, of this type when it is a canonical one. -/
def receiveEvent (handle : StrategyHandle) (eventType : Option String) : Segment :=
  if handle.state ≠ .running then { handle, progress := .ended .returned }
  else if eventType.all fun eventType => decide (eventType ∉ handle.subscribedEventTypes) then
    { handle := { handle with ignoredEvents := handle.ignoredEvents + 1 }, progress := .waits .nextEvent }
  else { handle, progress := .waits .processing }

/-- `_degrade_strategy`. -/
def degrade (lifecycleEvents : Bool) (now : UTCDateTime) (handle : StrategyHandle) (message : String) : Segment :=
  let previousStatus := handle.healthStatus
  let handle := { handle with
    context := handle.context.disableOrderIntents
    failedEvents := handle.failedEvents + 1
    lastFailureAt := some now }
  handle.transitionTo .degraded fun handle =>
    publishHealthChanged lifecycleEvents
      { handle with healthStatus := .degraded, healthMessage := some message }.closeSubscription previousStatus
      .consumerPublishing

def afterEvent (lifecycleEvents : Bool) (now : UTCDateTime) (handle : StrategyHandle) (processed : Bool) : Segment :=
  let handle := { handle with lastEventAt := some now }
  if processed then
    { handle := { handle with processedEvents := handle.processedEvents + 1 }, progress := .waits .nextEvent }
  else degrade lifecycleEvents now handle "strategy event processing failed"

/-! ## `_stop_strategy` -/

/-- The task of the strategy is never the one that stops it. -/
def joinOrShutDown (handle : StrategyHandle) (reason : String) (previousStatus : HealthStatus) : Segment :=
  let handle := handle.closeSubscription
  match handle.task with
  | some task => { handle, progress := .waits (.joining reason previousStatus task) }
  | none => { handle, progress := .waits (.shuttingDown reason previousStatus) }

def beginStop (handle : StrategyHandle) (reason : String) : Segment :=
  if handle.state ∈ terminalStrategyStates then { handle, progress := .ended .returned }
  else if handle.state = .running ∨ handle.state = .degraded then
    handle.transitionTo .draining fun next => next.joinOrShutDown reason handle.healthStatus
  else handle.joinOrShutDown reason handle.healthStatus

/-- `await handle.task` gives what the task raised. -/
def afterJoin (handle : StrategyHandle) (reason : String) (previousStatus : HealthStatus) : Ended → Segment
  | .returned => { handle, progress := .waits (.shuttingDown reason previousStatus) }
  | how => { handle, progress := .ended how }

def afterShutdown (lifecycleEvents : Bool) (now : UTCDateTime) (handle : StrategyHandle) (previousStatus : HealthStatus)
    (shutdown : Bool) : Segment :=
  let handle := { handle with stoppedAt := some now }
  if shutdown then
    handle.transitionTo .stopped fun handle =>
      publishLifecycle lifecycleEvents { handle with healthStatus := .unknown, healthMessage := none } .stopPublishing
  else
    handle.transitionTo .failed fun handle =>
      publishHealthChanged lifecycleEvents
        { handle with healthStatus := .unhealthy, healthMessage := some "strategy shutdown failed" } previousStatus
        .stopPublishing

end StrategyHandle

/-! ## The runtime -/

inductive TaskRole
  | start
  | stop
  | consume
  deriving DecidableEq, Repr

structure StrategyTask where
  strategyId : StrategyId
  role : TaskRole
  progress : Progress
  deriving DecidableEq

structure StrategyRuntime where
  /-- An event factory and a publisher are given. -/
  lifecycleEvents : Bool
  started : Bool := false
  /-- The keys of `_handles`. -/
  registered : List StrategyId := []
  handles : StrategyId → Option StrategyHandle := fun _ => none
  /-- Every task that was made, by number. -/
  tasks : List StrategyTask := []

/-- What an `await` gives. -/
inductive Resume
  | begins
  | initialized (initialized subscribed : Bool)
  | event (eventType : Option String)
  | streamEnded
  | processed (processed : Bool)
  | joined
  | shutdown (shutdown : Bool)
  | published (published : Bool)
  deriving DecidableEq, Repr

namespace StrategyRuntime

/-- `_ordered_handles`. -/
def orderedIds (runtime : StrategyRuntime) : List StrategyId := sortByKey Identifier.val runtime.registered

/-- `register`, for a strategy that passes the checks of its own attributes. -/
def register (runtime : StrategyRuntime) (context : StrategyContext) (subscribedEventTypes : List String)
    (queueSize : ℕ) : Except StrategyError StrategyRuntime :=
  if runtime.started then
    .error { cls := .strategyRuntimeError, safeMessage := "Strategy registration is closed after runtime startup"
             reasonCode := "strategy_runtime_registration_closed" }
  else if context.strategyId ∈ runtime.registered then
    .error { cls := .strategyRuntimeError, safeMessage := "Strategy is already registered"
             reasonCode := "strategy_runtime_duplicate_registration"
             context := [("strategy_id", context.strategyId.val)] }
  else
    .ok { runtime with
      registered := runtime.registered ++ [context.strategyId]
      handles := Function.update runtime.handles context.strategyId
        (some { context, subscribedEventTypes, queueSize }) }

/-- One task for each handle. -/
def gather (runtime : StrategyRuntime) (role : TaskRole) (waiting : Waiting) : StrategyRuntime :=
  { runtime with tasks :=
      runtime.tasks ++ runtime.orderedIds.map fun strategyId => { strategyId, role, progress := .waits waiting } }

def start (runtime : StrategyRuntime) : StrategyRuntime :=
  if runtime.started then runtime else { runtime with started := true }.gather .start .startSpawned

def stop (runtime : StrategyRuntime) (reason : String) : StrategyRuntime :=
  { runtime with started := false }.gather .stop (.stopSpawned reason)

/-- The end of a publication. -/
def afterPublish (handle : StrategyHandle) (published : Bool) : Segment :=
  { handle, progress := .ended (if published then .returned else .publisherRaised) }

/-- The segment that runs when an `await` is over; none while it is not. -/
def resume (runtime : StrategyRuntime) (now : UTCDateTime) (handle : StrategyHandle) : Waiting → Resume → Option Segment
  | .startSpawned, .begins => some handle.beginStart
  | .initializing previousStatus, .initialized initialized subscribed =>
      some (handle.afterInitialize runtime.lifecycleEvents now runtime.tasks.length previousStatus
        initialized subscribed)
  | .startPublishing, .published published => some (afterPublish handle published)
  | .nextEvent, .event eventType => some (handle.receiveEvent eventType)
  | .nextEvent, .streamEnded =>
      if handle.subscription = some { closed := true } then some { handle, progress := .ended .returned } else none
  | .processing, .processed processed => some (handle.afterEvent runtime.lifecycleEvents now processed)
  | .consumerPublishing, .published published => some (afterPublish handle published)
  | .stopSpawned reason, .begins => some (handle.beginStop reason)
  | .joining reason previousStatus task, .joined =>
      match (runtime.tasks[task]?).map StrategyTask.progress with
      | some (.ended how) => some (handle.afterJoin reason previousStatus how)
      | _ => none
  | .shuttingDown _ previousStatus, .shutdown shutdown =>
      some (handle.afterShutdown runtime.lifecycleEvents now previousStatus shutdown)
  | .stopPublishing, .published published => some (afterPublish handle published)
  | _, _ => none

/-- The runtime after a segment of the task with this number. -/
def afterSegment (runtime : StrategyRuntime) (n : ℕ) (task : StrategyTask) (segment : Segment) : StrategyRuntime :=
  { runtime with
    handles := Function.update runtime.handles task.strategyId (some segment.handle)
    tasks := runtime.tasks.set n { task with progress := segment.progress } ++
      if segment.createsTask then
        [{ strategyId := task.strategyId, role := .consume, progress := .waits .nextEvent }] else [] }

end StrategyRuntime
end Pmrp
