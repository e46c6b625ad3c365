import Pmrp.Strategies.Correctness.Runs

/-!
# `Strategies.Correctness.Gate` — which strategies can emit orders

A failure disables the gate for order intents before it changes the state; a stop changes the state and leaves the
gate alone.

- **Result.** `gate_disabled` — in every run whose stops find the gate disabled, it is disabled in every strategy that
  is degraded, draining, stopped or failed. `running_stop_keeps_gate` is a stop that does not.
-/

namespace Pmrp
namespace StrategyRuntime

/-- The states in which no order may be emitted. -/
def Refuses (state : StrategyState) : Prop := state ∈ [.degraded, .draining, .stopped, .failed]

instance (state : StrategyState) : Decidable (Refuses state) := inferInstanceAs (Decidable (_ ∈ _))

theorem not_refuses_created : ¬Refuses .created := by decide

theorem not_refuses_initializing : ¬Refuses .initializing := by decide

theorem not_refuses_running : ¬Refuses .running := by decide

def GateShut (handle : StrategyHandle) : Prop := handle.context.orderIntentsEnabled = false

/-! ## Segments -/

/-- What a segment does to the gate: it leaves it shut, or it is no stop, leaves it as it was and enters no state that
refuses orders. -/
def Guarded (handle : StrategyHandle) (segment : Segment) : Prop :=
  GateShut segment.handle ∨
    (segment.handle.context = handle.context ∧ (segment.handle.state = handle.state ∨ ¬Refuses segment.handle.state) ∧
      ¬Draining segment.progress)

variable {handle : StrategyHandle}

theorem guarded_beginStart : Guarded handle handle.beginStart := by
  rw [StrategyHandle.beginStart]
  split
  · exact Or.inr ⟨rfl, Or.inl rfl, not_false⟩
  · refine transitionTo_rec ?_ ?_
    · intro e
      exact Or.inr ⟨rfl, Or.inl rfl, not_false⟩
    · exact Or.inr ⟨rfl, Or.inr not_refuses_initializing, not_false⟩

theorem shut_startFailure (lifecycleEvents : Bool) (now : UTCDateTime) (previousStatus : HealthStatus)
    (message : String) : GateShut (handle.startFailure lifecycleEvents now previousStatus message).handle := by
  refine transitionTo_rec (Q := fun segment => GateShut segment.handle) ?_ ?_
  · intro e
    rfl
  · refine publishHealthChanged_rec (Q := fun segment => GateShut segment.handle) ?_ ?_ _ _
    · rfl
    · rfl

theorem guarded_afterInitialize (lifecycleEvents : Bool) (now : UTCDateTime) (task : ℕ) (previousStatus : HealthStatus)
    (initialized subscribed : Bool) :
    Guarded handle (handle.afterInitialize lifecycleEvents now task previousStatus initialized subscribed) := by
  rw [StrategyHandle.afterInitialize]
  split
  · exact Or.inl (shut_startFailure lifecycleEvents now previousStatus _)
  · split
    · exact Or.inl (shut_startFailure lifecycleEvents now previousStatus _)
    · refine transitionTo_rec ?_ ?_
      · intro e
        exact Or.inr ⟨rfl, Or.inl rfl, not_false⟩
      · refine publishLifecycle_rec (Q := fun segment => Guarded handle { segment with createsTask := true }) ?_ ?_ _
        · exact Or.inr ⟨rfl, Or.inr not_refuses_running, not_false⟩
        · exact Or.inr ⟨rfl, Or.inr not_refuses_running, not_false⟩

theorem guarded_receiveEvent (eventType : Option String) : Guarded handle (handle.receiveEvent eventType) := by
  rw [StrategyHandle.receiveEvent]
  split
  · exact Or.inr ⟨rfl, Or.inl rfl, not_false⟩
  · split
    · exact Or.inr ⟨rfl, Or.inl rfl, not_false⟩
    · exact Or.inr ⟨rfl, Or.inl rfl, not_false⟩

theorem guarded_afterEvent (lifecycleEvents : Bool) (now : UTCDateTime) (processed : Bool) :
    Guarded handle (handle.afterEvent lifecycleEvents now processed) := by
  rw [StrategyHandle.afterEvent]
  dsimp only
  split
  · exact Or.inr ⟨rfl, Or.inl rfl, not_false⟩
  · refine Or.inl (transitionTo_rec (Q := fun segment => GateShut segment.handle) ?_ ?_)
    · intro e
      rfl
    · refine publishHealthChanged_rec (Q := fun segment => GateShut segment.handle) ?_ ?_ _ _
      · rfl
      · rfl

theorem guarded_afterPublish (published : Bool) : Guarded handle (afterPublish handle published) :=
  Or.inr ⟨rfl, Or.inl rfl, not_false⟩

/-! A stop never touches the context. -/

theorem context_joinOrShutDown (reason : String) (previousStatus : HealthStatus) :
    (handle.joinOrShutDown reason previousStatus).handle.context = handle.context := by
  rw [StrategyHandle.joinOrShutDown]
  split
  · rfl
  · rfl

theorem context_beginStop (reason : String) : (handle.beginStop reason).handle.context = handle.context := by
  rw [StrategyHandle.beginStop]
  split
  · rfl
  · split
    · refine transitionTo_rec (Q := fun segment => segment.handle.context = handle.context) ?_ ?_
      · intro e
        rfl
      · exact context_joinOrShutDown reason handle.healthStatus
    · exact context_joinOrShutDown reason handle.healthStatus

theorem context_afterJoin (reason : String) (previousStatus : HealthStatus) (how : Ended) :
    (handle.afterJoin reason previousStatus how).handle.context = handle.context := by
  cases how <;> rfl

theorem context_afterShutdown (lifecycleEvents : Bool) (now : UTCDateTime) (previousStatus : HealthStatus)
    (shutdown : Bool) :
    (handle.afterShutdown lifecycleEvents now previousStatus shutdown).handle.context = handle.context := by
  rw [StrategyHandle.afterShutdown]
  split
  · refine transitionTo_rec (Q := fun segment => segment.handle.context = handle.context) ?_ ?_
    · intro e
      rfl
    · refine publishLifecycle_rec (Q := fun segment => segment.handle.context = handle.context) ?_ ?_ _
      · rfl
      · rfl
  · refine transitionTo_rec (Q := fun segment => segment.handle.context = handle.context) ?_ ?_
    · intro e
      rfl
    · refine publishHealthChanged_rec (Q := fun segment => segment.handle.context = handle.context) ?_ ?_ _ _
      · rfl
      · rfl

/-- A segment is guarded, or it is a stop's and finds the gate as it leaves it. -/
theorem resume_guarded {runtime : StrategyRuntime} {now : UTCDateTime} {waiting : Waiting} {resume : Resume}
    {segment : Segment} (h : runtime.resume now handle waiting resume = some segment) :
    Guarded handle segment ∨ (segment.handle.context = handle.context ∧
      (Draining (.waits waiting) ∨
        ∃ reason, waiting = .stopSpawned reason ∧ handle.state ∉ terminalStrategyStates)) := by
  -- one case for each place where the runtime waits: only a stop that drains passes the gate on
  cases waiting with
  | startSpawned =>
      cases resume <;> cases h
      exact Or.inl guarded_beginStart
  | initializing previousStatus =>
      cases resume <;> cases h
      exact Or.inl (guarded_afterInitialize _ _ _ _ _ _)
  | startPublishing =>
      cases resume <;> cases h
      exact Or.inl (guarded_afterPublish _)
  | stopSpawned reason =>
      cases resume <;> cases h
      by_cases hterminal : handle.state ∈ terminalStrategyStates
      · rw [StrategyHandle.beginStop, if_pos hterminal]
        exact Or.inl (Or.inr ⟨rfl, Or.inl rfl, not_false⟩)
      · exact Or.inr ⟨context_beginStop reason, Or.inr ⟨reason, rfl, hterminal⟩⟩
  | joining reason previousStatus task =>
      cases resume with
      | joined =>
          rw [StrategyRuntime.resume] at h
          split at h
          · cases h
            exact Or.inr ⟨context_afterJoin _ _ _, Or.inl trivial⟩
          · cases h
      | _ => cases h
  | shuttingDown reason previousStatus =>
      cases resume <;> cases h
      exact Or.inr ⟨context_afterShutdown _ _ _ _, Or.inl trivial⟩
  | stopPublishing =>
      cases resume <;> cases h
      exact Or.inl (guarded_afterPublish _)
  | nextEvent =>
      cases resume with
      | event eventType =>
          cases h
          exact Or.inl (guarded_receiveEvent eventType)
      | streamEnded =>
          rw [StrategyRuntime.resume] at h
          split at h
          · cases h
            exact Or.inl (Or.inr ⟨rfl, Or.inl rfl, not_false⟩)
          · cases h
      | _ => cases h
  | processing =>
      cases resume <;> cases h
      exact Or.inl (guarded_afterEvent _ _ _)
  | consumerPublishing =>
      cases resume <;> cases h
      exact Or.inl (guarded_afterPublish _)

/-! ## Runs -/

structure GateInv (runtime : StrategyRuntime) : Prop where
  states : ∀ id handle, runtime.handles id = some handle → Refuses handle.state → GateShut handle
  stops : ∀ t ∈ runtime.tasks, Draining t.progress →
    ∀ handle, runtime.handles t.strategyId = some handle → GateShut handle
  known : ∀ t ∈ runtime.tasks, t.strategyId ∈ runtime.registered

/-- The task is a stop's, before its first segment. -/
def StopSpawned : Progress → Prop
  | .waits (.stopSpawned _) => True
  | _ => False

instance : (progress : Progress) → Decidable (StopSpawned progress)
  | .waits (.stopSpawned _) => .isTrue trivial
  | .waits .startSpawned | .waits (.initializing _) | .waits .startPublishing | .waits (.joining _ _ _)
  | .waits (.shuttingDown _ _) | .waits .stopPublishing | .waits .nextEvent | .waits .processing
  | .waits .consumerPublishing | .ended _ => .isFalse id

/-- A stop that has something to stop finds the gate shut. -/
def StopsShut (runtime : StrategyRuntime) : Action → Prop
  | .run n _ _ => ∀ task ∈ runtime.tasks[n]?, ∀ handle ∈ runtime.handles task.strategyId,
      StopSpawned task.progress → handle.state ∉ terminalStrategyStates → handle.context.orderIntentsEnabled = false
  | _ => True

instance (runtime : StrategyRuntime) : (action : Action) → Decidable (StopsShut runtime action)
  | .run n _ _ => inferInstanceAs (Decidable (∀ task ∈ runtime.tasks[n]?, ∀ handle ∈ runtime.handles task.strategyId,
      StopSpawned task.progress → handle.state ∉ terminalStrategyStates → handle.context.orderIntentsEnabled = false))
  | .register _ _ _ => .isTrue trivial
  | .start => .isTrue trivial
  | .stop _ => .isTrue trivial

theorem gateInv_gather {runtime : StrategyRuntime} (h : GateInv runtime) (started : Bool) {role : TaskRole}
    {waiting : Waiting} (hwaiting : ¬Draining (.waits waiting)) :
    GateInv ({ runtime with started }.gather role waiting) := by
  refine ⟨h.states, ?_, ?_⟩
  · intro t ht hdraining
    rcases mem_gather ht with ht | ⟨_, hprogress, _⟩
    · exact h.stops t ht hdraining
    · rw [hprogress] at hdraining
      exact absurd hdraining hwaiting
  · intro t ht
    rcases mem_gather ht with ht | ⟨_, _, hregistered⟩
    · exact h.known t ht
    · exact hregistered

theorem gateInv_register {runtime runtime' : StrategyRuntime} (h : GateInv runtime) {context : StrategyContext}
    {subscribedEventTypes : List String} {queueSize : ℕ}
    (hregister : runtime.register context subscribedEventTypes queueSize = .ok runtime') : GateInv runtime' := by
  obtain ⟨hnew, hregistered, htasks, hhandles⟩ := register_ok hregister
  refine ⟨?_, ?_, ?_⟩
  · intro id handle hid
    rcases hhandles id handle hid with ⟨rfl, rfl⟩ | ⟨_, hid⟩
    · intro hrefuses
      exact absurd hrefuses not_refuses_created
    · exact h.states id handle hid
  · intro t ht hdraining handle hid
    rw [htasks] at ht
    rcases hhandles t.strategyId handle hid with ⟨hsame, _⟩ | ⟨_, hid⟩
    · exact absurd (hsame ▸ h.known t ht) hnew
    · exact h.stops t ht hdraining handle hid
  · intro t ht
    rw [htasks] at ht
    rw [hregistered]
    exact List.mem_append_left _ (h.known t ht)

theorem gateInv_step {runtime runtime' : StrategyRuntime} {action : Action} (h : GateInv runtime)
    (hshut : StopsShut runtime action) (hstep : Step runtime action runtime') : GateInv runtime' := by
  cases hstep with
  | register hregister => exact gateInv_register h hregister
  | start =>
      rw [StrategyRuntime.start]
      split
      · exact h
      · exact gateInv_gather h true id
  | stop reason => exact gateInv_gather h false id
  | run now resume hwaits hresume =>
      rename_i n task waiting handle segment
      -- the gate is shut after the segment wherever it has to be
      have hself : (Refuses segment.handle.state → GateShut segment.handle) ∧
          (Draining segment.progress → GateShut segment.handle) ∧ (GateShut handle → GateShut segment.handle) := by
        have hkeeps : segment.handle.context = handle.context → GateShut handle → GateShut segment.handle := by
          intro hcontext hshut
          rw [GateShut, hcontext]
          exact hshut
        rcases resume_guarded hresume with (hguard | ⟨hcontext, hstate, hprogress⟩) | ⟨hcontext, hstop⟩
        · exact ⟨fun _ => hguard, fun _ => hguard, fun _ => hguard⟩
        · refine ⟨?_, fun hdraining => absurd hdraining hprogress, hkeeps hcontext⟩
          intro hrefuses
          rcases hstate with hstate | hstate
          · exact hkeeps hcontext (h.states _ _ hwaits.lookup (hstate ▸ hrefuses))
          · exact absurd hrefuses hstate
        · have hgate : GateShut handle := by
            rcases hstop with hdraining | ⟨reason, rfl, hterminal⟩
            · exact h.stops task hwaits.mem (hwaits.waits ▸ hdraining) handle hwaits.lookup
            · refine hshut task hwaits.getElem handle hwaits.lookup ?_ hterminal
              rw [hwaits.waits]
              trivial
          have hshut' := hkeeps hcontext hgate
          exact ⟨fun _ => hshut', fun _ => hshut', fun _ => hshut'⟩
      refine ⟨?_, ?_, ?_⟩
      · intro id handle' hid hrefuses
        rcases handles_afterSegment hid with ⟨rfl, rfl⟩ | ⟨_, hid⟩
        · exact hself.1 hrefuses
        · exact h.states id handle' hid hrefuses
      · intro t ht hdraining handle' hid
        rcases mem_afterSegment ht with ht | rfl | rfl
        · rcases handles_afterSegment hid with ⟨hsame, rfl⟩ | ⟨_, hid⟩
          · exact hself.2.2 (h.stops t ht hdraining handle (hsame ▸ hwaits.lookup))
          · exact h.stops t ht hdraining handle' hid
        · rcases handles_afterSegment hid with ⟨_, rfl⟩ | ⟨hne, _⟩
          · exact hself.2.1 hdraining
          · exact absurd rfl hne
        · cases hdraining
      · intro t ht
        rcases mem_afterSegment ht with ht | rfl | rfl
        · exact h.known t ht
        · exact h.known task hwaits.mem
        · exact h.known task hwaits.mem

def empty (lifecycleEvents : Bool) : StrategyRuntime := { lifecycleEvents }

theorem gateInv_empty (lifecycleEvents : Bool) : GateInv (empty lifecycleEvents) := by
  refine ⟨?_, ?_, ?_⟩
  · intro id handle hid
    cases hid
  · intro t ht
    cases ht
  · intro t ht
    cases ht

/-- **Which strategies can emit orders.** -/
theorem gate_disabled (lifecycleEvents : Bool) {runtime : StrategyRuntime}
    (hreach : Reaches Step StopsShut (empty lifecycleEvents) runtime) {id : StrategyId} {handle : StrategyHandle}
    (hid : runtime.handles id = some handle)
    (hstate : handle.state = .degraded ∨ handle.state = .draining ∨ handle.state = .stopped ∨
      handle.state = .failed) (intent : OrderIntent) (published : Bool) :
    handle.context.orderIntentsEnabled = false ∧
      handle.context.publishOrderIntent intent published = .error (StrategyContext.emissionError
        "Order intent emission is disabled for the active strategy context" "strategy_order_intent_emission_disabled"
        [("strategy_id", handle.context.strategyId.val), ("intent_id", intent.intentId.val)]) := by
  have h : GateInv runtime := by
    refine Reaches.inv GateInv ?_ hreach (gateInv_empty lifecycleEvents)
    intro t action u ht hshut hstep
    exact gateInv_step ht hshut hstep
  have hgate : handle.context.orderIntentsEnabled = false := by
    refine h.states id handle hid ?_
    rcases hstate with hstate | hstate | hstate | hstate <;> rw [hstate] <;> decide
  refine ⟨hgate, ?_⟩
  rw [StrategyContext.publishOrderIntent, hgate]
  rfl

def reversion : StrategyId := ⟨"strat_reversion", by decide⟩

/-- A strategy is started, a handler of it fails, and it is stopped. -/
theorem gate_disabled_silent : ∃ (runtime : StrategyRuntime) (handle : StrategyHandle),
    runtime.handles reversion = some handle ∧ handle.state = .stopped ∧
    ∀ intent, handle.context.publishOrderIntent intent true = .error (StrategyContext.emissionError
      "Order intent emission is disabled for the active strategy context" "strategy_order_intent_emission_disabled"
      [("strategy_id", handle.context.strategyId.val), ("intent_id", intent.intentId.val)]) := by
  have hrun : ∃ runtime ∈ (empty false).runUnder StopsShut
      [.register { strategyId := reversion } ["market.trade"] 8, .start, .run 0 0 .begins,
        .run 0 1 (.initialized true true), .run 1 2 (.event (some "market.trade")), .run 1 3 (.processed false),
        .stop "done", .run 2 4 .begins, .run 2 5 .joined, .run 2 6 (.shutdown true)],
      ∃ handle ∈ runtime.handles reversion, handle.state = .stopped := by decide +kernel
  obtain ⟨runtime, hrun, handle, hid, hstate⟩ := hrun
  refine ⟨runtime, handle, hid, hstate, fun intent => ?_⟩
  exact (gate_disabled false (reaches_of_runUnder .refl hrun) hid (Or.inr (Or.inr (Or.inl hstate))) intent true).2

/-- A running strategy is stopped, and its gate stays open. -/
theorem stopped_gate_open : ∃ (runtime : StrategyRuntime) (handle : StrategyHandle),
    Reaches Step (fun _ _ => True) (empty false) runtime ∧ runtime.handles reversion = some handle ∧
    handle.state = .stopped ∧ handle.context.orderIntentsEnabled = true := by
  have hrun : ∃ runtime ∈ (empty false).runUnder (fun _ _ => True)
      [.register { strategyId := reversion } ["market.trade"] 8, .start, .run 0 0 .begins,
        .run 0 1 (.initialized true true), .stop "done", .run 2 2 .begins, .run 1 3 .streamEnded, .run 2 4 .joined,
        .run 2 5 (.shutdown true)],
      ∃ handle ∈ runtime.handles reversion, handle.state = .stopped ∧ handle.context.orderIntentsEnabled = true := by
    decide +kernel
  obtain ⟨runtime, hrun, handle, hid, hstate, hgate⟩ := hrun
  exact ⟨runtime, handle, reaches_of_runUnder .refl hrun, hid, hstate, hgate⟩

end StrategyRuntime
end Pmrp
