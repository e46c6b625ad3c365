import Pmrp.Lib.Transitions
import Pmrp.Strategies.Runtime

/-!
# `Strategies.Correctness.Runs` — runs of the strategy runtime

Calls of `register`, `start` and `stop`, and segments of the tasks they make, in any order. The rules for
transitions and publications carry a property of segments through them.
-/

namespace Pmrp
namespace StrategyRuntime

inductive Action
  | register (context : StrategyContext) (subscribedEventTypes : List String) (queueSize : ℕ)
  | start
  | stop (reason : String)
  | run (n : ℕ) (now : UTCDateTime) (resume : Resume)

/-- The task with number `n` waits, for a strategy with this handle. -/
structure Waits (runtime : StrategyRuntime) (n : ℕ) (task : StrategyTask) (waiting : Waiting)
    (handle : StrategyHandle) : Prop where
  getElem : runtime.tasks[n]? = some task
  waits : task.progress = .waits waiting
  lookup : runtime.handles task.strategyId = some handle

inductive Step : StrategyRuntime → Action → StrategyRuntime → Prop
  | register {runtime runtime' : StrategyRuntime} {context : StrategyContext} {subscribedEventTypes : List String}
      {queueSize : ℕ} : runtime.register context subscribedEventTypes queueSize = .ok runtime' →
      Step runtime (.register context subscribedEventTypes queueSize) runtime'
  | start {runtime : StrategyRuntime} : Step runtime .start runtime.start
  | stop {runtime : StrategyRuntime} (reason : String) : Step runtime (.stop reason) (runtime.stop reason)
  | run {runtime : StrategyRuntime} {n : ℕ} {task : StrategyTask} {waiting : Waiting} {handle : StrategyHandle}
      {segment : Segment} (now : UTCDateTime) (resume : Resume) : runtime.Waits n task waiting handle →
      runtime.resume now handle waiting resume = some segment →
      Step runtime (.run n now resume) (runtime.afterSegment n task segment)

/-- The step of an action, computed. -/
def perform (runtime : StrategyRuntime) : Action → Option StrategyRuntime
  | .register context subscribedEventTypes queueSize =>
      (runtime.register context subscribedEventTypes queueSize).toOption
  | .start => some runtime.start
  | .stop reason => some (runtime.stop reason)
  | .run n now resume => do
      let task ← runtime.tasks[n]?
      let handle ← runtime.handles task.strategyId
      match task.progress with
      | .waits waiting => (runtime.resume now handle waiting resume).map (runtime.afterSegment n task)
      | .ended _ => none

theorem step_of_perform {runtime runtime' : StrategyRuntime} {action : Action}
    (h : runtime.perform action = some runtime') : Step runtime action runtime' := by
  cases action with
  | register context subscribedEventTypes queueSize =>
      refine .register ?_
      cases hregister : runtime.register context subscribedEventTypes queueSize with
      | error e =>
          rw [perform, hregister] at h
          cases h
      | ok next =>
          rw [perform, hregister] at h
          cases h
          rfl
  | start =>
      cases h
      exact .start
  | stop reason =>
      cases h
      exact .stop reason
  | run n now resume =>
      obtain ⟨task, htask, h⟩ := Option.bind_eq_some_iff.mp h
      obtain ⟨handle, hhandle, h⟩ := Option.bind_eq_some_iff.mp h
      split at h
      · rename_i waiting hwaits
        obtain ⟨segment, hsegment, rfl⟩ := Option.map_eq_some_iff.mp h
        exact .run now resume ⟨htask, hwaits, hhandle⟩ hsegment
      · cases h

/-- A run whose steps all meet the condition, computed; none where one does not. -/
def runUnder (P : StrategyRuntime → Action → Prop) [∀ runtime action, Decidable (P runtime action)]
    (runtime : StrategyRuntime) (actions : List Action) : Option StrategyRuntime :=
  actions.foldlM (fun runtime action => if P runtime action then runtime.perform action else none) runtime

theorem reaches_of_runUnder {P : StrategyRuntime → Action → Prop} [∀ runtime action, Decidable (P runtime action)]
    {start runtime runtime' : StrategyRuntime} {actions : List Action} (hstart : Reaches Step P start runtime)
    (h : runtime.runUnder P actions = some runtime') : Reaches Step P start runtime' := by
  induction actions generalizing runtime with
  | nil =>
      cases h
      exact hstart
  | cons action actions ih =>
      obtain ⟨next, hnext, h⟩ := Option.bind_eq_some_iff.mp h
      dsimp only at hnext
      split at hnext
      · rename_i hP
        exact ih (.tail hstart hP (step_of_perform hnext)) h
      · cases hnext

/-! ## Tasks after a step -/

theorem mem_gather {runtime : StrategyRuntime} {role : TaskRole} {waiting : Waiting} {t : StrategyTask} :
    t ∈ (runtime.gather role waiting).tasks →
      t ∈ runtime.tasks ∨ (t.role = role ∧ t.progress = .waits waiting ∧ t.strategyId ∈ runtime.registered) := by
  intro ht
  rcases List.mem_append.mp ht with ht | ht
  · exact Or.inl ht
  · obtain ⟨strategyId, hid, rfl⟩ := List.mem_map.mp ht
    exact Or.inr ⟨rfl, rfl, mem_sortByKey.mp hid⟩

/-- A registration adds a handle under a new name. -/
theorem register_ok {runtime runtime' : StrategyRuntime} {context : StrategyContext}
    {subscribedEventTypes : List String} {queueSize : ℕ}
    (h : runtime.register context subscribedEventTypes queueSize = .ok runtime') :
    context.strategyId ∉ runtime.registered ∧ runtime'.registered = runtime.registered ++ [context.strategyId] ∧
      runtime'.tasks = runtime.tasks ∧ ∀ id handle, runtime'.handles id = some handle →
        (id = context.strategyId ∧ handle = { context, subscribedEventTypes, queueSize }) ∨
        (id ≠ context.strategyId ∧ runtime.handles id = some handle) := by
  rw [register] at h
  split at h
  · cases h
  · split at h
    · cases h
    · rename_i hnew
      cases h
      refine ⟨hnew, rfl, rfl, ?_⟩
      intro id handle hid
      by_cases hsame : id = context.strategyId
      · subst hsame
        have hself := hid.symm.trans (Function.update_self _ _ _)
        exact Or.inl ⟨rfl, Option.some.inj hself⟩
      · exact Or.inr ⟨hsame, (Function.update_of_ne hsame _ _).symm.trans hid⟩

/-- A segment changes one handle. -/
theorem handles_afterSegment {runtime : StrategyRuntime} {n : ℕ} {task : StrategyTask} {segment : Segment}
    {id : StrategyId} {handle : StrategyHandle}
    (h : (runtime.afterSegment n task segment).handles id = some handle) :
    (id = task.strategyId ∧ handle = segment.handle) ∨ (id ≠ task.strategyId ∧ runtime.handles id = some handle) := by
  by_cases hid : id = task.strategyId
  · subst hid
    have hself : (runtime.afterSegment n task segment).handles task.strategyId = some segment.handle :=
      Function.update_self _ _ _
    exact Or.inl ⟨rfl, Option.some.inj (h.symm.trans hself)⟩
  · exact Or.inr ⟨hid, (Function.update_of_ne hid _ _).symm.trans h⟩

/-- After a segment there are the old tasks, the one that ran and possibly one that consumes events. -/
theorem mem_afterSegment {runtime : StrategyRuntime} {n : ℕ} {task t : StrategyTask} {segment : Segment} :
    t ∈ (runtime.afterSegment n task segment).tasks →
      t ∈ runtime.tasks ∨ t = { task with progress := segment.progress } ∨
      t = { strategyId := task.strategyId, role := .consume, progress := .waits .nextEvent } := by
  intro ht
  rcases List.mem_append.mp ht with ht | ht
  · rcases List.mem_or_eq_of_mem_set ht with ht | ht
    · exact Or.inl ht
    · exact Or.inr (Or.inl ht)
  · split at ht
    · exact Or.inr (Or.inr (List.mem_singleton.mp ht))
    · cases ht

theorem Waits.mem {runtime : StrategyRuntime} {n : ℕ} {task : StrategyTask} {waiting : Waiting}
    {handle : StrategyHandle} (h : runtime.Waits n task waiting handle) : task ∈ runtime.tasks :=
  List.mem_of_getElem? h.getElem

/-- The stop has closed the subscription and not yet set the last state. -/
def Draining : Progress → Prop
  | .waits (.joining _ _ _) => True
  | .waits (.shuttingDown _ _) => True
  | _ => False

instance : (progress : Progress) → Decidable (Draining progress)
  | .waits waiting => by cases waiting <;> unfold Draining <;> infer_instance
  | .ended _ => .isFalse id

/-! ## Transitions -/

variable {handle : StrategyHandle} {nextState : StrategyState} {next : StrategyHandle → Segment}

theorem transitionTo_allowed
    (h : handle.state = nextState ∨ nextState ∈ allowedStrategyStateTransitions handle.state) :
    handle.transitionTo nextState next = next { handle with state := nextState } := by
  rw [StrategyHandle.transitionTo, transitionStrategyState_ok h]

/-- A transition raises and changes nothing, or goes on in the next state. -/
theorem transitionTo_rec {Q : Segment → Prop} (hraised : ∀ e, Q { handle, progress := .ended (.raised e) })
    (hnext : Q (next { handle with state := nextState })) : Q (handle.transitionTo nextState next) := by
  by_cases h : handle.state = nextState ∨ nextState ∈ allowedStrategyStateTransitions handle.state
  · rw [transitionTo_allowed h]
    exact hnext
  · rw [StrategyHandle.transitionTo, transitionStrategyState, if_neg h]
    exact hraised _

/-- A publication leaves the handle alone and is over at once or waited for. -/
theorem publishHealthChanged_rec {Q : Segment → Prop} {waiting : Waiting}
    (hended : Q { handle, progress := .ended .returned }) (hwaits : Q { handle, progress := .waits waiting })
    (lifecycleEvents : Bool) (previousStatus : HealthStatus) :
    Q (handle.publishHealthChanged lifecycleEvents previousStatus waiting) := by
  rw [StrategyHandle.publishHealthChanged]
  split
  · exact hended
  · exact hwaits

theorem publishLifecycle_rec {Q : Segment → Prop} {waiting : Waiting}
    (hended : Q { handle, progress := .ended .returned }) (hwaits : Q { handle, progress := .waits waiting })
    (lifecycleEvents : Bool) : Q (handle.publishLifecycle lifecycleEvents waiting) := by
  rw [StrategyHandle.publishLifecycle]
  split
  · exact hwaits
  · exact hended

end StrategyRuntime
end Pmrp
