import Pmrp.Strategies.Correctness.Runs

/-!
# `Strategies.Correctness.Shutdown` — what a stop leaves behind

A stop and a start of one strategy do not wait for each other, and a handler can fail while its strategy drains: then
a coroutine finds a state from which its transition is not allowed, or a subscription is opened after the stop has
closed the one it knew.

- **Invariant.** `Inv`: a terminal strategy and one that is being stopped have no open subscription, a stop that has
  ended has left a terminal state, and no task has raised a lifecycle error.
- **Result.** `stops_cleanly` — the invariant in every run whose steps are `Orderly`. `start_after_stop` is a run with
  a stop during the initialization.
-/

namespace Pmrp
namespace StrategyRuntime

def Terminal (handle : StrategyHandle) : Prop := handle.state ∈ terminalStrategyStates

/-- The handle has no open subscription. -/
def Closed (handle : StrategyHandle) : Prop := ∀ subscription ∈ handle.subscription, subscription.closed = true

/-- The role of the tasks that wait here. -/
def roleOf : Waiting → TaskRole
  | .startSpawned | .initializing _ | .startPublishing => .start
  | .stopSpawned _ | .joining _ _ _ | .shuttingDown _ _ | .stopPublishing => .stop
  | .nextEvent | .processing | .consumerPublishing => .consume

/-- What an `await` may give in a state of the strategy. -/
def OrderlyResume (runtime : StrategyRuntime) (strategyId : StrategyId) (state : StrategyState) :
    Waiting → Resume → Prop
  -- no start begins while a stop or a failure is being dealt with
  | .startSpawned, .begins => state ≠ .degraded ∧ state ≠ .draining
  -- an initialization succeeds only before a stop has begun, and does not fail once another start or a stop is done
  | .initializing _, .initialized true true =>
      state = .initializing ∧ ∀ t ∈ runtime.tasks, t.strategyId = strategyId → ¬Draining t.progress
  | .initializing _, .initialized _ _ => state = .initializing ∨ state = .failed
  -- no handler fails while its strategy drains
  | .processing, .processed false => state = .running ∨ state = .degraded
  -- the publisher of lifecycle events has not failed in the task that consumes the events
  | .joining _ _ task, .joined => ∀ t ∈ runtime.tasks[task]?, t.progress ≠ .ended .publisherRaised
  -- stops and starts of a strategy that overlap agree on its last state
  | .shuttingDown _ _, .shutdown true => state ≠ .failed
  | .shuttingDown _ _, .shutdown false => state ≠ .stopped
  | _, _ => True

instance (runtime : StrategyRuntime) (strategyId : StrategyId) (state : StrategyState) (waiting : Waiting)
    (resume : Resume) : Decidable (OrderlyResume runtime strategyId state waiting resume) := by
  induction waiting using Waiting.casesOn <;> induction resume using Resume.casesOn <;> try exact .isTrue trivial
  case startSpawned.begins => exact inferInstanceAs (Decidable (state ≠ .degraded ∧ state ≠ .draining))
  case initializing.initialized initialized subscribed =>
    cases initialized
    case false => exact inferInstanceAs (Decidable (state = .initializing ∨ state = .failed))
    cases subscribed
    case false => exact inferInstanceAs (Decidable (state = .initializing ∨ state = .failed))
    exact inferInstanceAs (Decidable (state = .initializing ∧
      ∀ t ∈ runtime.tasks, t.strategyId = strategyId → ¬Draining t.progress))
  case processing.processed succeeded =>
    cases succeeded
    case false => exact inferInstanceAs (Decidable (state = .running ∨ state = .degraded))
    exact .isTrue trivial
  case joining.joined task =>
    exact inferInstanceAs (Decidable (∀ t ∈ runtime.tasks[task]?, t.progress ≠ .ended .publisherRaised))
  case shuttingDown.shutdown succeeded =>
    cases succeeded
    case false => exact inferInstanceAs (Decidable (state ≠ .stopped))
    exact inferInstanceAs (Decidable (state ≠ .failed))

/-- The step of a task is orderly. -/
def OrderlyTask (runtime : StrategyRuntime) (strategyId : StrategyId) (state : StrategyState) (resume : Resume) :
    Progress → Prop
  | .waits waiting => OrderlyResume runtime strategyId state waiting resume
  | .ended _ => True

instance (runtime : StrategyRuntime) (strategyId : StrategyId) (state : StrategyState) (resume : Resume) :
    (progress : Progress) → Decidable (OrderlyTask runtime strategyId state resume progress)
  | .waits waiting => inferInstanceAs (Decidable (OrderlyResume runtime strategyId state waiting resume))
  | .ended _ => .isTrue trivial

def Orderly (runtime : StrategyRuntime) : Action → Prop
  | .run n _ resume => ∀ task ∈ runtime.tasks[n]?, ∀ handle ∈ runtime.handles task.strategyId,
      OrderlyTask runtime task.strategyId handle.state resume task.progress
  | _ => True

instance (runtime : StrategyRuntime) : (action : Action) → Decidable (Orderly runtime action)
  | .run n _ resume => inferInstanceAs (Decidable (∀ task ∈ runtime.tasks[n]?,
      ∀ handle ∈ runtime.handles task.strategyId,
        OrderlyTask runtime task.strategyId handle.state resume task.progress))
  | .register _ _ _ => .isTrue trivial
  | .start => .isTrue trivial
  | .stop _ => .isTrue trivial

/-! ## Segments -/

structure HandleInv (handle : StrategyHandle) : Prop where
  created : handle.state = .created ∨ handle.state = .initializing → handle.subscription = none
  terminalClosed : Terminal handle → Closed handle

/-- The strategy is being initialized and nobody stops it. -/
def Opening (runtime : StrategyRuntime) (strategyId : StrategyId) (handle : StrategyHandle) : Prop :=
  handle.state = .initializing ∧ ∀ t ∈ runtime.tasks, t.strategyId = strategyId → ¬Draining t.progress

/-- What a segment leaves when nothing goes wrong; `opening` says that it may have opened a subscription. -/
structure Sound (opening : Prop) (waiting : Waiting) (handle : StrategyHandle) (segment : Segment) : Prop where
  notRaised : ∀ e, segment.progress ≠ .ended (.raised e)
  inv : HandleInv segment.handle
  terminal : Terminal handle → Terminal segment.handle
  closed : (Closed handle → Closed segment.handle) ∨ opening
  draining : Draining segment.progress → Closed segment.handle
  stopped : roleOf waiting = .stop → ¬Draining segment.progress → Terminal segment.handle
  role : ∀ w, segment.progress = .waits w → roleOf w = roleOf waiting

variable {handle : StrategyHandle} {opening : Prop}

theorem closed_closeSubscription (handle : StrategyHandle) : Closed handle.closeSubscription := by
  intro subscription hsubscription
  obtain ⟨_, _, rfl⟩ := Option.map_eq_some_iff.mp hsubscription
  rfl

theorem closed_of_none (h : handle.subscription = none) : Closed handle := by
  intro subscription hsubscription
  rw [h] at hsubscription
  cases hsubscription

theorem inv_of_closed {next : StrategyHandle} (hstate : next.state ≠ .created ∧ next.state ≠ .initializing)
    (hclosed : Closed next) : HandleInv next := by
  refine ⟨?_, fun _ => hclosed⟩
  rintro (h | h)
  · exact absurd h hstate.1
  · exact absurd h hstate.2

theorem inv_of_running {next : StrategyHandle} (hstate : next.state = .running) : HandleInv next := by
  refine ⟨?_, ?_⟩
  · intro h
    rw [hstate] at h
    rcases h with h | h <;> cases h
  · intro h
    rw [Terminal, hstate] at h
    exact absurd h (by decide)

theorem terminal_failed {next : StrategyHandle} (hstate : next.state = .failed) : Terminal next := by
  rw [Terminal, hstate]
  decide

theorem terminal_stopped {next : StrategyHandle} (hstate : next.state = .stopped) : Terminal next := by
  rw [Terminal, hstate]
  decide

theorem failed_ne : StrategyState.failed ≠ .created ∧ StrategyState.failed ≠ .initializing := by decide

theorem stopped_ne : StrategyState.stopped ≠ .created ∧ StrategyState.stopped ≠ .initializing := by decide

theorem degraded_ne : StrategyState.degraded ≠ .created ∧ StrategyState.degraded ≠ .initializing := by decide

theorem returned_ne_raised (e : StrategyError) : Ended.returned ≠ .raised e := by
  intro h
  cases h

/-- A segment that ends. -/
theorem sound_ended {waiting : Waiting} {next : StrategyHandle} {how : Ended} {createsTask : Bool}
    (hhow : ∀ e, how ≠ .raised e) (hinv : HandleInv next) (hterminal : Terminal handle → Terminal next)
    (hclosed : (Closed handle → Closed next) ∨ opening) (hstopped : roleOf waiting = .stop → Terminal next) :
    Sound opening waiting handle { handle := next, progress := .ended how, createsTask } := by
  refine ⟨?_, hinv, hterminal, hclosed, False.elim, fun hrole _ => hstopped hrole, ?_⟩
  · intro e he
    exact hhow e (Progress.ended.inj he)
  · intro w hw
    cases hw

/-- A segment that waits again, for something that is no part of the draining. -/
theorem sound_waits {waiting waiting' : Waiting} {next : StrategyHandle} {createsTask : Bool} (hinv : HandleInv next)
    (hterminal : Terminal handle → Terminal next) (hclosed : (Closed handle → Closed next) ∨ opening)
    (hstopped : roleOf waiting = .stop → Terminal next) (hrole : roleOf waiting' = roleOf waiting)
    (hdraining : ¬Draining (.waits waiting')) :
    Sound opening waiting handle { handle := next, progress := .waits waiting', createsTask } := by
  refine ⟨?_, hinv, hterminal, hclosed, fun h => absurd h hdraining, fun h _ => hstopped h, ?_⟩
  · intro e he
    cases he
  · intro w hw
    cases hw
    exact hrole

/-- A segment of a stop that goes on draining. -/
theorem sound_draining {waiting waiting' : Waiting} {next : StrategyHandle} (hinv : HandleInv next)
    (hterminal : Terminal handle → Terminal next) (hclosed : Closed next) (hrole : roleOf waiting' = roleOf waiting)
    (hdraining : Draining (.waits waiting')) :
    Sound opening waiting handle { handle := next, progress := .waits waiting' } := by
  refine ⟨?_, hinv, hterminal, Or.inl fun _ => hclosed, fun _ => hclosed, fun _ h => absurd hdraining h, ?_⟩
  · intro e he
    cases he
  · intro w hw
    cases hw
    exact hrole

theorem sound_beginStart (hinv : HandleInv handle) (hstate : handle.state ≠ .degraded ∧ handle.state ≠ .draining) :
    Sound opening .startSpawned handle handle.beginStart := by
  rw [StrategyHandle.beginStart]
  split
  · refine sound_ended returned_ne_raised hinv id (Or.inl id) ?_
    intro h
    cases h
  · rename_i hrunning
    rw [not_or] at hrunning
    have hcreated : handle.state = .created ∨ handle.state = .initializing := by
      cases hs : handle.state
      case created => exact Or.inl rfl
      case initializing => exact Or.inr rfl
      case running => exact absurd hs hrunning.2
      case degraded => exact absurd hs hstate.1
      case draining => exact absurd hs hstate.2
      case stopped => exact absurd (by rw [hs]; decide) hrunning.1
      case failed => exact absurd (by rw [hs]; decide) hrunning.1
    have hnone := hinv.created hcreated
    rw [transitionTo_allowed]
    · refine sound_waits ⟨fun _ => hnone, fun _ => closed_of_none hnone⟩ (fun h => absurd h hrunning.1)
        (Or.inl id) ?_ rfl id
      intro h
      cases h
    · rcases hcreated with hs | hs
      · exact Or.inr (by rw [hs]; decide)
      · exact Or.inl hs

theorem sound_startFailure (hinv : HandleInv handle) (hstate : handle.state = .initializing ∨ handle.state = .failed)
    (lifecycleEvents : Bool) (now : UTCDateTime) (previousStatus previousStatus' : HealthStatus) (message : String) :
    Sound opening (.initializing previousStatus') handle
      (handle.startFailure lifecycleEvents now previousStatus message) := by
  have hclosed : Closed handle := by
    rcases hstate with hs | hs
    · exact closed_of_none (hinv.created (Or.inr hs))
    · exact hinv.terminalClosed (by rw [Terminal, hs]; decide)
  rw [StrategyHandle.startFailure, transitionTo_allowed]
  · refine publishHealthChanged_rec (Q := Sound opening (.initializing previousStatus') handle) ?_ ?_ _ _
    · refine sound_ended returned_ne_raised (inv_of_closed failed_ne hclosed) (fun _ => terminal_failed rfl)
        (Or.inl fun _ => hclosed) ?_
      intro h
      cases h
    · refine sound_waits (inv_of_closed failed_ne hclosed) (fun _ => terminal_failed rfl) (Or.inl fun _ => hclosed) ?_
        rfl id
      intro h
      cases h
  · rcases hstate with hs | hs
    · exact Or.inr (by show StrategyState.failed ∈ allowedStrategyStateTransitions handle.state; rw [hs]; decide)
    · exact Or.inl hs

theorem sound_afterInitialize {runtime : StrategyRuntime} {strategyId : StrategyId} {previousStatus : HealthStatus}
    {initialized subscribed : Bool} (hinv : HandleInv handle)
    (horderly : OrderlyResume runtime strategyId handle.state (.initializing previousStatus)
      (.initialized initialized subscribed)) (lifecycleEvents : Bool) (now : UTCDateTime) (task : ℕ) :
    Sound (Opening runtime strategyId handle) (.initializing previousStatus) handle
      (handle.afterInitialize lifecycleEvents now task previousStatus initialized subscribed) := by
  cases initialized with
  | false => exact sound_startFailure hinv horderly _ _ _ _ _
  | true =>
      cases subscribed with
      | false => exact sound_startFailure hinv horderly _ _ _ _ _
      | true =>
          obtain ⟨hstate, hdraining⟩ := horderly
          have hbefore : ¬Terminal handle := by
            rw [Terminal, hstate]
            decide
          rw [StrategyHandle.afterInitialize, if_neg (by decide), if_neg (by decide), transitionTo_allowed]
          · refine publishLifecycle_rec (Q := fun segment => Sound (Opening runtime strategyId handle)
              (.initializing previousStatus) handle { segment with createsTask := true }) ?_ ?_ _
            · refine sound_ended returned_ne_raised (inv_of_running rfl) (fun h => absurd h hbefore)
                (Or.inr ⟨hstate, hdraining⟩) ?_
              intro h
              cases h
            · refine sound_waits (inv_of_running rfl) (fun h => absurd h hbefore) (Or.inr ⟨hstate, hdraining⟩) ?_ rfl id
              intro h
              cases h
          · exact Or.inr (by
              show StrategyState.running ∈ allowedStrategyStateTransitions handle.state
              rw [hstate]
              decide)

/-! ### Events -/

theorem sound_receiveEvent (hinv : HandleInv handle) (eventType : Option String) :
    Sound opening .nextEvent handle (handle.receiveEvent eventType) := by
  have hsame : ∀ n, HandleInv { handle with ignoredEvents := n } := fun _ => ⟨hinv.created, hinv.terminalClosed⟩
  rw [StrategyHandle.receiveEvent]
  split
  · refine sound_ended returned_ne_raised hinv id (Or.inl id) ?_
    intro h
    cases h
  · split
    · refine sound_waits (hsame _) id (Or.inl id) ?_ rfl id
      intro h
      cases h
    · refine sound_waits hinv id (Or.inl id) ?_ rfl id
      intro h
      cases h

theorem sound_afterEvent {runtime : StrategyRuntime} {strategyId : StrategyId} {processed : Bool}
    (hinv : HandleInv handle)
    (horderly : OrderlyResume runtime strategyId handle.state .processing (.processed processed))
    (lifecycleEvents : Bool) (now : UTCDateTime) :
    Sound opening .processing handle (handle.afterEvent lifecycleEvents now processed) := by
  cases processed with
  | true =>
      refine sound_waits ⟨hinv.created, hinv.terminalClosed⟩ id (Or.inl id) ?_ rfl id
      intro h
      cases h
  | false =>
      have hbefore : ¬Terminal handle := by
        rcases horderly with hs | hs <;> rw [Terminal, hs] <;> decide
      rw [StrategyHandle.afterEvent]
      dsimp only
      rw [if_neg Bool.false_ne_true, StrategyHandle.degrade, transitionTo_allowed]
      · refine publishHealthChanged_rec (Q := Sound opening .processing handle) ?_ ?_ _ _
        · refine sound_ended returned_ne_raised (inv_of_closed degraded_ne (closed_closeSubscription _))
            (fun h => absurd h hbefore) (Or.inl fun _ => closed_closeSubscription _) ?_
          intro h
          cases h
        · refine sound_waits (inv_of_closed degraded_ne (closed_closeSubscription _)) (fun h => absurd h hbefore)
            (Or.inl fun _ => closed_closeSubscription _) ?_ rfl id
          intro h
          cases h
      · rcases horderly with hs | hs
        · exact Or.inr (by
            show StrategyState.degraded ∈ allowedStrategyStateTransitions handle.state
            rw [hs]
            decide)
        · exact Or.inl hs

/-! ### Stops -/

theorem sound_joinOrShutDown {next : StrategyHandle} {spawnReason reason : String} {previousStatus : HealthStatus}
    (hbefore : ¬Terminal handle) (hinv : HandleInv next.closeSubscription) :
    Sound opening (.stopSpawned spawnReason) handle (next.joinOrShutDown reason previousStatus) := by
  rw [StrategyHandle.joinOrShutDown]
  split
  · exact sound_draining hinv (fun h => absurd h hbefore) (closed_closeSubscription next) rfl trivial
  · exact sound_draining hinv (fun h => absurd h hbefore) (closed_closeSubscription next) rfl trivial

theorem sound_beginStop (hinv : HandleInv handle) (reason : String) :
    Sound opening (.stopSpawned reason) handle (handle.beginStop reason) := by
  rw [StrategyHandle.beginStop]
  split
  · rename_i hterminal
    exact sound_ended returned_ne_raised hinv id (Or.inl id) fun _ => hterminal
  · rename_i hbefore
    split
    · rename_i hstate
      rw [transitionTo_allowed]
      · refine sound_joinOrShutDown hbefore (inv_of_closed ?_ (closed_closeSubscription _))
        show StrategyState.draining ≠ .created ∧ StrategyState.draining ≠ .initializing
        decide
      · rcases hstate with hs | hs <;> exact Or.inr (by rw [hs]; decide)
    · refine sound_joinOrShutDown hbefore ⟨?_, fun _ => closed_closeSubscription handle⟩
      intro h
      show handle.subscription.map _ = none
      rw [hinv.created h, Option.map_none]

theorem sound_afterJoin {reason : String} {previousStatus : HealthStatus} {task : ℕ} {how : Ended}
    (hinv : HandleInv handle) (hclosed : Closed handle) (hhow : how = .returned) :
    Sound opening (.joining reason previousStatus task) handle (handle.afterJoin reason previousStatus how) := by
  subst hhow
  exact sound_draining hinv id hclosed rfl trivial

theorem stopped_allowed {state : StrategyState} (h : state ≠ .failed) :
    state = .stopped ∨ .stopped ∈ allowedStrategyStateTransitions state := by
  cases state
  case failed => exact absurd rfl h
  all_goals decide

theorem failed_allowed {state : StrategyState} (h : state ≠ .stopped) :
    state = .failed ∨ .failed ∈ allowedStrategyStateTransitions state := by
  cases state
  case stopped => exact absurd rfl h
  all_goals decide

theorem sound_afterShutdown {runtime : StrategyRuntime} {strategyId : StrategyId} {reason : String}
    {previousStatus : HealthStatus} {shutdown : Bool} (hclosed : Closed handle)
    (horderly : OrderlyResume runtime strategyId handle.state (.shuttingDown reason previousStatus)
        (.shutdown shutdown))
    (lifecycleEvents : Bool) (now : UTCDateTime) :
    Sound opening (.shuttingDown reason previousStatus) handle
      (handle.afterShutdown lifecycleEvents now previousStatus shutdown) := by
  cases shutdown with
  | true =>
      rw [StrategyHandle.afterShutdown, if_pos rfl, transitionTo_allowed]
      · refine publishLifecycle_rec (Q := Sound opening (.shuttingDown reason previousStatus) handle) ?_ ?_ _
        · exact sound_ended returned_ne_raised (inv_of_closed stopped_ne hclosed) (fun _ => terminal_stopped rfl)
            (Or.inl fun _ => hclosed) fun _ => terminal_stopped rfl
        · refine sound_waits (inv_of_closed stopped_ne hclosed) (fun _ => terminal_stopped rfl)
            (Or.inl fun _ => hclosed) (fun _ => terminal_stopped rfl) rfl id
      · exact stopped_allowed horderly
  | false =>
      rw [StrategyHandle.afterShutdown, if_neg Bool.false_ne_true, transitionTo_allowed]
      · refine publishHealthChanged_rec (Q := Sound opening (.shuttingDown reason previousStatus) handle) ?_ ?_ _ _
        · exact sound_ended returned_ne_raised (inv_of_closed failed_ne hclosed) (fun _ => terminal_failed rfl)
            (Or.inl fun _ => hclosed) fun _ => terminal_failed rfl
        · refine sound_waits (inv_of_closed failed_ne hclosed) (fun _ => terminal_failed rfl)
            (Or.inl fun _ => hclosed) (fun _ => terminal_failed rfl) rfl id
      · exact failed_allowed horderly

theorem sound_afterPublish {waiting : Waiting} (hinv : HandleInv handle)
    (hstopped : roleOf waiting = .stop → Terminal handle) (published : Bool) :
    Sound opening waiting handle (afterPublish handle published) := by
  refine sound_ended ?_ hinv id (Or.inl id) hstopped
  intro e
  cases published <;> intro h <;> cases h

/-! ## Runs -/

/-- What holds of a task and the handle of its strategy. -/
structure TaskInv (handle : StrategyHandle) (task : StrategyTask) : Prop where
  draining : Draining task.progress → Closed handle
  stopped : task.role = .stop → ¬Draining task.progress → (¬∃ reason, task.progress = .waits (.stopSpawned reason)) →
    Terminal handle

structure Inv (runtime : StrategyRuntime) : Prop where
  handles : ∀ id handle, runtime.handles id = some handle → HandleInv handle
  tasks : ∀ t ∈ runtime.tasks, ∀ handle, runtime.handles t.strategyId = some handle → TaskInv handle t
  roles : ∀ t ∈ runtime.tasks, ∀ w, t.progress = .waits w → roleOf w = t.role
  notRaised : ∀ t ∈ runtime.tasks, ∀ e, t.progress ≠ .ended (.raised e)
  known : ∀ t ∈ runtime.tasks, t.strategyId ∈ runtime.registered

theorem resume_sound {runtime : StrategyRuntime} (h : Inv runtime) {n : ℕ} {task : StrategyTask} {waiting : Waiting}
    {segment : Segment} {now : UTCDateTime} {resume : Resume} (hwaits : runtime.Waits n task waiting handle)
    (horderly : OrderlyResume runtime task.strategyId handle.state waiting resume)
    (hresume : runtime.resume now handle waiting resume = some segment) :
    Sound (Opening runtime task.strategyId handle) waiting handle segment := by
  have hinv := h.handles _ _ hwaits.lookup
  have htask := h.tasks task hwaits.mem handle hwaits.lookup
  have hrole := h.roles task hwaits.mem waiting hwaits.waits
  have hdraining : Draining (.waits waiting) → Closed handle := fun hd => htask.draining (hwaits.waits ▸ hd)
  cases waiting with
  | startSpawned =>
      cases resume <;> cases hresume
      exact sound_beginStart hinv horderly
  | initializing previousStatus =>
      cases resume <;> cases hresume
      exact sound_afterInitialize hinv horderly _ _ _
  | startPublishing =>
      cases resume <;> cases hresume
      refine sound_afterPublish hinv ?_ _
      intro hstop
      cases hstop
  | stopSpawned reason =>
      cases resume <;> cases hresume
      exact sound_beginStop hinv reason
  | joining reason previousStatus task' =>
      cases resume with
      | joined =>
          -- no consumer of a sound runtime ends with a raise of its own, and an orderly run joins none whose publisher
          -- raised
          rw [StrategyRuntime.resume] at hresume
          split at hresume
          · rename_i how hhow
            obtain ⟨t, ht, hprogress⟩ := Option.map_eq_some_iff.mp hhow
            cases hresume
            refine sound_afterJoin hinv (hdraining trivial) ?_
            cases how with
            | returned => rfl
            | raised e => exact absurd hprogress (h.notRaised t (List.mem_of_getElem? ht) e)
            | publisherRaised => exact absurd hprogress (horderly t ht)
          · cases hresume
      | _ => cases hresume
  | shuttingDown reason previousStatus =>
      cases resume <;> cases hresume
      exact sound_afterShutdown (hdraining trivial) horderly _ _
  | stopPublishing =>
      cases resume <;> cases hresume
      refine sound_afterPublish hinv ?_ _
      intro _
      refine htask.stopped hrole.symm ?_ ?_
      · rw [hwaits.waits]
        exact id
      · rw [hwaits.waits]
        rintro ⟨reason, hcontra⟩
        cases hcontra
  | nextEvent =>
      cases resume with
      | event eventType =>
          cases hresume
          exact sound_receiveEvent hinv eventType
      | streamEnded =>
          rw [StrategyRuntime.resume] at hresume
          split at hresume
          · cases hresume
            refine sound_ended returned_ne_raised hinv id (Or.inl id) ?_
            intro hstop
            cases hstop
          · cases hresume
      | _ => cases hresume
  | processing =>
      cases resume <;> cases hresume
      exact sound_afterEvent hinv horderly _ _
  | consumerPublishing =>
      cases resume <;> cases hresume
      refine sound_afterPublish hinv ?_ _
      intro hstop
      cases hstop

theorem inv_gather {runtime : StrategyRuntime} (h : Inv runtime) (started : Bool) {role : TaskRole}
    {waiting : Waiting} (hdraining : ¬Draining (.waits waiting)) (hrole : roleOf waiting = role)
    (hspawned : role = .stop → ∃ reason, waiting = .stopSpawned reason) :
    Inv ({ runtime with started }.gather role waiting) := by
  refine ⟨h.handles, ?_, ?_, ?_, ?_⟩
  · intro t ht handle hid
    rcases mem_gather ht with ht | ⟨htRole, hprogress, _⟩
    · exact h.tasks t ht handle hid
    · refine ⟨fun hd => absurd (hprogress ▸ hd) hdraining, fun hstop _ hnot => absurd ?_ hnot⟩
      obtain ⟨reason, hreason⟩ := hspawned (htRole.symm.trans hstop)
      exact ⟨reason, by rw [hprogress, hreason]⟩
  · intro t ht w hw
    rcases mem_gather ht with ht | ⟨htRole, hprogress, _⟩
    · exact h.roles t ht w hw
    · rw [hprogress] at hw
      cases hw
      exact hrole.trans htRole.symm
  · intro t ht e
    rcases mem_gather ht with ht | ⟨_, hprogress, _⟩
    · exact h.notRaised t ht e
    · rw [hprogress]
      intro hcontra
      cases hcontra
  · intro t ht
    rcases mem_gather ht with ht | ⟨_, _, hregistered⟩
    · exact h.known t ht
    · exact hregistered

theorem inv_register {runtime runtime' : StrategyRuntime} (h : Inv runtime) {context : StrategyContext}
    {subscribedEventTypes : List String} {queueSize : ℕ}
    (hregister : runtime.register context subscribedEventTypes queueSize = .ok runtime') : Inv runtime' := by
  obtain ⟨hnew, hregistered, htasks, hhandles⟩ := register_ok hregister
  refine ⟨?_, ?_, ?_, ?_, ?_⟩
  · intro id handle hid
    rcases hhandles id handle hid with ⟨rfl, rfl⟩ | ⟨_, hid⟩
    · exact ⟨fun _ => rfl, fun _ => closed_of_none rfl⟩
    · exact h.handles id handle hid
  · intro t ht handle hid
    rw [htasks] at ht
    rcases hhandles t.strategyId handle hid with ⟨hsame, _⟩ | ⟨_, hid⟩
    · exact absurd (hsame ▸ h.known t ht) hnew
    · exact h.tasks t ht handle hid
  · rw [htasks]
    exact h.roles
  · rw [htasks]
    exact h.notRaised
  · intro t ht
    rw [htasks] at ht
    rw [hregistered]
    exact List.mem_append_left _ (h.known t ht)

/-- The other tasks of the strategy still have what they rely on. -/
theorem taskInv_of_sound {runtime : StrategyRuntime} {strategyId : StrategyId} {waiting : Waiting}
    {segment : Segment} {t : StrategyTask} (hsound : Sound (Opening runtime strategyId handle) waiting handle segment)
    (ht : t ∈ runtime.tasks) (hid : t.strategyId = strategyId) (htask : TaskInv handle t) :
    TaskInv segment.handle t := by
  refine ⟨?_, fun hstop hdraining hspawned => hsound.terminal (htask.stopped hstop hdraining hspawned)⟩
  intro hdraining
  rcases hsound.closed with hclosed | ⟨_, hnone⟩
  · exact hclosed (htask.draining hdraining)
  · exact absurd hdraining (hnone t ht hid)

theorem inv_step {runtime runtime' : StrategyRuntime} {action : Action} (h : Inv runtime)
    (horderly : Orderly runtime action) (hstep : Step runtime action runtime') : Inv runtime' := by
  cases hstep with
  | register hregister => exact inv_register h hregister
  | start =>
      rw [StrategyRuntime.start]
      split
      · exact h
      · refine inv_gather h true id rfl ?_
        intro hstop
        cases hstop
  | stop reason => exact inv_gather h false id rfl fun _ => ⟨reason, rfl⟩
  | run now resume hwaits hresume =>
      rename_i n task waiting handle segment
      have hresumed : OrderlyResume runtime task.strategyId handle.state waiting resume := by
        have htask := horderly task hwaits.getElem handle hwaits.lookup
        rw [hwaits.waits] at htask
        exact htask
      have hsound := resume_sound h hwaits hresumed hresume
      have hrole := h.roles task hwaits.mem waiting hwaits.waits
      refine { handles := ?handles, tasks := ?tasks, roles := ?roles, notRaised := ?notRaised, known := ?known }
      case handles =>
        intro id handle' hid
        rcases handles_afterSegment hid with ⟨_, rfl⟩ | ⟨_, hid⟩
        · exact hsound.inv
        · exact h.handles id handle' hid
      case tasks =>
        -- a task after the segment is an earlier one, the one that ran, or one that it has spawned
        intro t ht handle' hid
        rcases mem_afterSegment ht with ht | rfl | rfl
        · rcases handles_afterSegment hid with ⟨hsame, rfl⟩ | ⟨_, hid⟩
          · exact taskInv_of_sound hsound ht hsame (h.tasks t ht handle (hsame ▸ hwaits.lookup))
          · exact h.tasks t ht handle' hid
        · rcases handles_afterSegment hid with ⟨_, rfl⟩ | ⟨hne, _⟩
          · exact ⟨hsound.draining, fun hstop hdraining _ => hsound.stopped (hrole.trans hstop) hdraining⟩
          · exact absurd rfl hne
        · refine ⟨fun hd => hd.elim, fun hstop => ?_⟩
          cases hstop
      case roles =>
        intro t ht w hw
        rcases mem_afterSegment ht with ht | rfl | rfl
        · exact h.roles t ht w hw
        · exact (hsound.role w hw).trans hrole
        · cases hw
          rfl
      case notRaised =>
        intro t ht e
        rcases mem_afterSegment ht with ht | rfl | rfl
        · exact h.notRaised t ht e
        · exact hsound.notRaised e
        · intro hcontra
          cases hcontra
      case known =>
        intro t ht
        rcases mem_afterSegment ht with ht | rfl | rfl
        · exact h.known t ht
        · exact h.known task hwaits.mem
        · exact h.known task hwaits.mem

theorem inv_empty (lifecycleEvents : Bool) : Inv { lifecycleEvents } := by
  have hnone : ∀ t : StrategyTask, t ∈ ({ lifecycleEvents } : StrategyRuntime).tasks → False := by
    intro t ht
    cases ht
  refine ⟨?_, ?_, ?_, ?_, ?_⟩
  · intro id handle hid
    cases hid
  · exact fun t ht => (hnone t ht).elim
  · exact fun t ht => (hnone t ht).elim
  · exact fun t ht => (hnone t ht).elim
  · exact fun t ht => (hnone t ht).elim

/-- **What a stop leaves behind.** No task has raised a lifecycle error, and a strategy with a stop that has ended is
in a terminal state and has no open subscription. -/
theorem stops_cleanly (lifecycleEvents : Bool) {runtime : StrategyRuntime}
    (hreach : Reaches Step Orderly { lifecycleEvents } runtime) :
    (∀ t ∈ runtime.tasks, ∀ e, t.progress ≠ .ended (.raised e)) ∧
      ∀ t ∈ runtime.tasks, ∀ how handle, t.role = .stop → t.progress = .ended how →
        runtime.handles t.strategyId = some handle →
        (handle.state = .stopped ∨ handle.state = .failed) ∧
          ∀ subscription ∈ handle.subscription, subscription.closed = true := by
  have h : Inv runtime := by
    refine Reaches.inv Inv ?_ hreach (inv_empty lifecycleEvents)
    intro t action u ht horderly hstep
    exact inv_step ht horderly hstep
  refine ⟨h.notRaised, ?_⟩
  intro t ht how handle hstop hended hid
  have hterminal : Terminal handle := by
    refine (h.tasks t ht handle hid).stopped hstop ?_ ?_
    · rw [hended]
      exact id
    · rw [hended]
      rintro ⟨reason, hcontra⟩
      cases hcontra
  refine ⟨?_, (h.handles t.strategyId handle hid).terminalClosed hterminal⟩
  rcases List.mem_cons.mp hterminal with hstate | hstate
  · exact Or.inl hstate
  · exact Or.inr (List.mem_singleton.mp hstate)

def momentum : StrategyId := ⟨"strat_momentum", by decide⟩

/-- A strategy is started, and two stops of it overlap. -/
theorem stops_cleanly_momentum : ∃ (runtime : StrategyRuntime) (handle : StrategyHandle),
    runtime.handles momentum = some handle ∧ handle.subscription.isSome ∧
      ∀ subscription ∈ handle.subscription, subscription.closed = true := by
  have hrun : ∃ runtime ∈ ({ lifecycleEvents := false } : StrategyRuntime).runUnder Orderly
      [.register { strategyId := momentum } ["market.trade"] 8, .start, .run 0 0 .begins,
        .run 0 1 (.initialized true true), .stop "done", .run 2 2 .begins, .stop "again", .run 3 3 .begins,
        .run 1 4 .streamEnded, .run 3 5 .joined, .run 2 5 .joined, .run 3 6 (.shutdown true),
        .run 2 7 (.shutdown true)],
      (∃ handle ∈ runtime.handles momentum, handle.subscription.isSome) ∧
      ∃ t ∈ runtime.tasks, t.role = .stop ∧ t.progress = .ended .returned ∧ t.strategyId = momentum := by
    decide +kernel
  obtain ⟨runtime, hrun, ⟨handle, hid, hsome⟩, t, ht, hstop, hended, hsame⟩ := hrun
  refine ⟨runtime, handle, hid, hsome, ?_⟩
  exact ((stops_cleanly false (reaches_of_runUnder .refl hrun)).2 t ht .returned handle hstop hended
    (hsame ▸ hid)).2

/-- A stop during the initialization: both have returned, the start with a lifecycle error, and the subscription that
it made is open. -/
theorem start_after_stop : ∃ (runtime : StrategyRuntime) (handle : StrategyHandle),
    Reaches Step (fun _ _ => True) { lifecycleEvents := false } runtime ∧
    (runtime.tasks.map fun t => (t.role, t.progress)) =
      [(.start, .ended (.raised
        { cls := .strategyLifecycleError, safeMessage := "Strategy lifecycle transition is not allowed"
          reasonCode := "strategy_lifecycle_transition_invalid"
          context := [("previous_state", "stopped"), ("next_state", "running")] })), (.stop, .ended .returned)] ∧
    runtime.handles momentum = some handle ∧ handle.subscription = some { closed := false } := by
  have hrun : ∃ runtime ∈ ({ lifecycleEvents := false } : StrategyRuntime).runUnder (fun _ _ => True)
      [.register { strategyId := momentum } ["market.trade"] 8, .start, .run 0 0 .begins, .stop "done",
        .run 1 1 .begins, .run 1 2 (.shutdown true), .run 0 3 (.initialized true true)],
      (runtime.tasks.map fun t => (t.role, t.progress)) =
        [(.start, .ended (.raised
          { cls := .strategyLifecycleError, safeMessage := "Strategy lifecycle transition is not allowed"
            reasonCode := "strategy_lifecycle_transition_invalid"
            context := [("previous_state", "stopped"), ("next_state", "running")] })), (.stop, .ended .returned)] ∧
      ∃ handle ∈ runtime.handles momentum, handle.subscription = some { closed := false } := by decide +kernel
  obtain ⟨runtime, hrun, htasks, handle, hid, hopen⟩ := hrun
  exact ⟨runtime, handle, reaches_of_runUnder .refl hrun, htasks, hid, hopen⟩

end StrategyRuntime
end Pmrp
