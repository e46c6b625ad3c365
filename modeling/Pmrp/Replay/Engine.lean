import Pmrp.Replay.Sorter
import Pmrp.Schemas.Replay

/-!
# `Replay.Engine` — publishing a dataset in replay order

`ReplayEngine.run` of `replay/engine.py`, with the dataset of `replay/loader.py` and the clock of `clock/replay.py`
and `replay/clock.py`. A dataset and a clock carry what their constructors check.

The event bus is a parameter: whether it accepts an event may depend on everything published before. A run
ends in what `run` returns or raises, and in the list of events that were published.
-/

namespace Pmrp

/-! ## Datasets -/

structure ReplayDataset where
  manifest : ReplayManifest
  events : List EventEnvelope
  datasetChecksum : String
  events_ne : events ≠ []
  checksum_eq : datasetChecksum = manifest.datasetChecksum
  in_session : ∀ e ∈ events, e.replaySessionId = some manifest.replaySessionId
  in_window : ∀ e ∈ events, manifest.startsAt ≤ e.occurredAt ∧ e.occurredAt ≤ manifest.endsAt

/-! ## The clock -/

structure ReplayClock where
  startsAt : UTCDateTime
  endsAt : UTCDateTime
  currentTime : UTCDateTime
  in_window : startsAt ≤ currentTime ∧ currentTime ≤ endsAt

namespace ReplayClock

def advanceTo (clock : ReplayClock) (t : UTCDateTime) : Result ReplayClock :=
  if h : clock.startsAt ≤ t ∧ t ≤ clock.endsAt then
    .ok { startsAt := clock.startsAt, endsAt := clock.endsAt, currentTime := t, in_window := h }
  else .error (valueError "replay clock time must be within the replay window")

/-- `_try_advance_clock_to_event` turns the error of `advanceTo` into the clock's own. -/
def advanceToEvent (clock : ReplayClock) (event : EventEnvelope) (replaySessionId : ReplaySessionId) :
    Result ReplayClock := do
  raiseIf (event.replaySessionId = none)
    ⟨.replayClockError, "Replay event must include replay_session_id before clock advancement"⟩
  raiseIf (event.replaySessionId ≠ some replaySessionId)
    ⟨.replayClockError, "Replay event replay_session_id does not match clock replay_session_id"⟩
  raiseIf (event.occurredAt < clock.currentTime)
    ⟨.replayClockError, "Replay event occurrence time cannot move clock backward"⟩
  match clock.advanceTo event.occurredAt with
  | .ok clock => .ok clock
  | .error _ =>
      .error ⟨.replayClockError, "Replay event occurrence time is outside the replay clock window"⟩

/-- An event of the session, not before the clock and inside its window, moves the clock to its time. -/
theorem advanceToEvent_eq_ok {clock : ReplayClock} {event : EventEnvelope} {sessionId : ReplaySessionId}
    (hsession : event.replaySessionId = some sessionId) (hnow : clock.currentTime ≤ event.occurredAt)
    (hend : event.occurredAt ≤ clock.endsAt) :
    ∃ clock', clock.advanceToEvent event sessionId = .ok clock' ∧ clock'.startsAt = clock.startsAt ∧
      clock'.endsAt = clock.endsAt ∧ clock'.currentTime = event.occurredAt := by
  have hwindow : clock.startsAt ≤ event.occurredAt ∧ event.occurredAt ≤ clock.endsAt :=
    ⟨clock.in_window.1.trans hnow, hend⟩
  refine ⟨⟨clock.startsAt, clock.endsAt, event.occurredAt, hwindow⟩, ?_, rfl, rfl, rfl⟩
  rw [advanceToEvent, raiseIf_bind_of_not (by simp [hsession]), raiseIf_bind_of_not (by simp [hsession]),
    raiseIf_bind_of_not (not_lt.mpr hnow), advanceTo, dif_pos hwindow]

end ReplayClock

/-! ## The engine -/

/-- After these events were published, does publishing this one return? -/
abbrev EventBus := List EventEnvelope → EventEnvelope → Bool

namespace ReplayEngine

variable (sha : Sha256)

def replayEngineVersion : String := "replay_engine_v1"

def calculateReplayResultChecksum (manifest : ReplayManifest) (orderedEvents : List EventEnvelope) : String :=
  let eventHashes := orderedEvents.map fun e => canonicalSha256 sha e.canonical
  canonicalSha256 sha
    (.mapping
      [("dataset_checksum", .str manifest.datasetChecksum), ("dataset_id", .str manifest.datasetId),
        ("engine_version", .str replayEngineVersion), ("event_hashes", .list (eventHashes.map .str)),
        ("event_ordering_policy_version", .str manifest.eventOrderingPolicyVersion),
        ("processed_events", .int eventHashes.length),
        ("replay_session_id", .str manifest.replaySessionId.val)])

def validateEngineInputs (manifest : ReplayManifest) (clock : ReplayClock) : Result Unit := do
  raiseIf (manifest.eventOrderingPolicyVersion ≠ ReplaySorter.replayOrderingPolicyVersion)
    ⟨.replayEngineError, "Replay manifest ordering policy is not supported by this replay engine"⟩
  raiseIf (clock.startsAt ≠ manifest.startsAt ∨ clock.endsAt ≠ manifest.endsAt)
    ⟨.replayEngineError, "Replay clock window must match replay manifest window"⟩

/-- The loop: the clock moves to each event before it is published. -/
def publishAll (bus : EventBus) (sessionId : ReplaySessionId) (clock : ReplayClock)
    (published : List EventEnvelope) : List EventEnvelope → Result ReplayClock × List EventEnvelope
  | [] => (.ok clock, published)
  | event :: events =>
      match clock.advanceToEvent event sessionId with
      | .error e => (.error e, published)
      | .ok clock =>
          if bus published event then publishAll bus sessionId clock (published ++ [event]) events
          else (.error ⟨.replayEngineError, "Replay event publication failed"⟩, published)

/-- The session record built after the loop. -/
def completedSession (manifest : ReplayManifest) (clock : ReplayClock) (processedEvents : ℕ)
    (resultChecksum : String) : ReplaySession where
  replaySessionId := manifest.replaySessionId
  manifest := manifest
  state := .completed
  currentTime := some clock.currentTime
  processedEvents := processedEvents
  startedAt := some manifest.startsAt
  completedAt := some clock.currentTime
  resultChecksum := some resultChecksum

def run (bus : EventBus) (clock : ReplayClock) (dataset : ReplayDataset) :
    Result ReplaySession × List EventEnvelope :=
  let ordered := do
    validateEngineInputs dataset.manifest clock
    ReplaySorter.sortReplayEvents dataset.events
  match ordered with
  | .error e => (.error e, [])
  | .ok orderedEvents =>
      match publishAll bus dataset.manifest.replaySessionId clock [] orderedEvents with
      | (.error e, published) => (.error e, published)
      | (.ok clock, published) =>
          ((completedSession dataset.manifest clock published.length
            (calculateReplayResultChecksum sha dataset.manifest orderedEvents)).validate, published)

/-! ## What the loop publishes -/

variable (bus : EventBus) (sessionId : ReplaySessionId) (clock : ReplayClock)

/-- Whatever happens, a prefix of the events is added to what was published. -/
theorem publishAll_isPrefix (published events : List EventEnvelope) :
    ∃ done, done <+: events ∧ (publishAll bus sessionId clock published events).2 = published ++ done := by
  induction events generalizing clock published with
  | nil => exact ⟨[], List.prefix_rfl, (List.append_nil _).symm⟩
  | cons event events ih =>
      rw [publishAll]
      split
      · exact ⟨[], List.nil_prefix, (List.append_nil _).symm⟩
      · split
        · obtain ⟨done, hdone, hpublished⟩ := ih _ _
          refine ⟨event :: done, (List.prefix_cons_inj event).mpr hdone, ?_⟩
          rw [hpublished, List.append_assoc, List.singleton_append]
        · exact ⟨[], List.nil_prefix, (List.append_nil _).symm⟩

/-- **The loop completes.** When every publish succeeds, sorted events of the session inside the window of a
    clock that stands before them are all published, and the clock ends at the last one. -/
theorem publishAll_completes (published : List EventEnvelope) {events : List EventEnvelope}
    (hbus : ∀ published e, bus published e = true) (hsession : ∀ e ∈ events, e.replaySessionId = some sessionId)
    (hend : ∀ e ∈ events, e.occurredAt ≤ clock.endsAt) (hnow : ∀ e ∈ events, clock.currentTime ≤ e.occurredAt)
    (hsorted : events.Pairwise fun a b => a.occurredAt ≤ b.occurredAt) :
    ∃ clock', publishAll bus sessionId clock published events = (.ok clock', published ++ events) ∧
      clock'.currentTime = (events.getLast?.map EventEnvelope.occurredAt).getD clock.currentTime := by
  induction events generalizing clock published with
  | nil => exact ⟨clock, by rw [publishAll, List.append_nil], rfl⟩
  | cons event events ih =>
      obtain ⟨hfirst, hrest⟩ := List.pairwise_cons.mp hsorted
      obtain ⟨clock₁, hadvance, -, hend₁, htime⟩ := ReplayClock.advanceToEvent_eq_ok
        (hsession event List.mem_cons_self) (hnow event List.mem_cons_self) (hend event List.mem_cons_self)
      -- the clock now stands at `event`, which comes before the rest
      obtain ⟨clock', hrun, hlast⟩ := ih clock₁ (published ++ [event])
        (fun e he => hsession e (List.mem_cons_of_mem _ he))
        (fun e he => hend₁ ▸ hend e (List.mem_cons_of_mem _ he)) (fun e he => htime ▸ hfirst e he) hrest
      refine ⟨clock', ?_, ?_⟩
      · rw [publishAll, hadvance]
        dsimp only
        rw [if_pos (hbus published event), hrun, List.append_assoc, List.singleton_append]
      · rw [hlast, htime]
        cases events with
        | nil => rfl
        | cons e es => rw [List.getLast?_cons_cons, List.getLast?_eq_some_getLast (List.cons_ne_nil e es)]; rfl

/-! ## What a run does -/

variable {clock} {dataset : ReplayDataset}

theorem validateEngineInputs_eq_ok {manifest : ReplayManifest} {u : Unit} :
    validateEngineInputs manifest clock = .ok u ↔
      manifest.eventOrderingPolicyVersion = ReplaySorter.replayOrderingPolicyVersion ∧
      clock.startsAt = manifest.startsAt ∧ clock.endsAt = manifest.endsAt := by
  simp only [validateEngineInputs, bind_eq_ok, raiseIf_eq_ok, exists_const, not_or, ne_eq, not_not]

/-- Either the inputs are refused and nothing is published, or the run is the loop over the sorted events. -/
theorem run_cases (clock : ReplayClock) (hvalid : ReplaySorter.OrderingValid dataset.events) :
    (∃ e, validateEngineInputs dataset.manifest clock = .error e ∧ run sha bus clock dataset = (.error e, [])) ∨
    (validateEngineInputs dataset.manifest clock = .ok ⟨⟩ ∧ run sha bus clock dataset =
      match publishAll bus dataset.manifest.replaySessionId clock []
        (sortByKey ReplaySorter.keyOf dataset.events) with
      | (.error e, published) => (.error e, published)
      | (.ok clock, published) =>
          ((completedSession dataset.manifest clock published.length
            (calculateReplayResultChecksum sha dataset.manifest
              (sortByKey ReplaySorter.keyOf dataset.events))).validate, published)) := by
  unfold run
  cases hinputs : validateEngineInputs dataset.manifest clock with
  | error e => exact Or.inl ⟨e, rfl, rfl⟩
  | ok u => exact Or.inr ⟨rfl, by rw [ok_bind, ReplaySorter.sortReplayEvents_eq_ok hvalid]⟩

end ReplayEngine
end Pmrp
