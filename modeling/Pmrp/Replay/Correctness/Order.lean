import Pmrp.Replay.Engine

/-!
# `Replay.Correctness.Order` — replaying the same events in the same order

The input order of the events matters exactly when different events tie in the whole ordering key
(`deterministic_iff`). The key ends in the event id, but a dataset may hold one id twice.
-/

namespace Pmrp

def ReplayClock.ofManifest (manifest : ReplayManifest) : ReplayClock where
  startsAt := manifest.startsAt
  endsAt := manifest.endsAt
  currentTime := manifest.startsAt
  in_window := ⟨le_refl _, manifest.starts_before_ends.le⟩

def ReplayDataset.permuted (dataset : ReplayDataset) (events : List EventEnvelope)
    (h : events.Perm dataset.events) : ReplayDataset where
  manifest := dataset.manifest
  events := events
  datasetChecksum := dataset.datasetChecksum
  events_ne := by
    rintro rfl
    exact dataset.events_ne h.symm.eq_nil
  checksum_eq := dataset.checksum_eq
  in_session e he := dataset.in_session e (h.mem_iff.mp he)
  in_window e he := dataset.in_window e (h.mem_iff.mp he)

namespace ReplayEngine

open ReplaySorter

variable {sha : Sha256} {bus : EventBus} {clock : ReplayClock} {dataset : ReplayDataset}

/-! ## Runs that nothing stops -/

/-- The clock has the window of the manifest and stands at its start. -/
structure AtStart (clock : ReplayClock) (manifest : ReplayManifest) : Prop where
  startsAt : clock.startsAt = manifest.startsAt
  endsAt : clock.endsAt = manifest.endsAt
  currentTime : clock.currentTime = manifest.startsAt

theorem atStart_ofManifest (manifest : ReplayManifest) : AtStart (ReplayClock.ofManifest manifest) manifest :=
  ⟨rfl, rfl, rfl⟩

/-- The manifest asks for the ordering policy of the engine. -/
def Supported (manifest : ReplayManifest) : Prop :=
  manifest.eventOrderingPolicyVersion = replayOrderingPolicyVersion

/-- With a clock at the start and a bus that accepts everything, all events are published in sorted order. What
    is left is to build the session. -/
theorem run_of_accepting (sha : Sha256) {dataset : ReplayDataset} (hvalid : OrderingValid dataset.events)
    (hpolicy : Supported dataset.manifest)
    (hclock : AtStart clock dataset.manifest) (hbus : ∀ published e, bus published e = true) :
    ∃ last clock', (sortByKey keyOf dataset.events).getLast? = some last ∧
      clock'.currentTime = last.occurredAt ∧ run sha bus clock dataset =
        ((completedSession dataset.manifest clock' dataset.events.length
          (calculateReplayResultChecksum sha dataset.manifest (sortByKey keyOf dataset.events))).validate,
          sortByKey keyOf dataset.events) := by
  have hinputs := (validateEngineInputs_eq_ok (u := ⟨⟩)).mpr ⟨hpolicy, hclock.startsAt, hclock.endsAt⟩
  obtain ⟨e, herror, -⟩ | ⟨-, hrun⟩ := run_cases sha bus clock hvalid
  · rw [hinputs] at herror; cases herror
  obtain ⟨clock', hloop, htime⟩ := publishAll_completes bus _ clock [] hbus
    (fun e he => dataset.in_session e (mem_sortByKey.mp he))
    (fun e he => hclock.endsAt ▸ (dataset.in_window e (mem_sortByKey.mp he)).2)
    (fun e he => hclock.currentTime ▸ (dataset.in_window e (mem_sortByKey.mp he)).1)
    (pairwise_occurredAt hvalid)
  have hne : sortByKey keyOf dataset.events ≠ [] := by
    intro h
    exact dataset.events_ne (List.length_eq_zero_iff.mp ((sortByKey_perm keyOf _).length_eq.symm.trans
      (congrArg List.length h)))
  rw [List.getLast?_eq_some_getLast hne] at htime ⊢
  refine ⟨_, clock', rfl, htime, ?_⟩
  rw [hrun, hloop]
  dsimp only
  rw [List.nil_append, length_sortByKey]

/-! ## The events published -/

/-- In every run the events published are a prefix of the sorted events. -/
theorem run_published_isPrefix (hvalid : OrderingValid dataset.events) (bus : EventBus) (clock : ReplayClock) :
    (run sha bus clock dataset).2 <+: sortByKey keyOf dataset.events := by
  obtain ⟨e, -, hrun⟩ | ⟨-, hrun⟩ := run_cases sha bus clock hvalid
  · rw [hrun]; exact List.nil_prefix
  obtain ⟨done, hdone, hpublished⟩ := publishAll_isPrefix bus
    dataset.manifest.replaySessionId clock [] (sortByKey keyOf dataset.events)
  rw [List.nil_append] at hpublished
  have heq : (run sha bus clock dataset).2 = done := by
    rw [hrun, ← hpublished]
    split <;> rename_i h <;> rw [h]
  rw [heq]; exact hdone

/-! ## Independence of the input order -/

/-- Two datasets with one manifest whose events are permutations of each other publish the same sequence and
    report the same checksum, on every bus and from every clock. -/
def OrderIndependent (sha : Sha256) (dataset : ReplayDataset) : Prop :=
  ∀ other : ReplayDataset, other.manifest = dataset.manifest → other.events.Perm dataset.events →
    ∀ bus clock, (run sha bus clock other).2 = (run sha bus clock dataset).2 ∧
      (run sha bus clock other).1.map ReplaySession.resultChecksum
        = (run sha bus clock dataset).1.map ReplaySession.resultChecksum

/-- The replay of a dataset is determined by its set of events. -/
structure Deterministic (sha : Sha256) (dataset : ReplayDataset) : Prop where
  order_independent : OrderIndependent sha dataset
  monotone : ∀ bus clock, (run sha bus clock dataset).2.Pairwise fun a b => a.occurredAt ≤ b.occurredAt
  /-- A run publishes part of one sequence, in which every event stands once, and all of it unless the run is
      stopped. -/
  prefix_published : ∃ sequence : List EventEnvelope, sequence.Perm dataset.events ∧
    (∀ bus clock, (run sha bus clock dataset).2 <+: sequence) ∧
    (Supported dataset.manifest → ∀ bus clock, AtStart clock dataset.manifest →
      (∀ published e, bus published e = true) → (run sha bus clock dataset).2 = sequence)

theorem orderIndependent_of_tiesEqual (hvalid : OrderingValid dataset.events)
    (hties : TiesEqual keyOf dataset.events) : OrderIndependent sha dataset := by
  intro other hmanifest hperm bus clock
  have hsorted := sortByKey_eq_of_perm hties hperm
  have hrun : run sha bus clock other = run sha bus clock dataset := by
    unfold run
    rw [hmanifest, sortReplayEvents_eq_ok (hvalid.perm hperm), sortReplayEvents_eq_ok hvalid, hsorted]
  rw [hrun]; exact ⟨rfl, rfl⟩

/-- Nothing is published under another policy, in whatever order the events come. -/
theorem orderIndependent_of_unsupported (hvalid : OrderingValid dataset.events)
    (hpolicy : ¬Supported dataset.manifest) : OrderIndependent sha dataset := by
  intro other hmanifest hperm bus clock
  have hrefused : ∀ u, validateEngineInputs dataset.manifest clock ≠ .ok u := by
    intro u h
    exact hpolicy (validateEngineInputs_eq_ok.mp h).1
  have hrun : ∀ d : ReplayDataset, d.manifest = dataset.manifest → OrderingValid d.events →
      ∃ e, validateEngineInputs dataset.manifest clock = .error e ∧ run sha bus clock d = (.error e, []) := by
    intro d hd hv
    obtain h | ⟨hok, -⟩ := run_cases sha bus clock hv
    · rwa [hd] at h
    · rw [hd] at hok; exact absurd hok (hrefused _)
  obtain ⟨e, he, hother⟩ := hrun other hmanifest (hvalid.perm hperm)
  obtain ⟨e', he', hdataset⟩ := hrun dataset rfl hvalid
  obtain rfl : e = e' := by rw [he] at he'; exact Except.error.inj he'
  rw [hother, hdataset]; exact ⟨rfl, rfl⟩

/-- Different events that tie are published in the order they came in. -/
theorem tiesEqual_of_orderIndependent (hvalid : OrderingValid dataset.events)
    (hpolicy : Supported dataset.manifest) (h : OrderIndependent sha dataset) :
    TiesEqual keyOf dataset.events := by
  refine sortByKey_eq_iff_tiesEqual.mp fun events hperm => ?_
  have hsame := (h (dataset.permuted events hperm) rfl hperm (fun _ _ => true)
    (ReplayClock.ofManifest dataset.manifest)).1
  have hother_valid : OrderingValid (dataset.permuted events hperm).events := hvalid.perm hperm
  have haccepting : ∀ published e, (fun (_ : List EventEnvelope) (_ : EventEnvelope) => true) published e = true :=
    fun _ _ => rfl
  obtain ⟨_, _, _, _, hother⟩ := run_of_accepting sha hother_valid hpolicy
    (atStart_ofManifest dataset.manifest) haccepting
  obtain ⟨_, _, _, _, hdataset⟩ := run_of_accepting sha hvalid hpolicy
    (atStart_ofManifest dataset.manifest) haccepting
  rw [hother, hdataset] at hsame
  exact hsame

/-- **When a replay is determined by its events.** Exactly when no two different events tie in the ordering
    key, where anything is published at all. -/
theorem deterministic_iff (hvalid : OrderingValid dataset.events) :
    Deterministic sha dataset ↔ ¬Supported dataset.manifest ∨ TiesEqual keyOf dataset.events := by
  constructor
  · intro h
    by_cases hpolicy : Supported dataset.manifest
    · exact Or.inr (tiesEqual_of_orderIndependent hvalid hpolicy h.order_independent)
    · exact Or.inl hpolicy
  · intro h
    refine ⟨?_, fun bus clock => ?_, sortByKey keyOf dataset.events, sortByKey_perm _ _, ?_, ?_⟩
    · rcases h with hpolicy | hties
      · exact orderIndependent_of_unsupported hvalid hpolicy
      · exact orderIndependent_of_tiesEqual hvalid hties
    · exact (pairwise_occurredAt hvalid).sublist (run_published_isPrefix hvalid bus clock).sublist
    · exact run_published_isPrefix hvalid
    · intro hpolicy bus clock hclock hbus
      obtain ⟨_, _, _, _, hrun⟩ := run_of_accepting sha hvalid hpolicy hclock hbus
      rw [hrun]

/-! ## Concrete datasets -/

def stormSession : ReplaySessionId := ⟨"rpl_storm", by decide⟩

/-- A manifest for the window from 10 to 20. -/
def stormManifest (createdAt : UTCDateTime) : ReplayManifest where
  replaySessionId := stormSession
  datasetId := "storm"
  datasetChecksum := "storm-checksum"
  startsAt := 10
  endsAt := 20
  speed := 1
  deterministic := true
  randomSeed := 0
  eventOrderingPolicyVersion := "occurred-sequence-received-v1"
  configurationHash := "storm-config"
  codeCommit := "storm-commit"
  dependencyLockHash := "storm-lock"
  createdAt := createdAt
  createdBy := "storm-operator"
  starts_before_ends := by decide

/-- An event of this type at time 15, always with the same id. -/
def stormEvent (eventType : String) : EventEnvelope where
  eventId := ⟨"evt_storm", by decide⟩
  eventType := eventType
  schemaVersion := 1
  occurredAt := 15
  receivedAt := 15
  publishedAt := 15
  producer := "storm-recorder"
  correlationId := ⟨"corr_storm", by decide⟩
  replaySessionId := some stormSession

theorem storm_in_window : (10 : ℤ) ≤ 15 ∧ (15 : ℤ) ≤ 20 := by decide

theorem keyOf_stormEvent (s t : String) : keyOf (stormEvent s) = keyOf (stormEvent t) := rfl

def stormDataset (createdAt : UTCDateTime) (eventTypes : List String) (h : eventTypes ≠ []) : ReplayDataset where
  manifest := stormManifest createdAt
  events := eventTypes.map stormEvent
  datasetChecksum := "storm-checksum"
  events_ne := List.map_eq_nil_iff.not.mpr h
  checksum_eq := rfl
  in_session e he := by obtain ⟨t, -, rfl⟩ := List.mem_map.mp he; rfl
  in_window e he := by
    obtain ⟨t, -, rfl⟩ := List.mem_map.mp he
    exact ⟨storm_in_window.1, storm_in_window.2⟩

theorem stormDataset_orderingValid (createdAt : UTCDateTime) (eventTypes : List String) (h : eventTypes ≠ []) :
    OrderingValid (stormDataset createdAt eventTypes h).events := by
  intro e he
  obtain ⟨t, -, rfl⟩ := List.mem_map.mp he
  exact ⟨_, rfl⟩

/-- A later event that comes first in its file, and an earlier one with an id of its own behind it. -/
def gatheringStorm : ReplayDataset where
  manifest := stormManifest 0
  events := [stormEvent "market.trade_observed",
    { stormEvent "market.order_book_delta" with eventId := ⟨"evt_thunder", by decide⟩, occurredAt := 12 }]
  datasetChecksum := "storm-checksum"
  events_ne := List.cons_ne_nil _ _
  checksum_eq := rfl
  in_session := by
    simp only [List.forall_mem_cons]
    exact ⟨rfl, rfl, fun _ h => absurd h List.not_mem_nil⟩
  in_window := by
    simp only [List.forall_mem_cons]
    exact ⟨storm_in_window, ⟨by decide, by decide⟩, fun _ h => absurd h List.not_mem_nil⟩

/-- The two events are published in the order of their times, from whichever file order. -/
theorem deterministic_iff_gathering : Deterministic .constant gatheringStorm := by
  have hvalid : OrderingValid gatheringStorm.events :=
    List.forall_mem_cons.mpr ⟨⟨_, rfl⟩, List.forall_mem_cons.mpr ⟨⟨_, rfl⟩, fun _ h => absurd h List.not_mem_nil⟩⟩
  refine (deterministic_iff hvalid).mpr (Or.inr fun a ha b hb hkey => ?_)
  have htime : a.occurredAt = b.occurredAt := by
    rw [← keyOf_occurredAt (hvalid a ha), ← keyOf_occurredAt (hvalid b hb), hkey]
  rcases List.mem_pair.mp ha with rfl | rfl <;> rcases List.mem_pair.mp hb with rfl | rfl
  · rfl
  · exact absurd htime (by decide)
  · exact absurd htime (by decide)
  · rfl

/-- **Two events with one id.** A snapshot and a delta that share id, times and partition are replayed in the
    order of the files. -/
theorem shared_id_order_dependent : ¬Deterministic .constant
    (stormDataset 0 ["market.order_book_snapshot", "market.order_book_delta"] (List.cons_ne_nil _ _)) := by
  intro h
  have hties := tiesEqual_of_orderIndependent (stormDataset_orderingValid 0 _ _) rfl h.order_independent
  have heq := hties (stormEvent "market.order_book_snapshot") List.mem_cons_self
    (stormEvent "market.order_book_delta") (List.mem_cons_of_mem _ List.mem_cons_self)
    (keyOf_stormEvent _ _)
  exact absurd (congrArg EventEnvelope.eventType heq) (by decide)

end ReplayEngine
end Pmrp
