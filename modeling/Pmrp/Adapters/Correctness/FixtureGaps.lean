import Pmrp.Adapters.Fixture
import Pmrp.Lib.Stopping

/-!
# `Adapters.Correctness.FixtureGaps` — where the fixture stream stops

The events with a sequence form a subsequence. It breaks at an event whose sequence is not one more than that of the
last event before it that has one. The loop forgets the last sequence at an event without one, so it stops at a break
only when the event just before has a sequence.
-/

namespace Pmrp
namespace Fixture

open FixtureAdapter Stopping

/-- The last sequence of these events. -/
def lastSequence (events : List RawExchangeEvent) : Option ℕ := (events.filterMap RawExchangeEvent.sequence).getLast?

/-- The subsequence of the events with a sequence breaks at this position. -/
def BreaksAt (events : List RawExchangeEvent) (position : ℕ) : Prop :=
  ∃ event sequence previous, events[position]? = some event ∧ event.sequence = some sequence ∧
    lastSequence (events.take position) = some previous ∧ sequence ≠ previous + 1

/-- The event just before this position has a sequence. -/
def FollowsSequenced (events : List RawExchangeEvent) (position : ℕ) : Prop :=
  ∃ i event, position = i + 1 ∧ events[i]? = some event ∧ event.sequence ≠ none

/-- The stream yields what comes before the first break and raises its gap error there, or it yields everything. -/
def StopsAtGap (adapter : FixtureAdapter) (run : StreamRun) : Prop :=
  (∃ position, BreaksAt adapter.streamEvents position ∧ (∀ i < position, ¬BreaksAt adapter.streamEvents i) ∧
    run.yields = adapter.streamEvents.take position ∧ run.raised = some adapter.sequenceGapError) ∨
  ((∀ position, ¬BreaksAt adapter.streamEvents position) ∧ run.yields = adapter.streamEvents ∧ run.raised = none)

/-! ## The loop -/

/-- What the loop compares with at this position. -/
def comparedSequence (previousSequence : Option ℕ) (events : List RawExchangeEvent) : ℕ → Option ℕ
  | 0 => previousSequence
  | i + 1 => events[i]?.bind RawExchangeEvent.sequence

/-- The loop stops at this position. -/
def LoopStopsAt (previousSequence : Option ℕ) (events : List RawExchangeEvent) (position : ℕ) : Prop :=
  ∃ event, events[position]? = some event ∧ isGap (comparedSequence previousSequence events position) event = true

theorem loopStopsAt_succ {previousSequence : Option ℕ} {event : RawExchangeEvent} {events : List RawExchangeEvent}
    {position : ℕ} : LoopStopsAt previousSequence (event :: events) (position + 1) ↔
      LoopStopsAt event.sequence events position := by
  unfold LoopStopsAt
  cases position with
  | zero => rfl
  | succ i => rfl

theorem isGap_eq_true {previousSequence : Option ℕ} {event : RawExchangeEvent} :
    isGap previousSequence event = true ↔ ∃ previous sequence, previousSequence = some previous ∧
      event.sequence = some sequence ∧ sequence ≠ previous + 1 := by
  unfold isGap
  cases previousSequence with
  | none => exact iff_of_false Bool.false_ne_true (by rintro ⟨_, _, ⟨⟩, _⟩)
  | some previous =>
      cases event.sequence with
      | none => exact iff_of_false Bool.false_ne_true (by rintro ⟨_, _, _, ⟨⟩, _⟩)
      | some sequence =>
          simp only [bne_iff_ne, Option.some.injEq]
          constructor
          · intro hne
            exact ⟨previous, sequence, rfl, rfl, hne⟩
          · rintro ⟨_, _, rfl, rfl, hne⟩
            exact hne

/-- The loop yields what comes before the first position where it stops. -/
theorem streamLoop_stops {adapter : FixtureAdapter} (hmode : adapter.failureMode = none)
    (previousSequence : Option ℕ) (events : List RawExchangeEvent) :
    StopsAtFirst (LoopStopsAt previousSequence events) events adapter.sequenceGapError
      (adapter.streamLoop previousSequence events).1 (adapter.streamLoop previousSequence events).2 := by
  have hnot : ¬adapter.failureMode = some .sequenceGap := by
    rw [hmode]
    exact nofun
  induction events generalizing previousSequence with
  | nil =>
      refine stopsAtFirst_nil ?_
      rintro position ⟨event, hevent, -⟩
      cases hevent
  | cons event events ih =>
      rw [streamLoop, if_neg hnot]
      split_ifs with hgap
      · exact stopsAtFirst_zero ⟨event, rfl, hgap⟩
      · refine StopsAtFirst.cons ?_ ?_
        · rintro ⟨_, ⟨⟩, hstop⟩
          exact hgap hstop
        · simp only [loopStopsAt_succ]
          exact ih event.sequence

/-! ## Breaks that the loop sees -/

theorem lastSequence_take_succ {events : List RawExchangeEvent} {event : RawExchangeEvent} {i sequence : ℕ}
    (hevent : events[i]? = some event) (hsequence : event.sequence = some sequence) :
    lastSequence (events.take (i + 1)) = some sequence := by
  unfold lastSequence
  rw [List.take_add_one, hevent, List.filterMap_append]
  show (_ ++ List.filterMap RawExchangeEvent.sequence [event]).getLast? = some sequence
  rw [List.filterMap_cons_some hsequence]
  exact List.getLast?_concat

/-- The loop stops at a break just after an event with a sequence. -/
theorem loopStopsAt_iff {events : List RawExchangeEvent} {position : ℕ} :
    LoopStopsAt none events position ↔ BreaksAt events position ∧ FollowsSequenced events position := by
  constructor
  · rintro ⟨event, hevent, hgap⟩
    obtain ⟨previous, sequence, hprevious, hsequence, hne⟩ := isGap_eq_true.mp hgap
    cases position with
    | zero => cases hprevious
    | succ i =>
        obtain ⟨before, hbefore, hprevious⟩ := Option.bind_eq_some_iff.mp hprevious
        refine ⟨⟨event, sequence, previous, hevent, hsequence, lastSequence_take_succ hbefore hprevious, hne⟩,
          i, before, rfl, hbefore, ?_⟩
        rw [hprevious]
        exact nofun
  · rintro ⟨⟨event, sequence, previous, hevent, hsequence, hlast, hne⟩, i, before, rfl, hbefore, hsequenced⟩
    obtain ⟨compared, hcompared⟩ := Option.ne_none_iff_exists'.mp hsequenced
    rw [lastSequence_take_succ hbefore hcompared] at hlast
    cases hlast
    refine ⟨event, hevent, isGap_eq_true.mpr ⟨previous, sequence, ?_, hsequence, hne⟩⟩
    rw [comparedSequence, hbefore]
    exact hcompared

theorem BreaksAt.lt_length {events : List RawExchangeEvent} {position : ℕ} (h : BreaksAt events position) :
    position < events.length := by
  obtain ⟨event, -, -, hevent, -⟩ := h
  exact (List.getElem?_eq_some_iff.mp hevent).1

/-- **A stream stops at the first gap** exactly when the event just before it has a sequence. -/
theorem stopsAtGap_iff {adapter : FixtureAdapter} {subscriptions : List MarketSubscription}
    (hconnected : adapter.connected = true) (hauthenticated : adapter.authenticated = true)
    (hmode : adapter.failureMode = none) (hne : subscriptions ≠ [])
    (hscope : ∀ subscription ∈ subscriptions, adapter.InScope subscription) :
    StopsAtGap adapter (adapter.subscribeMarketData subscriptions) ↔
      ∀ position, BreaksAt adapter.streamEvents position → (∀ i < position, ¬BreaksAt adapter.streamEvents i) →
        FollowsSequenced adapter.streamEvents position := by
  have hopen := openStream_ok hconnected hauthenticated hmode hne hscope
  have hloop := streamLoop_stops hmode none adapter.streamEvents
  have hiff := hloop.weaken_iff (fun position h => (loopStopsAt_iff.mp h).1) fun position h => BreaksAt.lt_length h
  rw [subscribeMarketData, hopen]
  constructor
  · intro hstops position hbreak hbefore
    have hrun : StopsAtFirst (BreaksAt adapter.streamEvents) adapter.streamEvents adapter.sequenceGapError
        (adapter.streamLoop none adapter.streamEvents).1 (adapter.streamLoop none adapter.streamEvents).2 := by
      refine hstops.imp_left ?_
      rintro ⟨first, hfirst, hnone, hyields, hraised⟩
      exact ⟨first, ⟨hfirst, hnone⟩, hyields, hraised⟩
    exact (loopStopsAt_iff.mp (hiff.mp hrun position ⟨hbreak, hbefore⟩)).2
  · intro hfollows
    have hrun := hiff.mpr fun position hfirst =>
      loopStopsAt_iff.mpr ⟨hfirst.1, hfollows position hfirst.1 hfirst.2⟩
    refine hrun.imp_left ?_
    rintro ⟨first, hfirst, hyields, hraised⟩
    exact ⟨first, hfirst.1, hfirst.2, hyields, hraised⟩

/-! ## An event without a sequence in between -/

def fixtureSubscription : MarketSubscription := ⟨"fixture", .test, by decide⟩

/-- A connected adapter that plays these sequences. -/
def playing (sequences : List (Option ℕ)) : FixtureAdapter where
  exchange := "fixture"
  environment := .test
  failureMode := none
  connected := true
  authenticated := true
  subscriptionsActive := false
  streamEvents := sequences.map fun sequence => ⟨"raw", sequence⟩

theorem playing_inScope (sequences : List (Option ℕ)) :
    ∀ subscription ∈ [fixtureSubscription], (playing sequences).InScope subscription := by
  rw [List.forall_mem_singleton]
  exact ⟨rfl, rfl⟩

theorem stopsAtGap_iff_adjacent :
    StopsAtGap (playing [some 1, some 3]) ((playing [some 1, some 3]).subscribeMarketData [fixtureSubscription]) := by
  refine (stopsAtGap_iff rfl rfl rfl (List.cons_ne_nil _ _) (playing_inScope _)).mpr ?_
  intro position hbreak _
  have hlt := hbreak.lt_length
  obtain ⟨event, sequence, previous, hevent, -, hlast, -⟩ := hbreak
  match position, hlt with
  | 0, _ => cases hlast
  | 1, _ => exact ⟨0, _, rfl, rfl, nofun⟩

/-- Sequences one and three with an event between them that has none: everything is yielded. -/
theorem hidden_gap_passes :
    ((playing [some 1, none, some 3]).subscribeMarketData [fixtureSubscription]).yields =
      (playing [some 1, none, some 3]).streamEvents ∧
    ((playing [some 1, none, some 3]).subscribeMarketData [fixtureSubscription]).raised = none ∧
    BreaksAt (playing [some 1, none, some 3]).streamEvents 2 ∧
    ¬StopsAtGap (playing [some 1, none, some 3])
      ((playing [some 1, none, some 3]).subscribeMarketData [fixtureSubscription]) := by
  have hbreak : BreaksAt (playing [some 1, none, some 3]).streamEvents 2 :=
    ⟨⟨"raw", some 3⟩, 3, 1, rfl, rfl, rfl, by decide⟩
  refine ⟨by decide, by decide, hbreak, ?_⟩
  rintro (⟨_, -, -, -, hraised⟩ | ⟨hnone, -, -⟩)
  · exact absurd hraised (by decide)
  · exact hnone 2 hbreak

end Fixture
end Pmrp
