import Mathlib.Data.List.Perm.Basic
import Mathlib.Data.List.Nodup
import Pmrp.Bus.InProcess
import Pmrp.Lib.Transitions

/-!
# `Bus.Correctness.Delivery` — every subscription gets what it was promised

Calls of any number of publishers, subscribers and consumers, in any order. A `Log` keeps beside the bus what the
calls and their outcomes promise each subscription: while it is open it is owed every published event that it
accepts.

- **Invariant.** `Tracks`: what is owed is what was received followed by what is in the queue, no more than its size,
  and a queue ends with the marker from the close on until the consumer has seen it.
- **Result.** `delivery` — the invariant in every state, no publish that raises puts anything anywhere, and no close
  raises.
-/

namespace Pmrp
namespace InProcessEventBus

variable {E τ : Type} (isInstance : E → τ → Bool) (marketId : E → Option String)

/-! ## Calls -/

inductive Call (E τ : Type)
  | subscribe (eventType : τ) (consumerName : String) (partitionKey : Option String) (queueSize : Option ℤ)
  | publish (event : E) (partitionKey : Option String)
  | receive (n : ℕ)
  | closeSubscription (n : ℕ)
  | close

inductive Outcome (E : Type)
  | subscribed (number : Except EventBusError ℕ)
  | returned (result : Except EventBusError Unit)
  | received (received : QueuedEventSubscription.Received E)

/-- One call, unless it waits. -/
def call (bus : InProcessEventBus E τ) : Call E τ → Option (Outcome E × InProcessEventBus E τ)
  | .subscribe eventType consumerName partitionKey queueSize =>
      let result := bus.subscribe eventType consumerName partitionKey queueSize
      some (.subscribed result.1, result.2)
  | .publish event partitionKey =>
      let result := bus.publish isInstance marketId event partitionKey
      some (.returned result.1, result.2)
  | .receive n => (bus.receive n).map fun result => (.received result.1, result.2)
  | .closeSubscription n =>
      let result := bus.closeSubscription n
      some (.returned result.1, result.2)
  | .close => some (.returned bus.close.1, bus.close.2)

/-! ## What the calls promise -/

structure SubscriptionLog (E τ : Type) where
  eventType : τ
  partitionKey : Option String
  queueSize : ℕ
  isOpen : Bool := true
  owed : List E := []
  received : List E := []
  /-- The consumer has seen the end. -/
  ended : Bool := false

@[ext]
structure Log (E τ : Type) where
  entries : ℕ → Option (SubscriptionLog E τ) := fun _ => none
  created : ℕ := 0
  published : ℕ := 0
  delivered : ℕ := 0

namespace Log

variable {isInstance marketId}

/-- The subscription is open and accepts the event. -/
def Due (isInstance : E → τ → Bool) (event : E) (eventKey : Option String) (entry : SubscriptionLog E τ) : Bool :=
  entry.isOpen && Accepts isInstance entry.eventType entry.partitionKey event eventKey

def owe (isInstance : E → τ → Bool) (event : E) (eventKey : Option String) (entry : SubscriptionLog E τ) :
    SubscriptionLog E τ :=
  if Due isInstance event eventKey entry then { entry with owed := entry.owed ++ [event] } else entry

def due (isInstance : E → τ → Bool) (event : E) (eventKey : Option String) (log : Log E τ) : List ℕ :=
  (List.range log.created).filter fun n => (log.entries n).any (Due isInstance event eventKey)

def change (log : Log E τ) (n : ℕ) (f : SubscriptionLog E τ → SubscriptionLog E τ) : Log E τ :=
  { log with entries := Function.update log.entries n ((log.entries n).map f) }

def shut (entry : SubscriptionLog E τ) : SubscriptionLog E τ := { entry with isOpen := false }

/-- What a call and its outcome say. -/
def record (isInstance : E → τ → Bool) (marketId : E → Option String) (defaultQueueSize : ℕ) (log : Log E τ) :
    Call E τ → Outcome E → Log E τ
  | .subscribe eventType _ partitionKey queueSize, .subscribed (.ok number) =>
      { log with
        entries := Function.update log.entries number
          (some { eventType, partitionKey, queueSize := (queueSize.map Int.toNat).getD defaultQueueSize })
        created := log.created + 1 }
  | .publish event partitionKey, .returned (.ok _) =>
      let eventKey := eventPartitionKey marketId event partitionKey
      { log with
        entries := fun n => (log.entries n).map (owe isInstance event eventKey)
        published := log.published + 1
        delivered := log.delivered + (log.due isInstance event eventKey).length }
  | .receive n, .received (.event event) =>
      log.change n fun entry => { entry with received := entry.received ++ [event] }
  | .receive n, .received .stopAsyncIteration => log.change n fun entry => { entry with ended := true }
  | .closeSubscription n, _ => log.change n shut
  | .close, _ => { log with entries := fun n => (log.entries n).map shut }
  | _, _ => log

end Log

/-- The bus and the log of its calls. -/
structure Logged (E τ : Type) where
  bus : InProcessEventBus E τ
  log : Log E τ := {}

inductive Step : Logged E τ → Call E τ → Logged E τ → Prop
  | call {s : Logged E τ} {c : Call E τ} {outcome : Outcome E} {bus : InProcessEventBus E τ} :
      call isInstance marketId s.bus c = some (outcome, bus) →
      Step s c ⟨bus, s.log.record isInstance marketId s.bus.defaultQueueSize c outcome⟩

/-! ## The invariant -/

/-- A subscription and its log. `pending` is what the consumer has not taken yet. -/
structure Tracks (entry : SubscriptionLog E τ) (s : QueuedEventSubscription E τ) (pending : List E) : Prop where
  eventType : s.eventType = entry.eventType
  partitionKey : s.partitionKey = entry.partitionKey
  queueSize : s.queueSize = entry.queueSize
  closed : s.closed = !entry.isOpen
  queue : s.queue = pending.map .event ++ if entry.isOpen || entry.ended then [] else [.closed]
  owed : entry.owed = entry.received ++ pending
  pendingEvents : s.pendingEvents = pending.length
  bounded : pending.length ≤ entry.queueSize
  ended : entry.ended = true → entry.isOpen = false ∧ pending = []

structure Inv (s : Logged E τ) : Prop where
  created : s.log.created = s.bus.created
  fresh : ∀ n, s.bus.created ≤ n → s.bus.objects n = none
  tracks : ∀ n, (s.log.entries n = none ∧ s.bus.objects n = none) ∨
    ∃ entry object pending, s.log.entries n = some entry ∧ s.bus.objects n = some object ∧
      Tracks entry object pending
  registered : ∀ name n, (name, n) ∈ s.bus.subscriptions ↔
    ∃ object, s.bus.objects n = some object ∧ object.consumerName = name ∧ object.closed = false
  names_nodup : (s.bus.subscriptions.map Prod.fst).Nodup
  numbers_nodup : (s.bus.subscriptions.map Prod.snd).Nodup
  published : s.bus.publishedEvents = s.log.published
  delivered : s.bus.deliveredEvents = s.log.delivered

/-! ## One subscription -/

section Subscription

variable {entry : SubscriptionLog E τ} {s : QueuedEventSubscription E τ} {pending : List E}

/-- The subscription with one more event in its queue. -/
def pushed (event : E) (s : QueuedEventSubscription E τ) : QueuedEventSubscription E τ :=
  { s with queue := s.queue ++ [.event event], pendingEvents := s.pendingEvents + 1 }

theorem Tracks.length_queue (h : Tracks entry s pending) (hopen : entry.isOpen = true) :
    s.queue.length = pending.length := by
  rw [h.queue, hopen, Bool.true_or, if_pos rfl, List.append_nil, List.length_map]

/-- An open subscription that is not full takes an event. -/
theorem Tracks.publishNowait (h : Tracks entry s pending) (hopen : entry.isOpen = true) (hfull : s.full = false)
    (event : E) : s.publishNowait event = .ok (pushed event s) ∧
      Tracks { entry with owed := entry.owed ++ [event] } (pushed event s) (pending ++ [event]) := by
  have hclosed : s.closed = false := by rw [h.closed, hopen, Bool.not_true]
  have hroom : pending.length < entry.queueSize := by
    have hlt := of_decide_eq_false hfull
    rw [h.pendingEvents, h.queueSize] at hlt
    omega
  have hput : ¬s.queueSize + 1 ≤ s.queue.length := by
    rw [h.length_queue hopen, h.queueSize]
    omega
  have hended : entry.ended = false := by
    by_contra hended
    have hshut := (h.ended (Bool.eq_true_of_not_eq_false hended)).1
    rw [hopen] at hshut
    cases hshut
  constructor
  · rw [QueuedEventSubscription.publishNowait, hclosed, if_neg Bool.false_ne_true, hfull, if_neg Bool.false_ne_true,
      QueuedEventSubscription.putNowait, if_neg hput]
    rfl
  · refine ⟨h.eventType, h.partitionKey, h.queueSize, h.closed, ?_, ?_, ?_, ?_, ?_⟩
    · show s.queue ++ [.event event] = _
      rw [h.queue]
      simp [hopen]
    · show entry.owed ++ [event] = _
      rw [h.owed, List.append_assoc]
    · show s.pendingEvents + 1 = _
      rw [h.pendingEvents, List.length_append, List.length_singleton]
      rfl
    · rw [List.length_append, List.length_singleton]
      exact hroom
    · intro hcontra
      rw [hended] at hcontra
      cases hcontra

/-- Closing an open subscription leaves the marker behind its events; there is always room for it. -/
theorem Tracks.close (h : Tracks entry s pending) (hopen : entry.isOpen = true) :
    s.close = (.ok true, { s with closed := true, queue := s.queue ++ [.closed] }) ∧
      Tracks (Log.shut entry) { s with closed := true, queue := s.queue ++ [.closed] } pending := by
  have hclosed : s.closed = false := by rw [h.closed, hopen, Bool.not_true]
  have hput : ¬s.queueSize + 1 ≤ s.queue.length := by
    have hbounded := h.bounded
    rw [h.length_queue hopen, h.queueSize]
    omega
  have hended : entry.ended = false := by
    by_contra hended
    have hshut := (h.ended (Bool.eq_true_of_not_eq_false hended)).1
    rw [hopen] at hshut
    cases hshut
  constructor
  · rw [QueuedEventSubscription.close, hclosed, if_neg Bool.false_ne_true, QueuedEventSubscription.putNowait]
    dsimp only
    rw [if_neg hput]
  · refine ⟨h.eventType, h.partitionKey, h.queueSize, rfl, ?_, h.owed, h.pendingEvents, h.bounded, ?_⟩
    · show s.queue ++ [.closed] = _
      rw [h.queue]
      simp [hopen, Log.shut, hended]
    · intro hcontra
      rw [show (Log.shut entry).ended = entry.ended from rfl, hended] at hcontra
      cases hcontra

/-- Closing a closed subscription changes nothing. -/
theorem Tracks.close_closed (h : Tracks entry s pending) (hopen : entry.isOpen = false) :
    s.close = (.ok false, s) ∧ Log.shut entry = entry := by
  have hclosed : s.closed = true := by rw [h.closed, hopen, Bool.not_false]
  constructor
  · rw [QueuedEventSubscription.close, hclosed, if_pos rfl]
  · rw [Log.shut, ← hopen]

/-- The consumer takes the first pending event. -/
theorem Tracks.next_event {event : E} (h : Tracks entry s (event :: pending)) :
    s.next = some (.event event, { s with
      queue := pending.map .event ++ if entry.isOpen || entry.ended then [] else [.closed]
      pendingEvents := s.pendingEvents - 1 }) ∧
    Tracks { entry with received := entry.received ++ [event] }
      { s with
        queue := pending.map .event ++ if entry.isOpen || entry.ended then [] else [.closed]
        pendingEvents := s.pendingEvents - 1 } pending := by
  have hqueue := h.queue
  rw [List.map_cons, List.cons_append] at hqueue
  constructor
  · rw [QueuedEventSubscription.next, hqueue]
  · refine ⟨h.eventType, h.partitionKey, h.queueSize, h.closed, rfl, ?_, ?_, ?_, ?_⟩
    · show entry.owed = entry.received ++ [event] ++ pending
      rw [h.owed, List.append_assoc, List.singleton_append]
    · show s.pendingEvents - 1 = _
      rw [h.pendingEvents, List.length_cons]
      push_cast
      omega
    · have hbounded := h.bounded
      rw [List.length_cons] at hbounded
      show pending.length ≤ entry.queueSize
      omega
    · intro hended
      have hnil := (h.ended hended).2
      cases hnil

/-- With nothing pending the consumer waits, or sees the end of a closed subscription once. -/
theorem Tracks.next_nil (h : Tracks entry s []) :
    (s.next = none ∧ (entry.isOpen || entry.ended) = true) ∨
    (s.next = some (.stopAsyncIteration, { s with queue := [] }) ∧ (entry.isOpen || entry.ended) = false ∧
      Tracks { entry with ended := true } { s with queue := [] } []) := by
  have hqueue := h.queue
  rw [List.map_nil, List.nil_append] at hqueue
  by_cases hwaits : (entry.isOpen || entry.ended) = true
  · rw [if_pos hwaits] at hqueue
    exact Or.inl ⟨by rw [QueuedEventSubscription.next, hqueue], hwaits⟩
  · rw [if_neg hwaits] at hqueue
    refine Or.inr ⟨by rw [QueuedEventSubscription.next, hqueue], Bool.eq_false_of_not_eq_true hwaits, ?_⟩
    rw [Bool.or_eq_true, not_or, Bool.not_eq_true, Bool.not_eq_true] at hwaits
    refine ⟨h.eventType, h.partitionKey, h.queueSize, h.closed, ?_, h.owed, h.pendingEvents, h.bounded, ?_⟩
    · show [] = _
      rw [Bool.or_true, if_pos rfl]
      rfl
    · intro _
      exact ⟨hwaits.1, rfl⟩

end Subscription

/-! ## One call -/

section Calls

variable {isInstance marketId} {bus : InProcessEventBus E τ} {log : Log E τ}

theorem Inv.tracks_of_object (h : Inv ⟨bus, log⟩) {n : ℕ} {object : QueuedEventSubscription E τ}
    (hobject : bus.objects n = some object) :
    ∃ entry pending, log.entries n = some entry ∧ Tracks entry object pending := by
  obtain ⟨_, hnone⟩ | ⟨entry, object', pending, hentry, hobject', htracks⟩ := h.tracks n
  · have hcontra := hobject.symm.trans hnone
    cases hcontra
  · have hsame := Option.some.inj (hobject'.symm.trans hobject)
    subst hsame
    exact ⟨entry, pending, hentry, htracks⟩

theorem Inv.tracks_of_entry (h : Inv ⟨bus, log⟩) {n : ℕ} {entry : SubscriptionLog E τ}
    (hentry : log.entries n = some entry) :
    ∃ object pending, bus.objects n = some object ∧ Tracks entry object pending := by
  obtain ⟨hnone, _⟩ | ⟨entry', object, pending, hentry', hobject, htracks⟩ := h.tracks n
  · have hcontra := hentry.symm.trans hnone
    cases hcontra
  · have hsame := Option.some.inj (hentry'.symm.trans hentry)
    subst hsame
    exact ⟨object, pending, hobject, htracks⟩

theorem Inv.entry_none (h : Inv ⟨bus, log⟩) {n : ℕ} (hobject : bus.objects n = none) : log.entries n = none := by
  obtain ⟨hnone, _⟩ | ⟨entry, object, pending, _, hobject', _⟩ := h.tracks n
  · exact hnone
  · have hcontra := hobject'.symm.trans hobject
    cases hcontra

theorem Inv.lt_created (h : Inv ⟨bus, log⟩) {n : ℕ} {object : QueuedEventSubscription E τ}
    (hobject : bus.objects n = some object) : n < bus.created := by
  by_contra hge
  have hcontra := hobject.symm.trans (h.fresh n (Nat.le_of_not_lt hge))
  cases hcontra

theorem setObject_of_ne (bus : InProcessEventBus E τ) {n m : ℕ} (object : QueuedEventSubscription E τ) (hm : m ≠ n) :
    (bus.setObject n object).objects m = bus.objects m := Function.update_of_ne hm _ _

@[simp] theorem setObject_self (bus : InProcessEventBus E τ) (n : ℕ) (object : QueuedEventSubscription E τ) :
    (bus.setObject n object).objects n = some object := Function.update_self _ _ _

/-- One subscription and its log change, and the registered ones are still the open ones. -/
theorem Inv.setObject (h : Inv ⟨bus, log⟩) {n : ℕ} {entry entry' : SubscriptionLog E τ}
    {object object' : QueuedEventSubscription E τ} {pending : List E} {f : SubscriptionLog E τ → SubscriptionLog E τ}
    {subscriptions : List (String × ℕ)} (hentry : log.entries n = some entry) (hf : f entry = entry')
    (hobject : bus.objects n = some object) (htracks : Tracks entry' object' pending)
    (hsub : List.Sublist subscriptions bus.subscriptions)
    (hregistered : ∀ name m, (name, m) ∈ subscriptions ↔
      ∃ o, (bus.setObject n object').objects m = some o ∧ o.consumerName = name ∧ o.closed = false) :
    Inv ⟨{ bus.setObject n object' with subscriptions := subscriptions }, log.change n f⟩ := by
  refine ⟨h.created, ?_, ?_, hregistered, (hsub.map _).nodup h.names_nodup, (hsub.map _).nodup h.numbers_nodup,
    h.published, h.delivered⟩
  · intro m hm
    have hne : m ≠ n := by
      have hlt := h.lt_created hobject
      change bus.created ≤ m at hm
      omega
    exact (setObject_of_ne bus object' hne).trans (h.fresh m hm)
  · intro m
    by_cases hm : m = n
    · subst hm
      refine Or.inr ⟨entry', object', pending, ?_, setObject_self bus m object', htracks⟩
      show Function.update log.entries m ((log.entries m).map f) m = _
      rw [Function.update_self, hentry, Option.map_some, hf]
    · have hentries : (log.change n f).entries m = log.entries m := Function.update_of_ne hm _ _
      show (_ ∧ (bus.setObject n object').objects m = _) ∨ _
      rw [hentries, setObject_of_ne bus object' hm]
      exact h.tracks m

/-- A subscription that keeps its name and stays as open as it was stays registered. -/
theorem Inv.registered_setObject (h : Inv ⟨bus, log⟩) {n : ℕ} {object object' : QueuedEventSubscription E τ}
    (hobject : bus.objects n = some object) (hname : object'.consumerName = object.consumerName)
    (hclosed : object'.closed = object.closed) (name : String) (m : ℕ) :
    (name, m) ∈ bus.subscriptions ↔
      ∃ o, (bus.setObject n object').objects m = some o ∧ o.consumerName = name ∧ o.closed = false := by
  refine (h.registered name m).trans ?_
  by_cases hm : m = n
  · subst hm
    rw [setObject_self, hobject]
    constructor
    · rintro ⟨o, ho, hoName, hoClosed⟩
      cases ho
      exact ⟨object', rfl, hname.trans hoName, hclosed.trans hoClosed⟩
    · rintro ⟨o, ho, hoName, hoClosed⟩
      cases ho
      exact ⟨object, rfl, hname.symm.trans hoName, hclosed.symm.trans hoClosed⟩
  · rw [setObject_of_ne bus object' hm]

/-- A subscription that was closed is the only one that loses its registration. -/
theorem Inv.registered_close (h : Inv ⟨bus, log⟩) {n : ℕ} {object object' : QueuedEventSubscription E τ}
    (hobject : bus.objects n = some object) (hopen : object.closed = false) (hclosed : object'.closed = true)
    (name : String) (m : ℕ) :
    (name, m) ∈ bus.subscriptions.filter (fun entry => entry.1 ≠ object.consumerName) ↔
      ∃ o, (bus.setObject n object').objects m = some o ∧ o.consumerName = name ∧ o.closed = false := by
  have hn : (object.consumerName, n) ∈ bus.subscriptions := (h.registered _ _).mpr ⟨object, hobject, rfl, hopen⟩
  rw [List.mem_filter, decide_eq_true_iff, h.registered]
  by_cases hm : m = n
  · subst hm
    rw [setObject_self, hobject]
    constructor
    · rintro ⟨⟨o, ho, hoName, _⟩, hne⟩
      cases ho
      exact absurd hoName.symm hne
    · rintro ⟨o, ho, _, hoClosed⟩
      cases ho
      rw [hclosed] at hoClosed
      cases hoClosed
  · rw [setObject_of_ne bus object' hm]
    refine and_iff_left_of_imp ?_
    intro hregistered hsame
    -- names are unique, so an entry with this name is the entry of the closed subscription
    have hname : name = object.consumerName := hsame
    have hpair := List.inj_on_of_nodup_map h.names_nodup ((h.registered name m).mpr hregistered) hn hname
    exact hm (Prod.mk.inj hpair).2

/-- A call that registers nothing and closes no bus. -/
def Keeps (bus' bus : InProcessEventBus E τ) : Prop :=
  bus'.closed = bus.closed ∧ List.Sublist bus'.subscriptions bus.subscriptions

theorem Keeps.refl (bus : InProcessEventBus E τ) : bus.Keeps bus := ⟨rfl, List.Sublist.refl _⟩

/-! ### Publishing -/

/-- Every subscription with a number in the list has one more event. -/
def pushAll (event : E) (ns : List ℕ) (objects : ℕ → Option (QueuedEventSubscription E τ)) :
    ℕ → Option (QueuedEventSubscription E τ) :=
  fun n => if n ∈ ns then (objects n).map (pushed event) else objects n

/-- The delivery loop reaches its end when every subscription can take the event. -/
theorem deliver_ok (event : E) {ns : List ℕ} (hnodup : ns.Nodup)
    (h : ∀ n ∈ ns, ∃ s, bus.objects n = some s ∧ s.publishNowait event = .ok (pushed event s)) :
    deliver event ns bus = (.ok ⟨⟩, { bus with objects := pushAll event ns bus.objects }) := by
  induction ns generalizing bus with
  | nil =>
      have hsame : pushAll event [] bus.objects = bus.objects := by
        funext n
        exact if_neg List.not_mem_nil
      rw [deliver, hsame]
  | cons n ns ih =>
      obtain ⟨s, hs, hput⟩ := h n List.mem_cons_self
      have hnew : n ∉ ns := (List.nodup_cons.mp hnodup).1
      have hrest : ∀ m ∈ ns, ∃ s', (bus.setObject n (pushed event s)).objects m = some s' ∧
          s'.publishNowait event = .ok (pushed event s') := by
        intro m hm
        obtain ⟨s', hs', hput'⟩ := h m (List.mem_cons_of_mem n hm)
        have hne : m ≠ n := by
          rintro rfl
          exact hnew hm
        exact ⟨s', (setObject_of_ne bus _ hne).trans hs', hput'⟩
      simp only [deliver, hs, hput]
      rw [ih (List.nodup_cons.mp hnodup).2 hrest]
      -- the loop has pushed to the first one already, and it does not come again
      have hobjects : pushAll event ns (bus.setObject n (pushed event s)).objects =
          pushAll event (n :: ns) bus.objects := by
        funext m
        by_cases hm : m = n
        · subst hm
          rw [pushAll, if_neg hnew, pushAll, if_pos List.mem_cons_self, hs, Option.map_some]
          exact setObject_self bus m _
        · have hmem : m ∈ n :: ns ↔ m ∈ ns := by rw [List.mem_cons, or_iff_right hm]
          simp only [pushAll, hmem, setObject_of_ne bus (pushed event s) hm]
      rw [hobjects]
      rfl

theorem mem_orderedSubscriptions {n : ℕ} :
    n ∈ bus.orderedSubscriptions ↔ n ∈ bus.subscriptions.map Prod.snd := by
  rw [orderedSubscriptions]
  split
  · exact ((sortByKey_perm Prod.fst bus.subscriptions).map Prod.snd).mem_iff
  · exact Iff.rfl

theorem Inv.nodup_matching (h : Inv ⟨bus, log⟩) (event : E) (eventKey : Option String) :
    (bus.matchingSubscriptions isInstance event eventKey).Nodup := by
  refine List.Nodup.filter _ ?_
  rw [orderedSubscriptions]
  split
  · exact ((sortByKey_perm Prod.fst bus.subscriptions).map Prod.snd).nodup_iff.mpr h.numbers_nodup
  · exact h.numbers_nodup

/-- An event matches the subscriptions that it is due to. -/
theorem Inv.mem_matching (h : Inv ⟨bus, log⟩) {event : E} {eventKey : Option String} {n : ℕ} :
    n ∈ bus.matchingSubscriptions isInstance event eventKey ↔
      ∃ entry, log.entries n = some entry ∧ Log.Due isInstance event eventKey entry = true := by
  rw [matchingSubscriptions, List.mem_filter, mem_orderedSubscriptions]
  constructor
  · rintro ⟨_, hany⟩
    cases hobject : bus.objects n with
    | none =>
        rw [hobject] at hany
        cases hany
    | some object =>
        obtain ⟨entry, pending, hentry, htracks⟩ := h.tracks_of_object hobject
        refine ⟨entry, hentry, ?_⟩
        rw [hobject, Option.any_some, htracks.closed, Bool.not_not, htracks.eventType, htracks.partitionKey] at hany
        exact hany
  · rintro ⟨entry, hentry, hdue⟩
    obtain ⟨object, pending, hobject, htracks⟩ := h.tracks_of_entry hentry
    have hmatch :
        (!object.closed && Accepts isInstance object.eventType object.partitionKey event eventKey) = true := by
      rw [htracks.closed, Bool.not_not, htracks.eventType, htracks.partitionKey]
      exact hdue
    have hclosed : object.closed = false := by
      rw [Bool.and_eq_true, Bool.not_eq_true'] at hmatch
      exact hmatch.1
    refine ⟨?_, by rw [hobject]; exact hmatch⟩
    exact List.mem_map.mpr ⟨(object.consumerName, n), (h.registered _ _).mpr ⟨object, hobject, rfl, hclosed⟩, rfl⟩

/-- As many events are delivered as are due. -/
theorem Inv.length_matching (h : Inv ⟨bus, log⟩) (event : E) (eventKey : Option String) :
    (bus.matchingSubscriptions isInstance event eventKey).length = (log.due isInstance event eventKey).length := by
  refine List.Perm.length_eq ?_
  refine (List.perm_ext_iff_of_nodup (h.nodup_matching event eventKey) (List.nodup_range.filter _)).mpr ?_
  intro n
  rw [h.mem_matching, List.mem_filter, List.mem_range]
  constructor
  · rintro ⟨entry, hentry, hdue⟩
    refine ⟨?_, by rw [hentry]; exact hdue⟩
    obtain ⟨object, _, hobject, _⟩ := h.tracks_of_entry hentry
    exact lt_of_lt_of_eq (h.lt_created hobject) h.created.symm
  · rintro ⟨_, hany⟩
    cases hentry : log.entries n with
    | none =>
        rw [hentry] at hany
        cases hany
    | some entry =>
        rw [hentry] at hany
        exact ⟨entry, rfl, hany⟩

/-- A subscription that an event matches is open, and it takes the event when none of them is full. -/
theorem Inv.matching_takes (h : Inv ⟨bus, log⟩) {event : E} {eventKey : Option String}
    (hfull :
      (bus.matchingSubscriptions isInstance event eventKey).filter (fun n => (bus.objects n).any (·.full)) = []) :
    ∀ n ∈ bus.matchingSubscriptions isInstance event eventKey, ∃ entry object pending, log.entries n = some entry ∧
      bus.objects n = some object ∧ Tracks entry object pending ∧
      Log.Due isInstance event eventKey entry = true ∧ entry.isOpen = true ∧ object.full = false := by
  intro n hn
  obtain ⟨entry, hentry, hdue⟩ := h.mem_matching.mp hn
  obtain ⟨object, pending, hobject, htracks⟩ := h.tracks_of_entry hentry
  refine ⟨entry, object, pending, hentry, hobject, htracks, hdue, ?_, ?_⟩
  · rw [Log.Due, Bool.and_eq_true] at hdue
    exact hdue.1
  · have hroom := List.filter_eq_nil_iff.mp hfull n hn
    rw [hobject, Option.any_some, Bool.not_eq_true] at hroom
    exact hroom

/-- A push changes neither the name of a subscription nor whether it is open. -/
theorem Inv.registered_pushAll (h : Inv ⟨bus, log⟩) (event : E) (ns : List ℕ) (name : String) (n : ℕ) :
    (name, n) ∈ bus.subscriptions ↔
      ∃ object, pushAll event ns bus.objects n = some object ∧ object.consumerName = name ∧ object.closed = false := by
  rw [h.registered, pushAll]
  split
  · constructor
    · rintro ⟨object, hobject, hname, hopen⟩
      exact ⟨pushed event object, by rw [hobject, Option.map_some], hname, hopen⟩
    · rintro ⟨object', hobject', hname, hopen⟩
      obtain ⟨object, hobject, rfl⟩ := Option.map_eq_some_iff.mp hobject'
      exact ⟨object, hobject, hname, hopen⟩
  · exact Iff.rfl

/-- What a publish does, and what it leaves when it raises. -/
theorem Inv.publish (h : Inv ⟨bus, log⟩) (event : E) (partitionKey : Option String) :
    let result := bus.publish isInstance marketId event partitionKey
    (∀ e, result.1 = .error e → result.2.objects = bus.objects) ∧ result.2.Keeps bus ∧
      Inv ⟨result.2, log.record isInstance marketId bus.defaultQueueSize (.publish event partitionKey)
        (.returned result.1)⟩ := by
  intro result
  -- a closed bus raises and changes nothing
  by_cases hclosed : bus.closed = true
  · have hresult : result = (.error (.closed "event bus is closed"), bus) := if_pos hclosed
    rw [hresult]
    exact ⟨fun _ _ => rfl, .refl bus, h⟩
  let eventKey := eventPartitionKey marketId event partitionKey
  let matching := bus.matchingSubscriptions isInstance event eventKey
  -- full queues are found before anything is delivered, so a refusal only counts itself
  by_cases hfull : matching.filter (fun n => (bus.objects n).any (·.full)) = []
  case neg =>
    have hresult : result = (.error (.backpressure (bus.names (matching.filter fun n => (bus.objects n).any (·.full)))),
        { bus with backpressureEvents := bus.backpressureEvents + 1 }) := (if_neg hclosed).trans (if_pos hfull)
    rw [hresult]
    exact ⟨fun _ _ => rfl, .refl bus, ⟨h.created, h.fresh, h.tracks, h.registered, h.names_nodup, h.numbers_nodup,
      h.published, h.delivered⟩⟩
  have hmatching := h.matching_takes hfull
  -- every matching queue has room, so no push of the loop can fail
  have hdeliver : deliver event matching bus =
      (.ok ⟨⟩, { bus with objects := pushAll event matching bus.objects }) := by
    refine deliver_ok event (h.nodup_matching event eventKey) ?_
    intro n hn
    obtain ⟨entry, object, pending, _, hobject, htracks, _, hopen, hfull⟩ := hmatching n hn
    exact ⟨object, hobject, (htracks.publishNowait hopen hfull event).1⟩
  have hresult : result = (.ok ⟨⟩, { bus with
      objects := pushAll event matching bus.objects
      publishedEvents := bus.publishedEvents + 1
      deliveredEvents := bus.deliveredEvents + matching.length
      lastDeliveryOrder := names { bus with objects := pushAll event matching bus.objects } matching }) := by
    refine (if_neg hclosed).trans ((if_neg (not_not_intro hfull)).trans ?_)
    rw [hdeliver]
  rw [hresult]
  refine ⟨?_, .refl bus, ?_⟩
  · intro e he
    cases he
  have hobjects : ∀ n, pushAll event matching bus.objects n = none ↔ bus.objects n = none := by
    intro n
    rw [pushAll]
    split
    · exact Option.map_eq_none_iff
    · exact Iff.rfl
  refine { created := h.created, fresh := ?fresh, tracks := ?tracks, registered := h.registered_pushAll event matching
           names_nodup := h.names_nodup, numbers_nodup := h.numbers_nodup, published := ?published
           delivered := ?delivered }
  case fresh =>
    intro n hn
    exact (hobjects n).mpr (h.fresh n hn)
  case tracks =>
    intro n
    obtain ⟨hnone, hnone'⟩ | ⟨entry, object, pending, hentry, hobject, htracks⟩ := h.tracks n
    · refine Or.inl ⟨?_, (hobjects n).mpr hnone'⟩
      show (log.entries n).map _ = none
      rw [hnone, Option.map_none]
    · by_cases hn : n ∈ matching
      · -- the subscription takes the event, and the log owes it one more
        obtain ⟨entry', object', _, hentry', hobject', _, hdue, hopen, hfull⟩ := hmatching n hn
        have hentrySame := Option.some.inj (hentry'.symm.trans hentry)
        have hobjectSame := Option.some.inj (hobject'.symm.trans hobject)
        subst hentrySame hobjectSame
        refine Or.inr ⟨_, _, _, ?_, ?_, (htracks.publishNowait hopen hfull event).2⟩
        · show (log.entries n).map (Log.owe isInstance event eventKey) = _
          rw [hentry, Option.map_some, Log.owe, if_pos hdue]
        · show pushAll event matching bus.objects n = _
          rw [pushAll, if_pos hn, hobject, Option.map_some]
      · -- the event is not due to it, and neither side changes
        have hdue : ¬Log.Due isInstance event eventKey entry = true := by
          intro hdue
          exact hn (h.mem_matching.mpr ⟨entry, hentry, hdue⟩)
        refine Or.inr ⟨entry, object, pending, ?_, ?_, htracks⟩
        · show (log.entries n).map (Log.owe isInstance event eventKey) = _
          rw [hentry, Option.map_some, Log.owe, if_neg hdue]
        · show pushAll event matching bus.objects n = _
          rw [pushAll, if_neg hn, hobject]
  case published =>
    show bus.publishedEvents + 1 = log.published + 1
    rw [h.published]
  case delivered =>
    show bus.deliveredEvents + matching.length = log.delivered + (log.due isInstance event eventKey).length
    rw [h.delivered, h.length_matching]

/-! ### Subscribing -/

theorem newSubscription_ok {eventType : τ} {consumerName : String} {partitionKey : Option String} {queueSize : Option ℤ}
    {s : QueuedEventSubscription E τ}
    (h : bus.newSubscription eventType consumerName partitionKey queueSize = .ok s) :
    bus.closed = false ∧ consumerName ∉ bus.subscriptions.map Prod.fst ∧ s.consumerName = consumerName ∧
      s.closed = false ∧
      Tracks { eventType, partitionKey, queueSize := (queueSize.map Int.toNat).getD bus.defaultQueueSize } s [] := by
  unfold newSubscription at h
  obtain ⟨_, hopen, h⟩ := bind_eq_ok.mp h
  obtain ⟨_, _, h⟩ := bind_eq_ok.mp h
  obtain ⟨_, hnew, h⟩ := bind_eq_ok.mp h
  refine ⟨Bool.eq_false_of_not_eq_true (raiseIf_eq_ok.mp hopen), raiseIf_eq_ok.mp hnew, ?_⟩
  cases queueSize with
  | none =>
      cases h
      exact ⟨rfl, rfl, rfl, rfl, rfl, rfl, rfl, rfl, rfl, Nat.zero_le _, by intro hcontra; cases hcontra⟩
  | some size =>
      dsimp only at h
      split at h
      · cases h
        exact ⟨rfl, rfl, rfl, rfl, rfl, rfl, rfl, rfl, rfl, Nat.zero_le _, by intro hcontra; cases hcontra⟩
      · cases h

theorem Inv.subscribe (h : Inv ⟨bus, log⟩) (eventType : τ) (consumerName : String) (partitionKey : Option String)
    (queueSize : Option ℤ) :
    let result := bus.subscribe eventType consumerName partitionKey queueSize
    (result.2.closed = true → result.2 = bus) ∧ Inv ⟨result.2, log.record isInstance marketId bus.defaultQueueSize
      (.subscribe eventType consumerName partitionKey queueSize) (.subscribed result.1)⟩ := by
  intro result
  cases hs : bus.newSubscription eventType consumerName partitionKey queueSize with
  | error e =>
      have hresult : result = (.error e, bus) := by
        show bus.subscribe eventType consumerName partitionKey queueSize = _
        rw [InProcessEventBus.subscribe, hs]
      rw [hresult]
      exact ⟨fun _ => rfl, h⟩
  | ok s =>
      have hresult : result = (.ok bus.created, { bus.setObject bus.created s with
          created := bus.created + 1, subscriptions := bus.subscriptions ++ [(consumerName, bus.created)] }) := by
        show bus.subscribe eventType consumerName partitionKey queueSize = _
        rw [InProcessEventBus.subscribe, hs]
      rw [hresult]
      obtain ⟨hbusOpen, hnew, hname, hopen, htracks⟩ := newSubscription_ok hs
      have hfresh : bus.objects bus.created = none := h.fresh _ le_rfl
      refine ⟨fun hclosed => absurd (hbusOpen.symm.trans hclosed) Bool.false_ne_true, ?_⟩
      refine { created := ?created, fresh := ?fresh, tracks := ?tracks, registered := ?registered
               names_nodup := ?names_nodup, numbers_nodup := ?numbers_nodup, published := h.published
               delivered := h.delivered }
      case created =>
        show log.created + 1 = bus.created + 1
        exact congrArg (· + 1) h.created
      case fresh =>
        intro m hm
        have hlt : bus.created < m := hm
        exact (setObject_of_ne bus s (by omega)).trans (h.fresh m (by show bus.created ≤ m; omega))
      case tracks =>
        intro m
        by_cases hm : m = bus.created
        · subst hm
          exact Or.inr ⟨_, s, [], Function.update_self _ _ _, setObject_self bus _ s, htracks⟩
        · have hentries : (log.record isInstance marketId bus.defaultQueueSize
              (.subscribe eventType consumerName partitionKey queueSize) (.subscribed (.ok bus.created))).entries m =
              log.entries m := Function.update_of_ne hm _ _
          show (_ ∧ (bus.setObject bus.created s).objects m = _) ∨ _
          rw [hentries, setObject_of_ne bus s hm]
          exact h.tracks m
      case registered =>
        intro name m
        show (name, m) ∈ bus.subscriptions ++ [(consumerName, bus.created)] ↔
          ∃ o, (bus.setObject bus.created s).objects m = some o ∧ _
        rw [List.mem_append, List.mem_singleton, h.registered]
        by_cases hm : m = bus.created
        · subst hm
          rw [setObject_self]
          constructor
          · rintro (⟨o, ho, _⟩ | hpair)
            · have hcontra := ho.symm.trans hfresh
              cases hcontra
            · cases hpair
              exact ⟨s, rfl, hname, hopen⟩
          · rintro ⟨o, ho, hoName, _⟩
            cases ho
            exact Or.inr (by rw [← hoName, hname])
        · rw [setObject_of_ne bus s hm, or_iff_left]
          intro hpair
          exact hm (Prod.mk.inj hpair).2
      case names_nodup =>
        show ((bus.subscriptions ++ [(consumerName, bus.created)]).map Prod.fst).Nodup
        rw [List.map_append, List.map_singleton, ← List.concat_eq_append]
        exact List.Nodup.concat hnew h.names_nodup
      case numbers_nodup =>
        -- the number is fresh, and a registered one has an object
        show ((bus.subscriptions ++ [(consumerName, bus.created)]).map Prod.snd).Nodup
        rw [List.map_append, List.map_singleton, ← List.concat_eq_append]
        refine List.Nodup.concat ?_ h.numbers_nodup
        intro hmem
        obtain ⟨⟨name, m⟩, hpair, hm⟩ := List.mem_map.mp hmem
        obtain ⟨o, ho, _⟩ := (h.registered name m).mp hpair
        have hcontra := ho.symm.trans ((congrArg bus.objects hm).trans hfresh)
        cases hcontra

/-! ### Receiving and closing -/

/-- What the consumer's next `__anext__` gives, by the log; none while it waits. -/
def SubscriptionLog.upcoming (entry : SubscriptionLog E τ) : Option (QueuedEventSubscription.Received E) :=
  match entry.owed.drop entry.received.length with
  | event :: _ => some (.event event)
  | [] => if entry.isOpen || entry.ended then none else some .stopAsyncIteration

theorem Tracks.upcoming {entry : SubscriptionLog E τ} {s : QueuedEventSubscription E τ} {pending : List E}
    (h : Tracks entry s pending) : s.next.map Prod.fst = entry.upcoming := by
  rw [SubscriptionLog.upcoming, h.owed, List.drop_left]
  cases pending with
  | nil =>
      obtain ⟨hnext, hwaits⟩ | ⟨hnext, hwaits, _⟩ := h.next_nil
      · rw [hnext]
        exact (if_pos hwaits).symm
      · rw [hnext]
        exact (if_neg (Bool.not_eq_true _ ▸ hwaits)).symm
  | cons event pending => rw [h.next_event.1, Option.map_some]

theorem Inv.receive (h : Inv ⟨bus, log⟩) {n : ℕ} {received : QueuedEventSubscription.Received E}
    {bus' : InProcessEventBus E τ} (hreceive : bus.receive n = some (received, bus')) :
    bus'.Keeps bus ∧
      Inv ⟨bus', log.record isInstance marketId bus.defaultQueueSize (.receive n) (.received received)⟩ := by
  rw [InProcessEventBus.receive] at hreceive
  obtain ⟨object, hobject, hreceive⟩ := Option.bind_eq_some_iff.mp hreceive
  obtain ⟨⟨received', object'⟩, hnext, hreceive⟩ := Option.map_eq_some_iff.mp hreceive
  cases hreceive
  obtain ⟨entry, pending, hentry, htracks⟩ := h.tracks_of_object hobject
  cases pending with
  | nil =>
      obtain ⟨hnone, _⟩ | ⟨hsome, _, htracks'⟩ := htracks.next_nil
      · have hcontra := hnone.symm.trans hnext
        cases hcontra
      · cases hsome.symm.trans hnext
        exact ⟨.refl bus, h.setObject hentry rfl hobject htracks' (List.Sublist.refl _)
          (h.registered_setObject hobject rfl rfl)⟩
  | cons event pending =>
      obtain ⟨hsome, htracks'⟩ := htracks.next_event
      cases hsome.symm.trans hnext
      exact ⟨.refl bus, h.setObject hentry rfl hobject htracks' (List.Sublist.refl _)
          (h.registered_setObject hobject rfl rfl)⟩

/-- Closing a subscription never raises. -/
theorem Inv.closeSubscription (h : Inv ⟨bus, log⟩) (n : ℕ) :
    (bus.closeSubscription n).1 = .ok ⟨⟩ ∧ (bus.closeSubscription n).2.Keeps bus ∧
      Inv ⟨(bus.closeSubscription n).2, log.change n Log.shut⟩ := by
  cases hobject : bus.objects n with
  | none =>
      have hresult : bus.closeSubscription n = (.ok ⟨⟩, bus) := by
        rw [InProcessEventBus.closeSubscription, hobject]
      have hlog : log.change n Log.shut = log := by
        rw [Log.change, h.entry_none hobject, Option.map_none, ← h.entry_none hobject, Function.update_eq_self]
      rw [hresult, hlog]
      exact ⟨rfl, .refl bus, h⟩
  | some object =>
      obtain ⟨entry, pending, hentry, htracks⟩ := h.tracks_of_object hobject
      by_cases hopen : entry.isOpen = true
      · obtain ⟨hclose, htracks'⟩ := htracks.close hopen
        have hclosed : object.closed = false := by rw [htracks.closed, hopen, Bool.not_true]
        have hresult : bus.closeSubscription n = (.ok ⟨⟩, { bus.setObject n
            { object with closed := true, queue := object.queue ++ [.closed] } with
            subscriptions := bus.subscriptions.filter fun entry => entry.1 ≠ object.consumerName }) := by
          rw [InProcessEventBus.closeSubscription, hobject]
          dsimp only
          rw [hclose]
        rw [hresult]
        refine ⟨rfl, ⟨rfl, List.filter_sublist⟩, h.setObject hentry rfl hobject htracks' List.filter_sublist ?_⟩
        exact h.registered_close hobject hclosed rfl
      · obtain ⟨hclose, hshut⟩ := htracks.close_closed (Bool.eq_false_of_not_eq_true hopen)
        have hresult : bus.closeSubscription n = (.ok ⟨⟩, bus) := by
          rw [InProcessEventBus.closeSubscription, hobject]
          dsimp only
          rw [hclose]
        have hlog : log.change n Log.shut = log := by
          rw [Log.change, hentry, Option.map_some, hshut, ← hentry, Function.update_eq_self]
        rw [hresult, hlog]
        exact ⟨rfl, .refl bus, h⟩

/-- The log after a close of every subscription with a number in the list. -/
def shutAll (ns : List ℕ) (log : Log E τ) : Log E τ :=
  { log with entries := fun n => if n ∈ ns then (log.entries n).map Log.shut else log.entries n }

@[simp] theorem entries_shutAll (ns : List ℕ) (n : ℕ) :
    (shutAll ns log).entries n = if n ∈ ns then (log.entries n).map Log.shut else log.entries n := rfl

theorem shutAll_cons (n : ℕ) (ns : List ℕ) : shutAll ns (log.change n Log.shut) = shutAll (n :: ns) log := by
  refine Log.ext (funext fun m => ?_) rfl rfl rfl
  rw [entries_shutAll, entries_shutAll]
  by_cases hm : m = n
  · subst hm
    have hself : (log.change m Log.shut).entries m = (log.entries m).map Log.shut := Function.update_self _ _ _
    rw [hself, if_pos List.mem_cons_self, Option.map_map]
    exact ite_id _
  · have hother : (log.change n Log.shut).entries m = log.entries m := Function.update_of_ne hm _ _
    have hmem : m ∈ n :: ns ↔ m ∈ ns := by rw [List.mem_cons, or_iff_right hm]
    simp only [hother, hmem]

theorem Inv.closeSubscriptions {ns : List ℕ} (h : Inv ⟨bus, log⟩) :
    (closeSubscriptions ns bus).1 = .ok ⟨⟩ ∧ Inv ⟨(closeSubscriptions ns bus).2, shutAll ns log⟩ := by
  induction ns generalizing bus log with
  | nil =>
      have hlog : shutAll [] log = log := by
        refine Log.ext (funext fun n => ?_) rfl rfl rfl
        rw [entries_shutAll, if_neg List.not_mem_nil]
      rw [hlog]
      exact ⟨rfl, h⟩
  | cons n ns ih =>
      obtain ⟨hok, _, hinv⟩ := h.closeSubscription n
      have hresult : InProcessEventBus.closeSubscriptions (n :: ns) bus =
          InProcessEventBus.closeSubscriptions ns (bus.closeSubscription n).2 := by
        rw [InProcessEventBus.closeSubscriptions]
        split
        · rename_i e bus' hclose
          rw [hclose] at hok
          cases hok
        · rename_i bus' hclose
          rw [hclose]
      rw [hresult, ← shutAll_cons]
      exact ih hinv

/-- A subscription that is not registered is shut already. -/
theorem Inv.shut_of_not_mem (h : Inv ⟨bus, log⟩) {n : ℕ} (hn : n ∉ bus.subscriptions.map Prod.snd) :
    (log.entries n).map Log.shut = log.entries n := by
  obtain ⟨hnone, _⟩ | ⟨entry, object, pending, hentry, hobject, htracks⟩ := h.tracks n
  · rw [hnone, Option.map_none]
  · have hopen : entry.isOpen = false := by
      by_contra hopen
      have hclosed : object.closed = false := by
        rw [htracks.closed, Bool.eq_true_of_not_eq_false hopen, Bool.not_true]
      have hmem := (h.registered object.consumerName n).mpr ⟨object, hobject, rfl, hclosed⟩
      exact hn (List.mem_map.mpr ⟨_, hmem, rfl⟩)
    rw [hentry, Option.map_some, (htracks.close_closed hopen).2]

/-- Closing the bus never raises, and it closes every subscription that is open. -/
theorem Inv.close (h : Inv ⟨bus, log⟩) (hempty : bus.closed = true → bus.subscriptions = []) :
    bus.close.1 = .ok ⟨⟩ ∧ Inv ⟨bus.close.2, { log with entries := fun n => (log.entries n).map Log.shut }⟩ := by
  by_cases hclosed : bus.closed = true
  · have hresult : bus.close = (.ok ⟨⟩, bus) := if_pos hclosed
    have hlog : (fun n => (log.entries n).map Log.shut) = log.entries := by
      funext n
      exact h.shut_of_not_mem (by rw [hempty hclosed]; exact List.not_mem_nil)
    rw [hresult, hlog]
    exact ⟨rfl, h⟩
  · have hshut : Inv ⟨{ bus with closed := true }, log⟩ :=
      ⟨h.created, h.fresh, h.tracks, h.registered, h.names_nodup, h.numbers_nodup, h.published, h.delivered⟩
    have hresult : bus.close = InProcessEventBus.closeSubscriptions (bus.subscriptions.map Prod.snd)
        { bus with closed := true } := if_neg hclosed
    have hlog : shutAll (bus.subscriptions.map Prod.snd) log =
        { log with entries := fun n => (log.entries n).map Log.shut } := by
      refine Log.ext (funext fun n => ?_) rfl rfl rfl
      rw [entries_shutAll]
      split
      · rfl
      · rename_i hn
        exact (h.shut_of_not_mem hn).symm
    rw [hresult, ← hlog]
    exact hshut.closeSubscriptions

end Calls

/-! ## Runs -/

/-- A closed bus has no subscription registered. -/
structure Reached (s : Logged E τ) : Prop extends Inv s where
  closed : s.bus.closed = true → s.bus.subscriptions = []

variable {isInstance marketId}

theorem initial_reached (defaultQueueSize : ℕ) (deterministic : Bool) (hpos : 1 ≤ defaultQueueSize) :
    Reached ({ bus := { defaultQueueSize, deterministic, defaultQueueSize_pos := hpos } } : Logged E τ) := by
  refine ⟨⟨rfl, fun _ _ => rfl, fun _ => Or.inl ⟨rfl, rfl⟩, ?_, List.nodup_nil, List.nodup_nil, rfl, rfl⟩, ?_⟩
  · intro name n
    refine iff_of_false List.not_mem_nil ?_
    rintro ⟨object, hobject, _⟩
    cases hobject
  · intro hclosed
    cases hclosed

theorem step_reached {s t : Logged E τ} {c : Call E τ} (h : Reached s) (hstep : Step isInstance marketId s c t) :
    Reached t := by
  obtain ⟨bus, log⟩ := s
  have hkeeps : ∀ {bus' : InProcessEventBus E τ}, bus'.Keeps bus → bus'.closed = true → bus'.subscriptions = [] := by
    intro bus' hkeeps hclosed
    have hempty : bus.subscriptions = [] := h.closed (hkeeps.1.symm.trans hclosed)
    exact List.sublist_nil.mp (hempty ▸ hkeeps.2)
  cases hstep with
  | call hcall =>
      cases c with
      | subscribe eventType consumerName partitionKey queueSize =>
          cases hcall
          obtain ⟨hclosed, hinv⟩ := h.toInv.subscribe eventType consumerName partitionKey queueSize
          exact ⟨hinv, fun hbusClosed => (hclosed hbusClosed).symm ▸ h.closed (hclosed hbusClosed ▸ hbusClosed)⟩
      | publish event partitionKey =>
          cases hcall
          obtain ⟨_, hsame, hinv⟩ := h.toInv.publish event partitionKey
          exact ⟨hinv, hkeeps hsame⟩
      | receive n =>
          obtain ⟨⟨received, bus'⟩, hreceive, hcall⟩ := Option.map_eq_some_iff.mp hcall
          cases hcall
          obtain ⟨hsame, hinv⟩ := h.toInv.receive hreceive
          exact ⟨hinv, hkeeps hsame⟩
      | closeSubscription n =>
          cases hcall
          obtain ⟨_, hsame, hinv⟩ := h.toInv.closeSubscription n
          exact ⟨hinv, hkeeps hsame⟩
      | close =>
          cases hcall
          have hinv := (h.toInv.close h.closed).2
          refine ⟨hinv, fun _ => ?_⟩
          -- what is still registered is open, and the log has shut everything
          refine List.eq_nil_iff_forall_not_mem.mpr ?_
          rintro ⟨name, n⟩ hmem
          obtain ⟨object, hobject, _, hopen⟩ := (hinv.registered name n).mp hmem
          obtain ⟨entry, pending, hentry, htracks⟩ := hinv.tracks_of_object hobject
          obtain ⟨entry', _, rfl⟩ := Option.map_eq_some_iff.mp hentry
          have hcontra := htracks.closed.symm.trans hopen
          cases hcontra

theorem receive_eq_upcoming {bus : InProcessEventBus E τ} {n : ℕ} {entry : SubscriptionLog E τ}
    {object : QueuedEventSubscription E τ} {pending : List E} (hobject : bus.objects n = some object)
    (h : Tracks entry object pending) : (bus.receive n).map Prod.fst = entry.upcoming := by
  rw [InProcessEventBus.receive, hobject, Option.bind_some, Option.map_map, ← h.upcoming]
  rfl

/-- **Exact delivery.** -/
theorem delivery (defaultQueueSize : ℕ) (deterministic : Bool) (hpos : 1 ≤ defaultQueueSize) {s : Logged E τ}
    (hreach : Reaches (Step isInstance marketId) (fun _ _ => True)
      { bus := { defaultQueueSize, deterministic, defaultQueueSize_pos := hpos } } s) :
    (∀ n entry, s.log.entries n = some entry → ∃ object pending, s.bus.objects n = some object ∧
        Tracks entry object pending ∧ (s.bus.receive n).map Prod.fst = entry.upcoming) ∧
      s.bus.publishedEvents = s.log.published ∧ s.bus.deliveredEvents = s.log.delivered ∧
      (∀ event partitionKey e, (s.bus.publish isInstance marketId event partitionKey).1 = .error e →
        (s.bus.publish isInstance marketId event partitionKey).2.objects = s.bus.objects) ∧
      (∀ n, (s.bus.closeSubscription n).1 = .ok ⟨⟩) ∧ s.bus.close.1 = .ok ⟨⟩ := by
  have h : Reached s := by
    refine Reaches.inv Reached ?_ hreach (initial_reached defaultQueueSize deterministic hpos)
    intro t c u ht _ hstep
    exact step_reached ht hstep
  refine ⟨?_, h.published, h.delivered, ?_, ?_, (h.toInv.close h.closed).1⟩
  · intro n entry hentry
    obtain ⟨object, pending, hobject, htracks⟩ := h.toInv.tracks_of_entry hentry
    exact ⟨object, pending, hobject, htracks, receive_eq_upcoming hobject htracks⟩
  · intro event partitionKey e he
    exact (h.toInv.publish event partitionKey).1 e he
  · intro n
    exact (h.toInv.closeSubscription n).1

theorem delivery_published : ∃ s : Logged ℕ Unit, s.log.published = 1 ∧ s.bus.publishedEvents = s.log.published := by
  have hrun : ∃ s, Reaches (Step (fun (_ : ℕ) (_ : Unit) => true) fun _ => none) (fun _ _ => True)
      { bus := { defaultQueueSize := 1, deterministic := true, defaultQueueSize_pos := le_rfl } } s ∧
      s.log.published = 1 := by
    exact ⟨_, .tail (.tail .refl trivial (.call (c := .subscribe () "consumer" none none) rfl)) trivial
      (.call (c := .publish 5 none) rfl), by decide +kernel⟩
  obtain ⟨s, hreach, hpublished⟩ := hrun
  exact ⟨s, hpublished, (delivery 1 true le_rfl hreach).2.1⟩

end InProcessEventBus
end Pmrp
