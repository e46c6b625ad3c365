import Pmrp.Schemas.Events

/-!
# `Replay.Sorter` — the order of a replay

`replay/sorter.py`. Events are sorted by a key that ends in the event id. The key of an event whose ordering
attributes are invalid cannot be built, and then nothing is sorted.
-/

namespace Pmrp
namespace ReplaySorter

def replayOrderingPolicyVersion : String := "occurred-sequence-received-v1"
def exchangeSequenceAttribute : String := "exchange_sequence"
def sourcePartitionAttribute : String := "source_partition"

/-- Time, sequence group and sequence, receipt, source partition, event id: compared in this order. Text is
    compared by code points, as Python does. -/
abbrev OrderingKey := UTCDateTime ×ₗ (ℕ ×ₗ ℕ) ×ₗ UTCDateTime ×ₗ String ×ₗ String

def sequenceInvalid : PyError :=
  ⟨.replayOrderingError, "Replay event exchange sequence must be a nonnegative integer when present"⟩

def partitionInvalid : PyError :=
  ⟨.replayOrderingError, "Replay event source partition must be a stable string when present"⟩

/-- `_exchange_sequence_key`: events without a sequence come after those with one. -/
def exchangeSequenceKey (event : EventEnvelope) : Result (ℕ × ℕ) :=
  match event.attributes.lookup exchangeSequenceAttribute with
  | none => .ok (1, 0)
  | some .null => .ok (1, 0)
  | some (.int n) => if n < 0 then .error sequenceInvalid else .ok (0, n.toNat)
  | some _ => .error sequenceInvalid

/-- `_source_partition`. -/
def sourcePartition (event : EventEnvelope) : Result String :=
  match event.attributes.lookup sourcePartitionAttribute with
  | none => .ok ""
  | some .null => .ok ""
  | some (.str s) => if s = "" ∨ isStripped s = false then .error partitionInvalid else .ok s
  | some _ => .error partitionInvalid

def replayEventOrderingKey (event : EventEnvelope) : Result OrderingKey := do
  let sequence ← exchangeSequenceKey event
  let partition ← sourcePartition event
  pure (toLex (event.occurredAt,
    toLex (toLex sequence, toLex (event.receivedAt, toLex (partition, event.eventId.val)))))

/-- `sorted(events, key=…)`: all keys first, then a stable sort. -/
def sortReplayEvents (events : List EventEnvelope) : Result (List EventEnvelope) := do
  let keyed ← events.mapM fun event => do
    let key ← replayEventOrderingKey event
    pure (key, event)
  pure ((sortByKey Prod.fst keyed).map Prod.snd)

/-! ## Sorting by a total key -/

/-- The ordering attributes of every event are valid. -/
def OrderingValid (events : List EventEnvelope) : Prop :=
  ∀ e ∈ events, ∃ key, replayEventOrderingKey e = .ok key

/-- The key where there is one. -/
def keyOf (event : EventEnvelope) : OrderingKey :=
  (replayEventOrderingKey event).toOption.getD (toLex (0, toLex (toLex (0, 0), toLex (0, toLex ("", "")))))

theorem keyOf_of_ok {event : EventEnvelope} {key : OrderingKey} (h : replayEventOrderingKey event = .ok key) :
    keyOf event = key := by
  rw [keyOf, h]; rfl

theorem keyOf_occurredAt {event : EventEnvelope} (h : ∃ key, replayEventOrderingKey event = .ok key) :
    (ofLex (keyOf event)).1 = event.occurredAt := by
  obtain ⟨key, hkey⟩ := h
  rw [keyOf_of_ok hkey]
  simp only [replayEventOrderingKey, bind_eq_ok, pure_eq_ok] at hkey
  obtain ⟨sequence, -, partition, -, rfl⟩ := hkey
  rfl

theorem OrderingValid.perm {events events' : List EventEnvelope} (h : OrderingValid events)
    (hperm : events'.Perm events) : OrderingValid events' := fun e he => h e (hperm.mem_iff.mp he)

theorem mapM_keys_eq_ok {events : List EventEnvelope} (h : OrderingValid events) :
    (events.mapM fun event => do
      let key ← replayEventOrderingKey event
      pure (key, event)) = .ok (events.map fun event => (keyOf event, event)) := by
  apply mapM_ok
  intro e he
  obtain ⟨key, hkey⟩ := h e he
  rw [hkey, ok_bind, keyOf_of_ok hkey]
  rfl

/-- Sorting the keyed pairs is sorting the events by their keys. -/
theorem map_snd_sortByKey_keyed {α κ : Type*} [LinearOrder κ] (key : α → κ) (l : List α) :
    (sortByKey Prod.fst (l.map fun a => (key a, a))).map Prod.snd = sortByKey key l := by
  rw [sortByKey, sortByKey, ← List.map_mergeSort (f := fun a => (key a, a))
    (r := fun a b => decide (key a ≤ key b)) (s := fun a b => decide (a.1 ≤ b.1)) fun _ _ _ _ => rfl,
    List.map_map]
  exact List.map_id _

theorem sortReplayEvents_eq_ok {events : List EventEnvelope} (h : OrderingValid events) :
    sortReplayEvents events = .ok (sortByKey keyOf events) := by
  rw [sortReplayEvents, mapM_keys_eq_ok h, ok_bind, map_snd_sortByKey_keyed]
  rfl

/-- The sorted events never go back in time. -/
theorem pairwise_occurredAt {events : List EventEnvelope} (h : OrderingValid events) :
    (sortByKey keyOf events).Pairwise fun a b => a.occurredAt ≤ b.occurredAt := by
  refine (pairwise_sortByKey keyOf events).imp_of_mem ?_
  intro a b ha hb hab
  rw [← keyOf_occurredAt (h a (mem_sortByKey.mp ha)), ← keyOf_occurredAt (h b (mem_sortByKey.mp hb))]
  exact Prod.Lex.monotone_fst _ _ hab

end ReplaySorter
end Pmrp
