import Mathlib.Data.Finset.Card
import Mathlib.Data.Finset.Dedup
import Pmrp.Portfolio.Correctness.SettlementRounding

/-!
# `Portfolio.Correctness.SettlementJournals` — storing the journals of one settlement event

One settlement, carried by one source event, applied to the positions of its market one after the other. Each
application books its own entry under the same source event, and the journal table takes one entry for an event
(`uq_journal_entries__source_event_id`).

- **Result.** The journal ids are distinct in every run, and all entries can be stored exactly when the settlement
  books at most one of the positions (`storable_iff`).
-/

namespace Pmrp
namespace Settlements

open Positions Finset

variable (ctx : DecimalContext) (sha : Sha256)

/-- The primary key of `journal_entries` and its unique constraint let these entries be stored together. -/
structure Storable (entries : List AccountingJournalEntry) : Prop where
  journalEntryIds : (entries.map AccountingJournalEntry.journalEntryId).Nodup
  sourceEventIds : (entries.map AccountingJournalEntry.sourceEventId).Nodup

/-- `apply_settlement_once` for each position in turn, with the applied ids handed on. The balance is whatever the
    account of the position has then. -/
inductive AppliedToAll (settlement : Settlement) (currency : String) (sourceEventId : EventId) :
    Finset String → List Position → List AccountingJournalEntry → Prop
  | nil {ids : Finset String} : AppliedToAll settlement currency sourceEventId ids [] []
  | cons {ids : Finset String} {position : Position} {positions : List Position} {cashBalance : CashBalance}
      {createdAt : UTCDateTime} {result : SettlementApplicationResult} {entries : List AccountingJournalEntry} :
      applySettlementOnce ctx sha position cashBalance settlement ids currency sourceEventId createdAt = .ok result →
      AppliedToAll settlement currency sourceEventId result.appliedJournalEntryIds positions entries →
      AppliedToAll settlement currency sourceEventId ids (position :: positions)
        (result.journalEntry.toList ++ entries)

/-- The journal ids of the positions that the settlement has not been booked for. -/
def unbooked (settlement : Settlement) (ids : Finset String) (positions : List Position) : Finset String :=
  (positions.map fun position => deriveSettlementJournalEntryId sha position settlement).toFinset \ ids

variable {ctx sha}
variable {settlement : Settlement} {currency : String} {sourceEventId : EventId}

/-- An application books one entry under the derived id, or finds that id booked and does nothing. -/
theorem applySettlementOnce_ids {position : Position} {cashBalance : CashBalance} {ids : Finset String}
    {createdAt : UTCDateTime} {result : SettlementApplicationResult}
    (h : applySettlementOnce ctx sha position cashBalance settlement ids currency sourceEventId createdAt
      = .ok result) :
    (deriveSettlementJournalEntryId sha position settlement ∈ ids ∧ result.journalEntry = none ∧
      result.appliedJournalEntryIds = ids) ∨
    (deriveSettlementJournalEntryId sha position settlement ∉ ids ∧
      result.appliedJournalEntryIds = insert (deriveSettlementJournalEntryId sha position settlement) ids ∧
      ∃ entry, result.journalEntry = some entry ∧ entry.sourceEventId = sourceEventId ∧
        entry.journalEntryId = deriveSettlementJournalEntryId sha position settlement) := by
  unfold applySettlementOnce at h
  obtain ⟨_, -, h⟩ := bind_eq_ok.mp h
  obtain ⟨_, -, h⟩ := bind_eq_ok.mp h
  dsimp only at h
  split_ifs at h with hbooked
  · obtain rfl := pure_eq_ok.mp h
    exact Or.inl ⟨hbooked, rfl, rfl⟩
  · simp only [bind_eq_ok, pure_eq_ok] at h
    obtain ⟨_, -, entry, hentry, _, -, rfl⟩ := h
    simp only [buildSettlementJournalEntry, bind_eq_ok, AccountingJournalEntry.validate_eq_ok] at hentry
    obtain ⟨_, -, _, -, -, rfl⟩ := hentry
    exact Or.inr ⟨hbooked, rfl, _, rfl, rfl, rfl⟩

/-- The entries of a run have the unbooked ids, each once, and the one source event. -/
theorem AppliedToAll.entries {ids : Finset String} {positions : List Position}
    {entries : List AccountingJournalEntry}
    (h : AppliedToAll ctx sha settlement currency sourceEventId ids positions entries) :
    (entries.map AccountingJournalEntry.journalEntryId).Nodup ∧
      (entries.map AccountingJournalEntry.journalEntryId).toFinset = unbooked sha settlement ids positions ∧
      ∀ entry ∈ entries, entry.sourceEventId = sourceEventId := by
  induction h with
  | nil => exact ⟨List.nodup_nil, by simp [unbooked], by simp⟩
  | @cons ids position positions _ _ result entries happly _ ih =>
      obtain ⟨hnodup, hids, hsource⟩ := ih
      rcases applySettlementOnce_ids happly with ⟨hbooked, hnone, hsame⟩ | ⟨hnew, hinsert, entry, hentry, hevent, hid⟩
      · rw [hnone, Option.toList_none, List.nil_append]
        refine ⟨hnodup, ?_, hsource⟩
        rw [hids, hsame, unbooked, unbooked, List.map_cons, List.toFinset_cons, insert_sdiff_of_mem _ hbooked]
      · rw [hentry, Option.toList_some, List.singleton_append, List.map_cons]
        have hfresh : entry.journalEntryId ∉ entries.map AccountingJournalEntry.journalEntryId := by
          intro hmem
          have hmem' : entry.journalEntryId ∈ unbooked sha settlement result.appliedJournalEntryIds positions := by
            rw [← hids]
            exact List.mem_toFinset.mpr hmem
          rw [unbooked, mem_sdiff, hinsert, hid] at hmem'
          exact hmem'.2 (mem_insert_self _ _)
        refine ⟨List.nodup_cons.mpr ⟨hfresh, hnodup⟩, ?_, ?_⟩
        · rw [List.toFinset_cons, hids, hinsert, hid]
          ext x
          simp only [unbooked, List.map_cons, List.toFinset_cons, mem_insert, mem_sdiff]
          by_cases hx : x = deriveSettlementJournalEntryId sha position settlement
          · rw [hx]
            simp [hnew]
          · simp [hx]
        · intro other hother
          rcases List.mem_cons.mp hother with rfl | hother
          · exact hevent
          · exact hsource other hother

/-- As many entries as unbooked positions, all with one source event. -/
theorem AppliedToAll.sourceEvents {ids : Finset String} {positions : List Position}
    {entries : List AccountingJournalEntry}
    (h : AppliedToAll ctx sha settlement currency sourceEventId ids positions entries) :
    entries.map AccountingJournalEntry.sourceEventId
      = List.replicate (unbooked sha settlement ids positions).card sourceEventId := by
  obtain ⟨hnodup, hids, hsource⟩ := h.entries
  have hcard : (unbooked sha settlement ids positions).card = entries.length := by
    rw [← hids, List.toFinset_card_of_nodup hnodup, List.length_map]
  rw [hcard]
  exact List.map_eq_replicate_iff.mpr hsource

/-- **Storing the journals of one event.** All entries can be stored exactly when at most one position is booked. -/
theorem storable_iff {ids : Finset String} {positions : List Position} {entries : List AccountingJournalEntry}
    (h : AppliedToAll ctx sha settlement currency sourceEventId ids positions entries) :
    Storable entries ↔ (unbooked sha settlement ids positions).card ≤ 1 := by
  constructor
  · intro hstorable
    have hsingle := hstorable.sourceEventIds
    rw [h.sourceEvents, List.nodup_replicate] at hsingle
    exact hsingle
  · intro hle
    refine ⟨h.entries.1, ?_⟩
    rw [h.sourceEvents, List.nodup_replicate]
    exact hle

/-! ## Two positions of one market -/

/-- A digest function that tells the two positions below apart. -/
def positionDigest : Sha256 where
  hexdigest
    | .mapping ((_, .str positionId) :: _) =>
        if positionId = "pos_1" then "1111111111111111111111111111111111111111111111111111111111111111"
        else "2222222222222222222222222222222222222222222222222222222222222222"
    | _ => "3333333333333333333333333333333333333333333333333333333333333333"
  length_hexdigest v := by split <;> [split_ifs; skip] <;> decide
  hex_hexdigest v := by split <;> [split_ifs; skip] <;> decide

/-- A position of the same account in the other contract of the market. -/
def otherPosition : Position :=
  { heldPosition with
    positionId := ⟨"pos_other", by decide⟩, contractId := ⟨"ctr_other", by decide⟩
    outcomeId := ⟨"out_other", by decide⟩ }

/-- The first of the two is booked and pays two dollars. -/
theorem heldPosition_applied :
    ∃ result, applySettlementOnce defaultContext positionDigest heldPosition (marketBalance 10 0)
    (marketSettlement 1 zero_le_one) ∅ usd.code settleEvent 9 = .ok result ∧
    (result.appliedJournalEntryIds, result.cashBalance) =
      ({deriveSettlementJournalEntryId positionDigest heldPosition (marketSettlement 1 zero_le_one)},
        { marketBalance 12 0 with capturedAt := 4 }) :=
  (map_eq_ok (f := fun r : SettlementApplicationResult => (r.appliedJournalEntryIds, r.cashBalance))).mp
    (by decide +kernel)

theorem otherPosition_applied : ∃ result, applySettlementOnce defaultContext positionDigest otherPosition
    { marketBalance 12 0 with capturedAt := 4 } (marketSettlement 1 zero_le_one)
    {deriveSettlementJournalEntryId positionDigest heldPosition (marketSettlement 1 zero_le_one)} usd.code settleEvent 9
      = .ok result ∧ (result.applied, result.journalEntry.isSome) = (true, true) :=
  (map_eq_ok (f := fun r : SettlementApplicationResult => (r.applied, r.journalEntry.isSome))).mp (by decide +kernel)

/-- A position that the event was booked for before is passed over. -/
theorem heldPosition_again : ∃ result, applySettlementOnce defaultContext positionDigest heldPosition
    { marketBalance 12 0 with capturedAt := 4 } (marketSettlement 1 zero_le_one)
    {deriveSettlementJournalEntryId positionDigest heldPosition (marketSettlement 1 zero_le_one)} usd.code settleEvent 9
      = .ok result ∧ (result.appliedJournalEntryIds, result.journalEntry) =
        ({deriveSettlementJournalEntryId positionDigest heldPosition (marketSettlement 1 zero_le_one)}, none) :=
  (map_eq_ok (f := fun r : SettlementApplicationResult => (r.appliedJournalEntryIds, r.journalEntry))).mp
    (by decide +kernel)

/-- Of two positions one is booked before, and the other is stored. -/
theorem storable_iff_otherPosition : ∃ entries : List AccountingJournalEntry, Storable entries ∧ entries ≠ [] ∧
    AppliedToAll defaultContext positionDigest (marketSettlement 1 zero_le_one) usd.code settleEvent
      {deriveSettlementJournalEntryId positionDigest heldPosition (marketSettlement 1 zero_le_one)}
      [heldPosition, otherPosition] entries := by
  obtain ⟨again, hagain, hsame⟩ := heldPosition_again
  obtain ⟨other, hother, hbooked⟩ := otherPosition_applied
  obtain ⟨hids, hentry⟩ := Prod.mk.inj hsame
  obtain ⟨-, hsome⟩ := Prod.mk.inj hbooked
  rw [← hids] at hother
  have hrun := AppliedToAll.cons hagain (.cons hother .nil)
  refine ⟨_, (storable_iff hrun).mpr (by decide +kernel), ?_, hrun⟩
  intro hnil
  rw [hentry, List.append_nil, Option.toList_none, List.nil_append] at hnil
  rw [Option.toList_eq_nil_iff.mp hnil] at hsome
  cases hsome

/-- Both positions book the one source event, and the table refuses the second entry. -/
theorem both_positions_collide : ∃ entries : List AccountingJournalEntry,
    AppliedToAll defaultContext positionDigest (marketSettlement 1 zero_le_one) usd.code settleEvent ∅
      [heldPosition, otherPosition] entries ∧ ¬Storable entries := by
  obtain ⟨first, hfirst, hids⟩ := heldPosition_applied
  obtain ⟨second, hsecond, -⟩ := otherPosition_applied
  obtain ⟨hids, -⟩ := Prod.mk.inj hids
  rw [← hids] at hsecond
  have hrun := AppliedToAll.cons hfirst (.cons hsecond .nil)
  refine ⟨_, hrun, fun hstorable => ?_⟩
  have hsingle := hstorable.sourceEventIds
  have htwo : (unbooked positionDigest (marketSettlement 1 zero_le_one) ∅ [heldPosition, otherPosition]).card = 2 := by
    decide +kernel
  rw [hrun.sourceEvents, htwo, List.nodup_replicate] at hsingle
  omega

end Settlements
end Pmrp
