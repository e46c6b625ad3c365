import Pmrp.Lib.Transitions
import Pmrp.Storage.CapitalReservations
import Pmrp.Storage.KillSwitches

/-!
# `Storage.Correctness.RiskRows` — stored risk rows stay readable

Runs of the calls that write capital reservations and kill switches. A row is readable when its mapping returns the
record that was added, with the status fields of the row.

- **What an update may break.** `release` of either repository writes the given time without comparing it with the
  creation or activation of the row; the validators compare them. `release_expired` only takes rows whose expiry,
  which lies after their creation, has passed.
- **What an insert may break.** A numeric column rounds.

`step_readable` says for each call when all rows stay readable, `rows_readable` follows it along a run.
-/

namespace Pmrp
namespace RiskRows

/-! ## Readable rows -/

/-- The rows differ in their status and release time only. -/
def SameCreation (added row : CapitalReservation) : Prop :=
  row = { added with status := row.status, releasedAt := row.releasedAt }

/-- The rows differ in their release, the active flag and the version only. -/
def SameActivation (added row : KillSwitchState) : Prop :=
  row = { added with
    active := row.active, releasedAt := row.releasedAt, releasedBy := row.releasedBy
    releaseReason := row.releaseReason, version := row.version }

def ReservationReads (row added : CapitalReservation) : Prop :=
  ∃ reservation, CapitalReservationRepository.capitalReservationFromRow row = .ok reservation ∧
    reservation.Valid ∧ SameCreation added reservation

/-- `kill_switch_from_row` is the validation of the row's fields. -/
def KillSwitchReads (row added : KillSwitchState) : Prop :=
  ∃ killSwitch, row.validate = .ok killSwitch ∧ killSwitch.Valid ∧ SameActivation added killSwitch

theorem reservationReads_iff {row added : CapitalReservation} :
    ReservationReads row added ↔ row.Valid ∧ SameCreation added row := by
  constructor
  · rintro ⟨reservation, hread, hvalid, hsame⟩
    obtain ⟨-, rfl⟩ := CapitalReservation.validate_eq_ok.mp hread
    exact ⟨hvalid, hsame⟩
  · rintro ⟨hvalid, hsame⟩
    exact ⟨row, hvalid.validate, hvalid, hsame⟩

theorem killSwitchReads_iff {row added : KillSwitchState} :
    KillSwitchReads row added ↔ row.Valid ∧ SameActivation added row := by
  constructor
  · rintro ⟨killSwitch, hread, hvalid, hsame⟩
    obtain ⟨-, rfl⟩ := KillSwitchState.validate_eq_ok.mp hread
    exact ⟨hvalid, hsame⟩
  · rintro ⟨hvalid, hsame⟩
    exact ⟨row, hvalid.validate, hvalid, hsame⟩

/-! ## Runs -/

/-- Both tables, each with the records that were added to it. -/
structure State where
  reservations : List CapitalReservation := []
  addedReservations : List CapitalReservation := []
  killSwitches : List KillSwitchState := []
  addedKillSwitches : List KillSwitchState := []

inductive Call
  | addReservation (reservation : CapitalReservation)
  | releaseReservation (reservationId : String) (releasedAt : UTCDateTime)
  | releaseExpired (asOf : UTCDateTime)
  | addKillSwitch (killSwitch : KillSwitchState)
  | releaseKillSwitch (killSwitchId : String) (releasedAt : UTCDateTime) (releasedBy releaseReason : String)

variable (column : NumericColumn)

/-- An accepted call. A record that reaches a repository has passed its validators. -/
inductive Step : State → Call → State → Prop
  | addReservation {s : State} {reservation : CapitalReservation} {rows : List CapitalReservation} :
      reservation.Valid → CapitalReservationRepository.add column s.reservations reservation = .ok rows →
      Step s (.addReservation reservation)
        { s with reservations := rows, addedReservations := s.addedReservations ++ [reservation] }
  | releaseReservation {s : State} {reservationId : String} {releasedAt : UTCDateTime}
      {rows : List CapitalReservation} :
      CapitalReservationRepository.release s.reservations reservationId releasedAt = .ok rows →
      Step s (.releaseReservation reservationId releasedAt) { s with reservations := rows }
  | releaseExpired {s : State} {asOf : UTCDateTime} :
      Step s (.releaseExpired asOf)
        { s with reservations := CapitalReservationRepository.releaseExpired s.reservations asOf }
  | addKillSwitch {s : State} {killSwitch : KillSwitchState} {rows : List KillSwitchState} :
      killSwitch.Valid → KillSwitchRepository.add s.killSwitches killSwitch = .ok rows →
      Step s (.addKillSwitch killSwitch)
        { s with killSwitches := rows, addedKillSwitches := s.addedKillSwitches ++ [killSwitch] }
  | releaseKillSwitch {s : State} {killSwitchId : String} {releasedAt : UTCDateTime}
      {releasedBy releaseReason : String} {rows : List KillSwitchState} :
      KillSwitchRepository.release s.killSwitches killSwitchId releasedAt releasedBy releaseReason = .ok rows →
      Step s (.releaseKillSwitch killSwitchId releasedAt releasedBy releaseReason) { s with killSwitches := rows }

/-- Every row reads back as a record that was added, and every record that was added has its row. -/
structure Readable (s : State) : Prop where
  reservation : ∀ row ∈ s.reservations, ∃ added ∈ s.addedReservations, ReservationReads row added
  reservation_kept : ∀ added ∈ s.addedReservations, ∃ row ∈ s.reservations, ReservationReads row added
  killSwitch : ∀ row ∈ s.killSwitches, ∃ added ∈ s.addedKillSwitches, KillSwitchReads row added
  killSwitch_kept : ∀ added ∈ s.addedKillSwitches, ∃ row ∈ s.killSwitches, KillSwitchReads row added

/-- The row is one that `KillSwitchRepository.release` updates. -/
def KillSwitchReleasable (killSwitchId : String) (r : KillSwitchState) : Prop :=
  r.killSwitchId = killSwitchId ∧ r.active = true ∧ r.releasedAt = none

/-- The columns keep the amounts added, and nothing is released before it was created, or no later than it was
    activated. -/
def Meets (s : State) : Call → Prop
  | .addReservation reservation => column.Keeps reservation.quantity ∧ column.Keeps reservation.notional
  | .releaseReservation reservationId releasedAt =>
      ∀ r ∈ s.reservations, CapitalReservationRepository.Releasable reservationId r → r.createdAt ≤ releasedAt
  | .releaseKillSwitch killSwitchId releasedAt _ _ =>
      ∀ r ∈ s.killSwitches, KillSwitchReleasable killSwitchId r → ∀ t ∈ r.activatedAt, t < releasedAt
  | .releaseExpired _ => True
  | .addKillSwitch _ => True

/-! ## One row -/

section Rows

open CapitalReservationRepository

theorem releaseRow_sameCreation {reservationId : String} {releasedAt : UTCDateTime} {row added : CapitalReservation} :
    SameCreation added (releaseRow reservationId releasedAt row) ↔ SameCreation added row := by
  unfold releaseRow
  split_ifs
  · cases row
    cases added
    simp [SameCreation]
  · exact Iff.rfl

theorem releaseRow_valid {reservationId : String} {releasedAt : UTCDateTime} {row : CapitalReservation}
    (hvalid : row.Valid) : (releaseRow reservationId releasedAt row).Valid ↔
      (Releasable reservationId row → row.createdAt ≤ releasedAt) := by
  by_cases hrelease : Releasable reservationId row
  · rw [releaseRow, if_pos hrelease]
    constructor
    · intro hreleased _
      exact hreleased.released_after releasedAt rfl
    · intro hafter
      refine ⟨hvalid.reservationId_within, hvalid.quantity_pos, hvalid.notional_pos, hvalid.expires_after, ?_, ?_, ?_⟩
      · intro hactive
        cases hactive
      · intro _ hnone
        cases hnone
      · rintro t ⟨⟩
        exact hafter hrelease
  · rw [releaseRow, if_neg hrelease]
    exact ⟨fun _ h => absurd h hrelease, fun _ => hvalid⟩

theorem expireRow_sameCreation {asOf : UTCDateTime} {row added : CapitalReservation} :
    SameCreation added (expireRow asOf row) ↔ SameCreation added row := by
  unfold expireRow
  split_ifs
  · cases row
    cases added
    simp [SameCreation]
  · exact Iff.rfl

/-- An expired row was created before its expiry, and that has passed. -/
theorem expireRow_valid {asOf : UTCDateTime} {row : CapitalReservation} (hvalid : row.Valid) :
    (expireRow asOf row).Valid := by
  by_cases hexpire : Expirable asOf row
  · rw [expireRow, if_pos hexpire]
    refine ⟨hvalid.reservationId_within, hvalid.quantity_pos, hvalid.notional_pos, hvalid.expires_after, ?_, ?_, ?_⟩
    · intro hactive
      cases hactive
    · intro _ hnone
      cases hnone
    · rintro t ⟨⟩
      show row.createdAt ≤ asOf
      exact (lt_of_lt_of_le hvalid.expires_after hexpire.2.2).le
  · rw [expireRow, if_neg hexpire]
    exact hvalid

theorem storeRow_reads {column : NumericColumn} {row added : CapitalReservation} (hvalid : added.Valid)
    (hstore : storeRow column added = .ok row) :
    row.Valid ∧ SameCreation added row ↔ column.Keeps added.quantity ∧ column.Keeps added.notional := by
  constructor
  · rintro ⟨-, hsame⟩
    simp only [storeRow, bind_eq_ok, pure_eq_ok, NumericColumn.storeValue_eq_ok] at hstore
    obtain ⟨quantity, hquantity, notional, hnotional, rfl⟩ := hstore
    have hq : quantity = added.quantity := congrArg CapitalReservation.quantity hsame
    have hn : notional = added.notional := congrArg CapitalReservation.notional hsame
    rw [hq] at hquantity
    rw [hn] at hnotional
    exact ⟨hquantity, hnotional⟩
  · rintro ⟨hquantity, hnotional⟩
    obtain rfl := storeRow_kept hquantity hnotional hstore
    exact ⟨hvalid, rfl⟩

end Rows

section KillSwitches

variable {killSwitchId releasedBy releaseReason : String} {releasedAt : UTCDateTime} {row added : KillSwitchState}

theorem killSwitchRow_sameActivation :
    SameActivation added (KillSwitchRepository.releaseRow killSwitchId releasedAt releasedBy releaseReason row) ↔
      SameActivation added row := by
  unfold KillSwitchRepository.releaseRow
  split_ifs
  · cases row
    cases added
    simp [SameActivation]
  · exact Iff.rfl

theorem killSwitchRow_valid (hby : TextWithin riskIdMaxLength releasedBy)
    (hreason : TextWithin riskTextMaxLength releaseReason) (hvalid : row.Valid) :
    (KillSwitchRepository.releaseRow killSwitchId releasedAt releasedBy releaseReason row).Valid ↔
      (KillSwitchReleasable killSwitchId row → ∀ t ∈ row.activatedAt, t < releasedAt) := by
  by_cases hrelease : row.killSwitchId = killSwitchId ∧ row.active = true ∧ row.releasedAt = none
  · have hactivation : row.AllActivation := hvalid.active_activation hrelease.2.1
    rw [KillSwitchRepository.releaseRow, if_pos hrelease]
    constructor
    · intro hreleased _ t ht
      exact hreleased.released_after releasedAt rfl t ht
    · intro hafter
      refine ⟨hvalid.killSwitchId_within, hvalid.scopeId_within, hvalid.activatedBy_within,
        hvalid.activationReason_within, ?_, ?_, ?_, ?_, ?_, ?_, ?_, ?_⟩
      · rintro s ⟨⟩
        exact hby
      · rintro s ⟨⟩
        exact hreason
      · intro hactive
        cases hactive
      · intro hactive
        cases hactive
      · intro _ _
        exact ⟨rfl, rfl, rfl⟩
      · intro _ _
        exact hactivation
      · intro _ _
        exact Or.inl rfl
      · rintro t ⟨⟩
        exact hafter hrelease
  · rw [KillSwitchRepository.releaseRow, if_neg hrelease]
    exact ⟨fun _ h => absurd h hrelease, fun _ => hvalid⟩

end KillSwitches

/-! ## One call -/

variable {column}

/-- Each row is valid and made from an added record, and each added record has such a row. -/
def Reads {R : Type} (valid : R → Prop) (same : R → R → Prop) (rows added : List R) : Prop :=
  (∀ row ∈ rows, ∃ a ∈ added, valid row ∧ same a row) ∧ ∀ a ∈ added, ∃ row ∈ rows, valid row ∧ same a row

theorem readable_iff {s : State} : Readable s ↔
    Reads CapitalReservation.Valid SameCreation s.reservations s.addedReservations ∧
      Reads KillSwitchState.Valid SameActivation s.killSwitches s.addedKillSwitches := by
  constructor
  · rintro ⟨h1, h2, h3, h4⟩
    simp only [reservationReads_iff, killSwitchReads_iff] at h1 h2 h3 h4
    exact ⟨⟨h1, h2⟩, h3, h4⟩
  · rintro ⟨⟨h1, h2⟩, h3, h4⟩
    simp only [← reservationReads_iff] at h1 h2
    simp only [← killSwitchReads_iff] at h3 h4
    exact ⟨h1, h2, h3, h4⟩

section Tables

variable {R : Type} {valid : R → Prop} {same : R → R → Prop} {rows added : List R}

/-- An update of the rows that keeps what they were made from keeps them readable exactly when it keeps each valid. -/
theorem reads_map {update : R → R} {meets : R → Prop} (h : Reads valid same rows added)
    (hsame : ∀ row a, same a (update row) ↔ same a row)
    (hvalid : ∀ row, valid row → (valid (update row) ↔ meets row)) :
    Reads valid same (rows.map update) added ↔ ∀ row ∈ rows, meets row := by
  obtain ⟨hread, hkept⟩ := h
  constructor
  · rintro ⟨hafter, -⟩ row hrow
    obtain ⟨_, -, hbefore, -⟩ := hread row hrow
    obtain ⟨_, -, hupdated, -⟩ := hafter _ (List.mem_map_of_mem hrow)
    exact (hvalid row hbefore).mp hupdated
  · intro hmeets
    constructor
    · intro updated hupdated
      obtain ⟨row, hrow, rfl⟩ := List.mem_map.mp hupdated
      obtain ⟨a, ha, hv, hs⟩ := hread row hrow
      exact ⟨a, ha, (hvalid row hv).mpr (hmeets row hrow), (hsame row a).mpr hs⟩
    · intro a ha
      obtain ⟨row, hrow, hv, hs⟩ := hkept a ha
      exact ⟨update row, List.mem_map_of_mem hrow, (hvalid row hv).mpr (hmeets row hrow), (hsame row a).mpr hs⟩

/-- A new row for a new record. -/
theorem reads_append {row a : R} (h : Reads valid same rows added) (hvalid : valid row) (hsame : same a row) :
    Reads valid same (rows ++ [row]) (added ++ [a]) := by
  obtain ⟨hread, hkept⟩ := h
  constructor
  · intro r hr
    rcases List.mem_append.mp hr with hold | hnew
    · obtain ⟨b, hb, hreads⟩ := hread r hold
      exact ⟨b, List.mem_append_left _ hb, hreads⟩
    · obtain rfl := List.mem_singleton.mp hnew
      exact ⟨a, List.mem_append_right _ (List.mem_singleton_self a), hvalid, hsame⟩
  · intro b hb
    rcases List.mem_append.mp hb with hold | hnew
    · obtain ⟨r, hr, hreads⟩ := hkept b hold
      exact ⟨r, List.mem_append_left _ hr, hreads⟩
    · obtain rfl := List.mem_singleton.mp hnew
      exact ⟨row, List.mem_append_right _ (List.mem_singleton_self row), hvalid, hsame⟩

end Tables

/-- **A call that meets the condition keeps every row readable.** -/
theorem step_readable {s t : State} {call : Call} (h : Readable s) (hmeets : Meets column s call)
    (hstep : Step column s call t) : Readable t := by
  rw [readable_iff] at h ⊢
  obtain ⟨hreservations, hswitches⟩ := h
  cases hstep with
  | addReservation hvalid hadd =>
      refine ⟨?_, hswitches⟩
      simp only [CapitalReservationRepository.add, bind_eq_ok, raiseIf_eq_ok, exists_const, pure_eq_ok] at hadd
      obtain ⟨row, hstore, -, rfl⟩ := hadd
      obtain ⟨hrow, hsame⟩ := (storeRow_reads hvalid hstore).mpr hmeets
      exact reads_append hreservations hrow hsame
  | releaseReservation hrelease =>
      refine ⟨?_, hswitches⟩
      simp only [CapitalReservationRepository.release, bind_eq_ok, pure_eq_ok] at hrelease
      obtain ⟨-, -, rfl⟩ := hrelease
      exact (reads_map hreservations (fun _ _ => releaseRow_sameCreation) fun _ => releaseRow_valid).mpr hmeets
  | releaseExpired =>
      rename_i asOf
      refine ⟨?_, hswitches⟩
      have hkeep : ∀ row : CapitalReservation, row.Valid →
          ((CapitalReservationRepository.expireRow asOf row).Valid ↔ True) := by
        intro row hrow
        exact iff_true_intro (expireRow_valid hrow)
      exact (reads_map hreservations (fun _ _ => expireRow_sameCreation) hkeep).mpr fun _ _ => trivial
  | addKillSwitch hvalid hadd =>
      refine ⟨hreservations, ?_⟩
      simp only [KillSwitchRepository.add, bind_eq_ok, raiseIf_eq_ok, exists_const, pure_eq_ok] at hadd
      obtain ⟨-, rfl⟩ := hadd
      exact reads_append hswitches hvalid rfl
  | releaseKillSwitch hrelease =>
      refine ⟨hreservations, ?_⟩
      simp only [KillSwitchRepository.release, KillSwitchRepository.validateText, bind_eq_ok, raiseIf_eq_ok,
        exists_const, pure_eq_ok, not_lt] at hrelease
      obtain ⟨-, ⟨hbyNe, hby⟩, ⟨hreasonNe, hreason⟩, rfl⟩ := hrelease
      refine (reads_map hswitches (fun _ _ => killSwitchRow_sameActivation)
          fun _ => killSwitchRow_valid ?_ ?_).mpr hmeets
      · exact ⟨Nat.one_le_iff_ne_zero.mpr fun h => hbyNe (String.length_eq_zero_iff.mp h), hby⟩
      · exact ⟨Nat.one_le_iff_ne_zero.mpr fun h => hreasonNe (String.length_eq_zero_iff.mp h), hreason⟩

/-- **Stored risk rows stay readable** along every run whose calls meet the condition. -/
theorem rows_readable {s : State} (h : Reaches (Step column) (Meets column) {} s) : Readable s := by
  refine h.inv Readable (fun s call t hs hmeets hstep => step_readable hs hmeets hstep) ?_
  exact ⟨by simp, by simp, by simp, by simp⟩

/-! ## A release before the creation -/

/-- Ten units at a half, reserved for an hour from time 7200000000 on. -/
def hourReservation : CapitalReservation where
  reservationId := "reserve_hour"
  intentId := ⟨"intent_hour", by decide⟩
  strategyId := ⟨"strat_hour", by decide⟩
  exchange := .kalshi
  accountId := ⟨"acct_hour", by decide⟩
  marketId := ⟨"mkt_hour", by decide⟩
  quantity := 10
  notional := 5
  currency := ⟨"SEK", by decide⟩
  status := .active
  createdAt := 7200000000
  expiresAt := 10800000000

theorem hourReservation_valid : hourReservation.Valid where
  reservationId_within := by decide
  quantity_pos := by decide
  notional_pos := by decide
  expires_after := by decide
  active_open _ := rfl
  released_closed h := absurd rfl h
  released_after := by rintro t ⟨⟩

theorem hourReservation_kept : (NumericColumn.numeric 38 18).Keeps hourReservation.quantity ∧
    (NumericColumn.numeric 38 18).Keeps hourReservation.notional := by
  decide +kernel

/-- The tables after the reservation was added. -/
def hourAdded : State := { reservations := [hourReservation], addedReservations := [hourReservation] }

theorem hourAdded_reached {P : State → Call → Prop} (h : P {} (.addReservation hourReservation)) :
    Reaches (Step (.numeric 38 18)) P {} hourAdded := by
  have hadd : CapitalReservationRepository.add (.numeric 38 18) [] hourReservation = .ok [hourReservation] := by
    decide +kernel
  exact Reaches.refl.tail h (.addReservation hourReservation_valid hadd)

/-- Released a second before it was created, the row cannot be read back. -/
theorem released_early_unreadable :
    ¬∀ s, Reaches (Step (.numeric 38 18)) (fun _ _ => True) {} s → Readable s := by
  intro h
  let s : State := { hourAdded with
    reservations := [CapitalReservationRepository.releaseRow "reserve_hour" 7199000000 hourReservation] }
  have hrelease : CapitalReservationRepository.release hourAdded.reservations "reserve_hour" 7199000000
      = .ok s.reservations := by
    decide +kernel
  have hreached : Reaches (Step (.numeric 38 18)) (fun _ _ => True) {} s :=
    (hourAdded_reached trivial).tail trivial (.releaseReservation hrelease)
  obtain ⟨added, -, hreads⟩ := (h s hreached).reservation _ (List.mem_singleton_self _)
  have hafter := (reservationReads_iff.mp hreads).1.released_after 7199000000 rfl
  exact absurd hafter (by decide)

/-- Expired an hour later, it reads back. -/
theorem rows_readable_expired :
    Readable { hourAdded with
      reservations := CapitalReservationRepository.releaseExpired [hourReservation] 10800000000 } := by
  have hmeets : Meets (.numeric 38 18) hourAdded (.releaseExpired 10800000000) := trivial
  exact rows_readable ((hourAdded_reached hourReservation_kept).tail hmeets .releaseExpired)

end RiskRows
end Pmrp
