import Pmrp.Risk.Approvals
import Pmrp.Storage.Columns

/-!
# `Storage.CapitalReservations` — the table of capital reservations

`CapitalReservationRepository` over the rows of `pmrp_risk.capital_reservations`. A row holds the fields of a
`CapitalReservation`, its amounts as the numeric columns keep them, and is validated when it is read back. The
updates work on the rows and validate nothing.
-/

namespace Pmrp
namespace CapitalReservationRepository

variable (column : NumericColumn)

/-! ## Writing -/

/-- The row of a reservation: `capital_reservation_to_row` and what the numeric columns make of it. -/
def storeRow (reservation : CapitalReservation) : Result CapitalReservation := do
  let quantity ← column.storeValue reservation.quantity
  let notional ← column.storeValue reservation.notional
  pure { reservation with quantity := quantity, notional := notional }

/-- The two rows violate the primary key or `uq_capital_reservations__intent_id`. -/
def Conflicts (r s : CapitalReservation) : Prop := r.reservationId = s.reservationId ∨ r.intentId = s.intentId

instance (r s : CapitalReservation) : Decidable (Conflicts r s) := inferInstanceAs (Decidable (_ ∨ _))

def add (rows : List CapitalReservation) (reservation : CapitalReservation) : Result (List CapitalReservation) := do
  let row ← storeRow column reservation
  raiseIf (∃ r ∈ rows, Conflicts r row) duplicateRecordError
  pure (rows ++ [row])

/-- `_validate_reservation_id` of the repository, which raises plain `ValueError`s. -/
def validateRowId (reservationId : String) : Result Unit := do
  raiseIf (reservationId = "") (valueError "capital reservation ID must not be empty")
  raiseIf (reservationIdMaxLength < reservationId.length)
    (valueError "capital reservation ID must be at most 128 characters")

/-- The `WHERE` clause of `release`. -/
def Releasable (reservationId : String) (r : CapitalReservation) : Prop :=
  r.reservationId = reservationId ∧ r.status = .active ∧ r.releasedAt = none

/-- The `WHERE` clause of `release_expired`. -/
def Expirable (asOf : UTCDateTime) (r : CapitalReservation) : Prop :=
  r.status = .active ∧ r.releasedAt = none ∧ r.expiresAt ≤ asOf

instance (reservationId : String) (r : CapitalReservation) : Decidable (Releasable reservationId r) :=
  inferInstanceAs (Decidable (_ ∧ _ ∧ _))

instance (asOf : UTCDateTime) (r : CapitalReservation) : Decidable (Expirable asOf r) :=
  inferInstanceAs (Decidable (_ ∧ _ ∧ _))

/-- The row after the update statement of `release`. -/
def releaseRow (reservationId : String) (releasedAt : UTCDateTime) (r : CapitalReservation) : CapitalReservation :=
  if Releasable reservationId r then { r with status := .released, releasedAt := some releasedAt } else r

def release (rows : List CapitalReservation) (reservationId : String) (releasedAt : UTCDateTime) :
    Result (List CapitalReservation) := do
  validateRowId reservationId
  pure (rows.map (releaseRow reservationId releasedAt))

/-- The row after the update statement of `release_expired`. -/
def expireRow (asOf : UTCDateTime) (r : CapitalReservation) : CapitalReservation :=
  if Expirable asOf r then { r with status := .expired, releasedAt := some asOf } else r

def releaseExpired (rows : List CapitalReservation) (asOf : UTCDateTime) : List CapitalReservation :=
  rows.map (expireRow asOf)

/-! ## Reading -/

/-- `capital_reservation_from_row`. -/
def capitalReservationFromRow (row : CapitalReservation) : Result CapitalReservation := row.validate

variable {column}

/-- A row whose amounts the columns keep is the reservation. -/
theorem storeRow_kept {reservation row : CapitalReservation} (hquantity : column.Keeps reservation.quantity)
    (hnotional : column.Keeps reservation.notional) (h : storeRow column reservation = .ok row) :
    row = reservation := by
  rw [storeRow, hquantity.storeValue, ok_bind, hnotional.storeValue, ok_bind, pure_eq_ok] at h
  exact h.symm

/-! ## The active sum -/

/-- The filters of `active_notional_sum` that may be given. -/
structure Scope where
  exchange : Option ExchangeName := none
  accountId : Option AccountId := none
  strategyId : Option StrategyId := none
  marketId : Option MarketId := none
  currency : Option Currency := none

/-- The `WHERE` clause of `active_notional_sum`. -/
def Counted (asOf : UTCDateTime) (scope : Scope) (r : CapitalReservation) : Prop :=
  (r.status = .active ∧ r.releasedAt = none ∧ asOf < r.expiresAt) ∧
    (∀ exchange ∈ scope.exchange, r.exchange = exchange) ∧ (∀ accountId ∈ scope.accountId, r.accountId = accountId) ∧
      (∀ strategyId ∈ scope.strategyId, r.strategyId = strategyId) ∧
        (∀ marketId ∈ scope.marketId, r.marketId = marketId) ∧ (∀ currency ∈ scope.currency, r.currency = currency)

instance (asOf : UTCDateTime) (scope : Scope) (r : CapitalReservation) : Decidable (Counted asOf scope r) :=
  inferInstanceAs (Decidable ((_ ∧ _ ∧ _) ∧ _ ∧ _ ∧ _ ∧ _ ∧ _))

def activeNotionalSum (rows : List CapitalReservation) (asOf : UTCDateTime) (scope : Scope) : ℚ :=
  ((rows.filter (Counted asOf scope ·)).map (·.notional)).sum

variable {rows rows' : List CapitalReservation} {asOf asOf' : UTCDateTime} {scope : Scope}

theorem activeNotionalSum_append :
    activeNotionalSum (rows ++ rows') asOf scope =
      activeNotionalSum rows asOf scope + activeNotionalSum rows' asOf scope := by
  simp [activeNotionalSum]

theorem Counted.earlier {r : CapitalReservation} (h : Counted asOf' scope r) (hle : asOf ≤ asOf') :
    Counted asOf scope r :=
  ⟨⟨h.1.1, h.1.2.1, lt_of_le_of_lt hle h.1.2.2⟩, h.2⟩

/-- Time only lets reservations expire. -/
theorem activeNotionalSum_anti (hnonneg : ∀ r ∈ rows, 0 ≤ r.notional) (hle : asOf ≤ asOf') :
    activeNotionalSum rows asOf' scope ≤ activeNotionalSum rows asOf scope := by
  induction rows with
  | nil => exact le_refl _
  | cons r rows ih =>
      have hrest := ih fun r' hr' => hnonneg r' (List.mem_cons_of_mem _ hr')
      have hr := hnonneg r List.mem_cons_self
      simp only [activeNotionalSum] at hrest ⊢
      by_cases hlater : Counted asOf' scope r
      · simpa [hlater, hlater.earlier hle] using hrest
      · by_cases hnow : Counted asOf scope r
        · simp only [hlater, hnow, decide_true, decide_false, List.filter_cons_of_pos, List.map_cons, List.sum_cons,
            Bool.false_eq_true, not_false_eq_true, List.filter_cons_of_neg]
          linarith
        · simpa [hlater, hnow] using hrest

/-- Of one row at most its notional is counted. -/
theorem activeNotionalSum_singleton_le {r : CapitalReservation} (hnonneg : 0 ≤ r.notional) :
    activeNotionalSum [r] asOf scope ≤ r.notional := by
  by_cases h : Counted asOf scope r
  · simp [activeNotionalSum, h]
  · simpa [activeNotionalSum, h] using hnonneg

end CapitalReservationRepository
end Pmrp
