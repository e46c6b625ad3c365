import Pmrp.Lib.FixedPoint
import Pmrp.Schemas.Primitives

/-!
# `Storage.Columns` — numeric columns

What a numeric column makes of a value is a parameter of the rows. Text, timestamp and integer columns keep
their values.
-/

namespace Pmrp

def storageError : PyError := ⟨.storageError, "database operation failed"⟩

/-- `classify_storage_error` of a violated check constraint. -/
def checkViolation : PyError := ⟨.invariantViolationError, "database invariant violation"⟩

/-- The stored value, or none for a value out of range. -/
structure NumericColumn where
  store : ℚ → Option ℚ

namespace NumericColumn

def exact : NumericColumn := ⟨some⟩

/-- `NUMERIC(precision, scale)`: the value rounded half away from zero, unless it has too many integer digits then. -/
def numeric (precision scale : ℕ) : NumericColumn where
  store value :=
    if |roundScale scale value| < 10 ^ (precision - scale) then some (roundScale scale value) else none

variable (column : NumericColumn)

def storeValue (value : ℚ) : Result ℚ :=
  match column.store value with
  | none => .error storageError
  | some stored => .ok stored

def storeOptional : Option ℚ → Result (Option ℚ)
  | none => .ok none
  | some value => (column.storeValue value).map some

/-- The column keeps the value. -/
def Keeps (value : ℚ) : Prop := column.store value = some value

instance (value : ℚ) : Decidable (column.Keeps value) := inferInstanceAs (Decidable (_ = _))

/-- **What `NUMERIC` keeps.** -/
theorem keeps_numeric {precision scale : ℕ} {value : ℚ} :
    (numeric precision scale).Keeps value ↔ HasScale scale value ∧ |value| < 10 ^ (precision - scale) := by
  unfold Keeps numeric
  dsimp only
  rw [← roundScale_eq_self]
  constructor
  · intro h
    split_ifs at h with hrange
    have hround := Option.some.inj h
    exact ⟨hround, hround ▸ hrange⟩
  · rintro ⟨hround, hrange⟩
    rw [hround, if_pos hrange]

variable {column}

theorem storeValue_eq_ok {value stored : ℚ} :
    column.storeValue value = .ok stored ↔ column.store value = some stored := by
  unfold storeValue
  cases column.store value with
  | none => simp
  | some x => simp

theorem Keeps.storeValue {value : ℚ} (h : column.Keeps value) : column.storeValue value = .ok value :=
  storeValue_eq_ok.mpr h

theorem storeOptional_eq_self {value : Option ℚ} :
    column.storeOptional value = .ok value ↔ ∀ v ∈ value, column.Keeps v := by
  cases value with
  | none => simp [storeOptional]
  | some v =>
      rw [storeOptional, map_eq_ok]
      constructor
      · rintro ⟨stored, hstored, hsome⟩ w ⟨⟩
        rw [Option.some.inj hsome] at hstored
        exact storeValue_eq_ok.mp hstored
      · intro h
        exact ⟨v, (h v rfl).storeValue, rfl⟩

@[simp] theorem exact_storeValue (value : ℚ) : exact.storeValue value = .ok value := rfl

@[simp] theorem exact_storeOptional (value : Option ℚ) : exact.storeOptional value = .ok value := by
  cases value <;> rfl

end NumericColumn
end Pmrp
