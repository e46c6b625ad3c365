import Pmrp.Schemas.Parsing

/-!
# `Schemas.Fields` — the fields of a model

How a model of `schemas/base.py` validates the values of a decoded object: the fields in order, with a `ValueError` of
one collected while the others are validated too. Any other exception ends the validation.
-/

namespace Pmrp

/-- A field of a model as it is validated: a `ValueError` is collected, and the other fields are validated too. -/
def collected {α : Type} (field : Result α) : Result (Option α) :=
  match field with
  | .ok a => .ok (some a)
  | .error e => if e.kind = .valueError then .ok none else .error e

def validationError : PyError := valueError "validation error"

/-- The value of a field, when the model has no error. -/
def fieldValue {α : Type} (field : Option α) : Result α := field.elim (.error validationError) .ok

/-- A `UTCDateTime` field: `parse_utc_datetime` of what the payload has. -/
def utcDatetime (fromisoformat : FromIsoFormat) : JsonValue → Result UTCDateTime
  | .string text => parseUtcDatetime fromisoformat text
  | _ => .error ⟨.typeError, "datetime value must be a datetime or ISO 8601 string"⟩

/-! ## What the handler lets out -/

theorem handled_collected_iff {α : Type} {field : Result α} : Handled (collected field) ↔ Handled field := by
  cases field with
  | ok a => exact iff_of_true (handled_ok _) (handled_ok a)
  | error e =>
      show Handled (if e.kind = .valueError then .ok none else .error e) ↔ _
      split_ifs with hvalue
      · refine iff_of_true (handled_ok _) ?_
        rintro e' ⟨⟩
        unfold PyError.isHandled
        rw [hvalue]
      · constructor <;> (rintro h e' ⟨⟩; exact h e rfl)

theorem handled_fieldValue {α : Type} (field : Option α) : Handled (fieldValue field) := by
  cases field with
  | none => exact handled_valueError _
  | some a => exact handled_ok a

/-- A field whose only errors are collected. -/
def RaisesValueError {α : Type} (field : Result α) : Prop := ∀ e, field = .error e → e.kind = .valueError

theorem collected_of_raisesValueError {α : Type} {field : Result α} (h : RaisesValueError field) :
    ∃ value, collected field = .ok value := by
  cases field with
  | ok a => exact ⟨some a, rfl⟩
  | error e => exact ⟨none, if_pos (h e rfl)⟩

theorem raisesValueError_ok {α : Type} (a : α) : RaisesValueError (.ok a : Result α) := by
  rintro e ⟨⟩

theorem raisesValueError_error {α : Type} (message : String) :
    RaisesValueError (.error (valueError message) : Result α) := by
  rintro e ⟨⟩
  rfl

theorem raisesValueError_raiseIf {bad : Prop} {_ : Decidable bad} (message : String) :
    RaisesValueError (raiseIf bad (valueError message)) := by
  unfold raiseIf
  split_ifs
  · exact raisesValueError_error message
  · exact raisesValueError_ok _

theorem RaisesValueError.bind {α β : Type} {x : Result α} {f : α → Result β} (hx : RaisesValueError x)
    (hf : ∀ a, RaisesValueError (f a)) : RaisesValueError (x >>= f) := by
  cases x with
  | ok a => exact hf a
  | error e =>
      rintro e' ⟨⟩
      exact hx e rfl

theorem RaisesValueError.handled {α : Type} {x : Result α} (h : RaisesValueError x) : Handled x := by
  intro e he
  unfold PyError.isHandled
  rw [h e he]

theorem raisesValueError_mapM {α β : Type} {f : α → Result β} (hf : ∀ item, RaisesValueError (f item))
    (items : List α) : RaisesValueError (items.mapM f) := by
  induction items with
  | nil => exact raisesValueError_ok _
  | cons item items ih =>
      rw [List.mapM_cons]
      exact (hf item).bind fun _ => ih.bind fun _ => raisesValueError_ok _

section
variable {fromisoformat : FromIsoFormat} {α : Type} {P : Prop}

/-- A collected field with no other errors has no part in what escapes. -/
theorem handled_field_iff {β : Type} {field : Result β} {f : Option β → Result α} (hfield : RaisesValueError field)
    (hf : ∀ value, Handled (f value) ↔ P) : Handled (collected field >>= f) ↔ P := by
  obtain ⟨value, hvalue⟩ := collected_of_raisesValueError hfield
  rw [hvalue]
  exact hf value

/-- What the conversion of a timestamp lets past the handler, when `rest` is what the rest of the model does. -/
def TimePasses (fromisoformat : FromIsoFormat) (rest : Prop) : JsonValue → Prop
  | .string text => ¬OverflowsUtc fromisoformat text ∧ rest
  | _ => True

theorem raisesValueError_parseUtcDatetime {text : String} (h : ¬OverflowsUtc fromisoformat text) :
    RaisesValueError (parseUtcDatetime fromisoformat text) := by
  have hhandled := handled_parseUtcDatetime_iff.mpr h
  unfold parseUtcDatetime at hhandled ⊢
  split at hhandled
  · exact raisesValueError_error _
  · unfold IsoDatetime.toUtc at hhandled ⊢
    split at hhandled
    · exact raisesValueError_error _
    · unfold addTimedelta at hhandled ⊢
      split_ifs at hhandled ⊢
      · exact raisesValueError_ok _
      · cases hhandled _ rfl

theorem handled_typeError (message : String) : Handled (.error ⟨.typeError, message⟩ : Result α) := by
  rintro e ⟨⟩
  rfl

theorem handled_time_iff {value : JsonValue} {f : Option UTCDateTime → Result α} (hf : ∀ value, Handled (f value) ↔ P) :
    Handled (collected (utcDatetime fromisoformat value) >>= f) ↔ TimePasses fromisoformat P value := by
  cases value with
  | string text =>
      show Handled (collected (parseUtcDatetime fromisoformat text) >>= f) ↔
        ¬OverflowsUtc fromisoformat text ∧ P
      by_cases hoverflow : OverflowsUtc fromisoformat text
      · refine iff_of_false (fun h => ?_) fun h => h.1 hoverflow
        have hcollected : Handled (collected (parseUtcDatetime fromisoformat text)) := by
          intro e he
          rw [he] at h
          exact h e rfl
        exact handled_parseUtcDatetime_iff.mp (handled_collected_iff.mp hcollected) hoverflow
      · rw [handled_field_iff (raisesValueError_parseUtcDatetime hoverflow) hf]
        exact (and_iff_right hoverflow).symm
  | _ => exact iff_of_true (handled_typeError _) trivial

theorem handled_assemble {β : Type} {field : Option β} {f : β → Result α} (hf : ∀ value, Handled (f value)) :
    Handled (fieldValue field >>= f) :=
  (handled_fieldValue field).bind fun value _ => hf value

theorem handled_map_iff {β : Type} {x : Result α} {f : α → β} : Handled (do pure (f (← x))) ↔ Handled x := by
  cases x with
  | ok a => exact iff_of_true (handled_ok _) (handled_ok a)
  | error e => constructor <;> (rintro h e' ⟨⟩; exact h e rfl)

end

end Pmrp
