import Pmrp.Schemas.Primitives

/-!
# `Schemas.Parsing` — decoded JSON, datetimes as texts, and handled exceptions

What `json.loads` returns, `parse_utc_datetime` of `schemas/time.py` on texts, and the handler
`except (TypeError, ValueError, ValidationError): return None` that loaders and adapters put around a parse.
-/

namespace Pmrp

/-! ## JSON -/

/-- A value that `json.loads` returns. An object is the list of its items, and a float keeps its text. -/
inductive JsonValue
  | null
  | bool (value : Bool)
  | int (value : ℤ)
  | float (text : String)
  | string (value : String)
  | array (items : List JsonValue)
  | object (items : List (String × JsonValue))

abbrev JsonObject := List (String × JsonValue)

/-- `payload.get(key)`: a missing item reads as `None`. -/
def JsonObject.get (payload : JsonObject) (key : String) : JsonValue := (payload.lookup key).getD .null

/-- The first value that is not `None`. -/
def JsonObject.firstPresent (payload : JsonObject) : List String → JsonValue
  | [] => .null
  | key :: keys =>
      match payload.get key with
      | .null => JsonObject.firstPresent payload keys
      | value => value

def JsonObject.required (payload : JsonObject) (keys : List String) (fieldName : String) : Result JsonValue :=
  match payload.firstPresent keys with
  | .null => .error (valueError s!"{fieldName} is required")
  | value => .ok value

mutual
/-- `freeze_canonical_value` takes it: no floats, and keys without whitespace around them. -/
def JsonValue.freezable : JsonValue → Bool
  | .float _ => false
  | .array items => JsonValue.freezableAll items
  | .object items => JsonValue.freezableItems items
  | _ => true
def JsonValue.freezableAll : List JsonValue → Bool
  | [] => true
  | value :: values => JsonValue.freezable value && JsonValue.freezableAll values
def JsonValue.freezableItems : JsonObject → Bool
  | [] => true
  | (key, value) :: items =>
      decide (key ≠ "") && isStripped key && JsonValue.freezable value && JsonValue.freezableItems items
end

/-! ## Handled exceptions -/

/-- `TypeError`, `ValueError` and its subclasses, `ValidationError` among them. -/
def PyError.isHandled (e : PyError) : Bool :=
  match e.kind with
  | .typeError | .valueError | .jsonDecodeError | .unicodeDecodeError => true
  | _ => false

/-- `try: return x` and `except (TypeError, ValueError, ValidationError): return None`. -/
def orNone {α : Type} (x : Result α) : Result (Option α) :=
  match x with
  | .ok a => .ok (some a)
  | .error e => if e.isHandled then .ok none else .error e

@[simp] theorem orNone_ok {α : Type} (a : α) : orNone (.ok a) = .ok (some a) := rfl

theorem orNone_eq_error {α : Type} {x : Result α} {e : PyError} :
    orNone x = .error e ↔ x = .error e ∧ e.isHandled = false := by
  cases x with
  | ok a => simp [orNone]
  | error e' =>
      show (if e'.isHandled = true then Except.ok none else Except.error e') = Except.error e ↔ _
      by_cases hhandled : e'.isHandled = true
      · rw [if_pos hhandled]
        refine iff_of_false (by simp) ?_
        rintro ⟨⟨⟩, hnot⟩
        rw [hhandled] at hnot
        cases hnot
      · rw [if_neg hhandled]
        constructor
        · rintro ⟨⟩
          exact ⟨rfl, Bool.not_eq_true _ |>.mp hhandled⟩
        · rintro ⟨⟨⟩, -⟩
          rfl

/-- Every exception of a call is one that the handler takes. -/
def Handled {α : Type} (x : Result α) : Prop := ∀ e, x = .error e → e.isHandled = true

theorem handled_ok {α : Type} (a : α) : Handled (.ok a : Result α) := by
  rintro e ⟨⟩

theorem handled_pure {α : Type} (a : α) : Handled (pure a : Result α) := handled_ok a

theorem handled_valueError {α : Type} (message : String) : Handled (.error (valueError message) : Result α) := by
  rintro e ⟨⟩
  rfl

theorem Handled.bind {α β : Type} {x : Result α} {f : α → Result β} (hx : Handled x)
    (hf : ∀ a, x = .ok a → Handled (f a)) :
    Handled (x >>= f) := by
  cases x with
  | error e =>
      rintro e' ⟨⟩
      exact hx e rfl
  | ok a => exact hf a rfl

/-! ## Datetimes -/

/-- What `datetime.fromisoformat` returns: the time on the clock, and the offset of an aware one. -/
structure IsoDatetime where
  clock : UTCDateTime
  utcoffset : Option Timedelta
  deriving DecidableEq

/-- `datetime.fromisoformat`, and none where it raises `ValueError`. -/
abbrev FromIsoFormat := String → Option IsoDatetime

/-- `parse_utc_datetime` of a datetime. `astimezone` raises outside the years 1 to 9999. -/
def IsoDatetime.toUtc (parsed : IsoDatetime) : Result UTCDateTime :=
  match parsed.utcoffset with
  | none => .error (valueError "datetime value must be timezone-aware")
  | some offset => addTimedelta parsed.clock (-offset)

/-- `parse_utc_datetime` of a text. -/
def parseUtcDatetime (fromisoformat : FromIsoFormat) (value : String) : Result UTCDateTime :=
  match fromisoformat (if value.endsWith "Z" then (value.dropEnd 1).toString ++ "+00:00" else value) with
  | none => .error (valueError "datetime string must be ISO 8601")
  | some parsed => parsed.toUtc

/-- The text is an aware datetime that no UTC datetime is equal to. -/
def OverflowsUtc (fromisoformat : FromIsoFormat) (value : String) : Prop :=
  ∃ parsed offset, fromisoformat (if value.endsWith "Z" then (value.dropEnd 1).toString ++ "+00:00" else value) =
    some parsed ∧ parsed.utcoffset = some offset ∧ ¬IsDatetime (parsed.clock + -offset)

theorem handled_parseUtcDatetime_iff {fromisoformat : FromIsoFormat} {value : String} :
    Handled (parseUtcDatetime fromisoformat value) ↔ ¬OverflowsUtc fromisoformat value := by
  unfold parseUtcDatetime OverflowsUtc IsoDatetime.toUtc
  generalize (if value.endsWith "Z" then (value.dropEnd 1).toString ++ "+00:00" else value) = text
  cases hparsed : fromisoformat text with
  | none => exact iff_of_true (handled_valueError _) (by simp)
  | some parsed =>
      dsimp only
      cases hoffset : parsed.utcoffset with
      | none =>
          refine iff_of_true (handled_valueError _) ?_
          rintro ⟨_, _, ⟨⟩, hsome, -⟩
          rw [hoffset] at hsome
          cases hsome
      | some offset =>
          show Handled (addTimedelta parsed.clock (-offset)) ↔ _
          by_cases hin : IsDatetime (parsed.clock + -offset)
          · refine iff_of_true ?_ ?_
            · rw [addTimedelta, if_pos hin]
              exact handled_ok _
            · rintro ⟨_, _, ⟨⟩, hsome, hout⟩
              rw [hoffset] at hsome
              cases hsome
              exact hout hin
          · refine iff_of_false ?_ ?_
            · rw [addTimedelta, if_neg hin]
              intro h
              cases h _ rfl
            · exact not_not_intro ⟨parsed, offset, rfl, hoffset, hin⟩

end Pmrp
