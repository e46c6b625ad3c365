import Pmrp.Schemas.Fields

/-!
# `Adapters.StreamFrames` — text frames of a market stream

What `adapters/kalshi/websocket.py` and `adapters/polymarket/websocket.py` share: `_decode_frame`, and the handler
around the parse of a frame.
-/

namespace Pmrp
namespace StreamFrames

/-- `json.loads`: what it returns or raises. -/
abbrev JsonLoads := String → Result JsonValue

/-- What `receive_next_frame` raises: an `AdapterProtocolError` with its message and code, or something else. -/
inductive ReceiveError
  | protocol (safeMessage : String) (exchangeErrorCode : Option String)
  | raised (error : PyError)

abbrev ReceiveResult := Except ReceiveError

/-- The call returns or raises a protocol error. -/
def ProtocolOnly {α : Type} (x : ReceiveResult α) : Prop := ∀ e, x ≠ .error (.raised e)

/-- `_decode_frame` of the stream. -/
def decodeFrame (loads : JsonLoads) (stream frameText : String) : ReceiveResult JsonObject :=
  match loads frameText with
  | .error e =>
      if e.kind = .jsonDecodeError then
        .error (.protocol s!"{stream} WebSocket frame must be valid JSON" none)
      else .error (.raised e)
  | .ok (.object payload) => .ok payload
  | .ok _ => .error (.protocol s!"{stream} WebSocket frame must be a JSON object" none)

/-- `_frame_type`'s check of a text, and `_validate_required_text`. -/
def validateRequiredText (value fieldName : String) : Result String := do
  raiseIf (value = "" ∨ isStripped value = false)
    (valueError s!"{fieldName} must be nonempty without surrounding whitespace")
  raiseIf (4096 < value.length) (valueError s!"{fieldName} must be at most 4096 characters")
  pure value

/-- The `AdapterProtocolError` of an error frame. Its constructor rejects a code with whitespace around it. -/
def websocketError (stream : String) (errorCode : Option String) : ReceiveError :=
  if ∃ code ∈ errorCode, code = "" ∨ isStripped code = false then
    .protocol s!"{stream} WebSocket frame is malformed" none
  else .protocol s!"{stream} WebSocket protocol error" errorCode

/-- `except (TypeError, ValueError, ValidationError)` around the parse of a frame. -/
def orMalformed {α : Type} (stream : String) (x : Result α) : ReceiveResult α :=
  match x with
  | .ok a => .ok a
  | .error e =>
      if e.isHandled then .error (.protocol s!"{stream} WebSocket frame is malformed" none) else .error (.raised e)

/-! ## What the handlers let out -/

theorem protocolOnly_protocol {α : Type} (safeMessage : String) (code : Option String) :
    ProtocolOnly (.error (.protocol safeMessage code) : ReceiveResult α) := by
  rintro e ⟨⟩

theorem protocolOnly_websocketError {α : Type} (stream : String) (code : Option String) :
    ProtocolOnly (.error (websocketError stream code) : ReceiveResult α) := by
  unfold websocketError
  split_ifs
  · exact protocolOnly_protocol _ _
  · exact protocolOnly_protocol _ _

theorem protocolOnly_orMalformed_iff {α : Type} {stream : String} {x : Result α} :
    ProtocolOnly (orMalformed stream x) ↔ Handled x := by
  cases x with
  | ok a => exact iff_of_true (by rintro e ⟨⟩) (handled_ok a)
  | error e =>
      show ProtocolOnly (if e.isHandled = true then .error _ else .error _) ↔ _
      by_cases hhandled : e.isHandled = true
      · rw [if_pos hhandled]
        refine iff_of_true (protocolOnly_protocol _ _) ?_
        rintro e' ⟨⟩
        exact hhandled
      · rw [if_neg hhandled]
        exact iff_of_false (fun h => h e rfl) fun h => hhandled (h e rfl)

end StreamFrames
end Pmrp
