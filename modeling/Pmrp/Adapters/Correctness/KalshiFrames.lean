import Pmrp.Adapters.KalshiWebSocket

/-!
# `Adapters.Correctness.KalshiFrames` — what escapes the reception of a Kalshi frame

The handler around a parse takes `TypeError` and `ValueError`, and the one around `json.loads` only `JSONDecodeError`.
What gets past them: any other error of `json.loads`, a timestamp whose UTC time has no year, and a payload that nests
too deep to be frozen.
-/

namespace Pmrp
namespace KalshiWebSocket

open StreamFrames

/-! ## Fields -/

theorem raisesValueError_requiredText (bound : ℕ) (fieldName : String) (value : JsonValue) :
    RaisesValueError (requiredText bound fieldName value) := by
  cases value with
  | string text =>
      refine RaisesValueError.bind ?_ fun _ => ?_
      · exact (raisesValueError_raiseIf _).bind fun _ => raisesValueError_raiseIf _
      · exact (raisesValueError_raiseIf _).bind fun _ => (raisesValueError_raiseIf _).bind fun _ =>
          raisesValueError_ok _
  | _ => exact raisesValueError_error _

theorem raisesValueError_optionalText (bound : ℕ) (fieldName : String) (value : JsonValue) :
    RaisesValueError (optionalText bound fieldName value) := by
  cases value with
  | null => exact raisesValueError_ok _
  | _ => exact (raisesValueError_requiredText bound fieldName _).bind fun _ => raisesValueError_ok _

theorem raisesValueError_boundedInt (low : ℤ) (high : Option ℤ) (fieldName : String) (value : JsonValue) :
    RaisesValueError (boundedInt low high fieldName value) := by
  cases value with
  | int value => exact (raisesValueError_raiseIf _).bind fun _ => raisesValueError_ok _
  | _ => exact raisesValueError_error _

theorem raisesValueError_optionalInt (low : ℤ) (fieldName : String) (value : JsonValue) :
    RaisesValueError (optionalInt low fieldName value) := by
  cases value with
  | null => exact raisesValueError_ok _
  | _ => exact (raisesValueError_boundedInt low none fieldName _).bind fun _ => raisesValueError_ok _

variable {runtime : Runtime} {payload : JsonObject} {α : Type} {P : Prop}

theorem handled_freeze_iff {f : Option JsonObject → Result α} (hf : ∀ value, Handled (f value) ↔ P) :
    Handled (collected (freezePayload runtime payload) >>= f) ↔ runtime.exhaustsStack payload = false ∧ P := by
  by_cases hexhausts : runtime.exhaustsStack payload = true
  · have hraised : freezePayload runtime payload = .error recursionError := raiseIf_bind_of hexhausts
    rw [hraised, hexhausts]
    refine iff_of_false (fun h => ?_) (by simp)
    cases h recursionError rfl
  · have hfrozen : RaisesValueError (freezePayload runtime payload) := by
      unfold freezePayload
      rw [raiseIf_bind_of_not hexhausts]
      exact (raisesValueError_raiseIf _).bind fun _ => raisesValueError_ok _
    rw [handled_field_iff hfrozen hf, Bool.not_eq_true _ |>.mp hexhausts]
    exact (and_iff_right rfl).symm

/-- Of an optional timestamp. -/
def OptionalTimePasses (runtime : Runtime) (rest : Prop) : JsonValue → Prop
  | .null => rest
  | value => TimePasses runtime.fromisoformat rest value

theorem handled_optionalTime_iff {value : JsonValue} {f : Option (Option UTCDateTime) → Result α}
    (hf : ∀ value, Handled (f value) ↔ P) :
    Handled (collected (optionalUtcDatetime runtime value) >>= f) ↔ OptionalTimePasses runtime P value := by
  have hsome : ∀ value, Handled (collected (do pure (some (← utcDatetime runtime.fromisoformat value))) >>= f) ↔
      TimePasses runtime.fromisoformat P value := by
    intro value
    rw [← @handled_time_iff runtime.fromisoformat α P value _ fun v => hf (v.map some)]
    cases utcDatetime runtime.fromisoformat value with
    | ok t => rfl
    | error e =>
        show Handled ((if e.kind = .valueError then .ok none else .error e) >>= f) ↔
          Handled ((if e.kind = .valueError then .ok none else .error e) >>= fun v => f (v.map some))
        split_ifs
        · rfl
        · exact Iff.rfl
  cases value with
  | null => exact hf (some none)
  | _ => exact hsome _

theorem requiredItem_of_null {key fieldName : String} (h : payload.get key = .null) :
    requiredItem payload key fieldName = .error (valueError s!"{fieldName} is required") := by
  unfold requiredItem JsonObject.required JsonObject.firstPresent JsonObject.firstPresent
  rw [h]

theorem requiredItem_of_ne_null {key fieldName : String} (h : payload.get key ≠ .null) :
    requiredItem payload key fieldName = .ok (payload.get key) := by
  unfold requiredItem JsonObject.required JsonObject.firstPresent JsonObject.firstPresent
  cases hvalue : payload.get key with
  | null => exact absurd hvalue h
  | _ => rfl

/-- A required item that is missing is a `ValueError` before anything is validated. -/
theorem handled_requiredItem_iff {key fieldName : String} {f : JsonValue → Result α}
    (hf : ∀ value, Handled (f value) ↔ P) :
    Handled (requiredItem payload key fieldName >>= f) ↔ (payload.get key ≠ .null → P) := by
  by_cases hnull : payload.get key = .null
  · rw [requiredItem_of_null hnull]
    exact iff_of_true (handled_valueError _) fun h => absurd hnull h
  · rw [requiredItem_of_ne_null hnull]
    exact (hf _).trans ⟨fun h _ => h, fun h => h hnull⟩

/-! ## Frames -/

theorem handled_hello_iff : Handled (Hello.fromExchangePayload runtime payload) ↔
    (payload.get "connection_id" ≠ .null → payload.get "heartbeat_interval_seconds" ≠ .null →
      OptionalTimePasses runtime (runtime.exhaustsStack payload = false) (payload.get "server_time")) := by
  unfold Hello.fromExchangePayload
  refine handled_requiredItem_iff fun connectionId => handled_requiredItem_iff fun interval => ?_
  refine handled_field_iff (raisesValueError_requiredText _ _ _) fun _ => ?_
  refine handled_field_iff (raisesValueError_boundedInt _ _ _ _) fun _ => ?_
  refine handled_optionalTime_iff fun _ => ?_
  refine (handled_freeze_iff fun _ => iff_true_intro ?_).trans (and_iff_left trivial)
  exact handled_assemble fun _ => handled_assemble fun _ => handled_assemble fun _ => handled_assemble fun _ =>
    handled_pure _

theorem handled_ping_iff : Handled (Ping.fromExchangePayload runtime payload) ↔
    TimePasses runtime.fromisoformat (runtime.exhaustsStack payload = false) (payload.get "sent_at") := by
  unfold Ping.fromExchangePayload
  have hrest : ∀ value, Handled (do
      let sentAt ← collected (utcDatetime runtime.fromisoformat value)
      let rawPayload ← collected (freezePayload runtime payload)
      let sentAt ← fieldValue sentAt
      let rawPayload ← fieldValue rawPayload
      pure (⟨sentAt, rawPayload⟩ : Ping)) ↔
        TimePasses runtime.fromisoformat (runtime.exhaustsStack payload = false) value := by
    intro value
    refine handled_time_iff fun _ => (handled_freeze_iff fun _ => iff_true_intro ?_).trans (and_iff_left trivial)
    exact handled_assemble fun _ => handled_assemble fun _ => handled_pure _
  by_cases hnull : payload.get "sent_at" = .null
  · rw [requiredItem_of_null hnull, hnull]
    exact iff_of_true (handled_valueError _) trivial
  · rw [requiredItem_of_ne_null hnull]
    exact hrest _

theorem raisesValueError_subscription (item : JsonValue) : RaisesValueError (subscriptionFromPayload item) := by
  cases item with
  | object items =>
      cases hchannel : channelOf (JsonObject.get items "channel") with
      | none =>
          simp only [subscriptionFromPayload, hchannel]
          exact raisesValueError_error _
      | some channel =>
          simp only [subscriptionFromPayload, hchannel]
          exact (raisesValueError_requiredText _ _ _).bind fun _ => raisesValueError_ok _
  | _ => exact raisesValueError_error _

/-- An acknowledgement is validated: its parts are there, and its subscriptions parse. -/
def AckValidated (payload : JsonObject) : Prop :=
  ∃ items subscriptions, payload.get "subscriptions" = .array items ∧ payload.get "request_id" ≠ .null ∧
    items.mapM subscriptionFromPayload = .ok subscriptions

theorem handled_ack_iff : Handled (SubscriptionAck.fromExchangePayload runtime payload) ↔
    (AckValidated payload → runtime.exhaustsStack payload = false) := by
  unfold SubscriptionAck.fromExchangePayload
  split
  · rename_i items hitems
    by_cases hnull : payload.get "request_id" = .null
    · rw [requiredItem_of_null hnull]
      refine iff_of_true (handled_valueError _) ?_
      rintro ⟨_, _, -, hpresent, -⟩
      exact absurd hnull hpresent
    · rw [requiredItem_of_ne_null hnull, ok_bind]
      cases hsubscriptions : items.mapM subscriptionFromPayload with
      | error e =>
          have hvalue := raisesValueError_mapM raisesValueError_subscription items e hsubscriptions
          refine iff_of_true ?_ ?_
          · rintro e' ⟨⟩
            unfold PyError.isHandled
            rw [hvalue]
          · rintro ⟨items', _, hitems', -, hparsed⟩
            rw [hitems] at hitems'
            cases hitems'
            rw [hsubscriptions] at hparsed
            cases hparsed
      | ok subscriptions =>
          have hvalidated : AckValidated payload := ⟨items, subscriptions, hitems, hnull, hsubscriptions⟩
          rw [ok_bind]
          refine Iff.trans ?_ (forall_prop_of_true hvalidated).symm
          refine handled_field_iff (raisesValueError_requiredText _ _ _) fun _ => ?_
          refine handled_field_iff (raisesValueError_raiseIf _) fun _ => ?_
          refine (handled_freeze_iff fun _ => iff_true_intro ?_).trans (and_iff_left trivial)
          refine handled_assemble fun _ => handled_assemble fun _ => handled_assemble fun _ => ?_
          exact ((raisesValueError_raiseIf _).bind fun _ => raisesValueError_ok _).handled
  · rename_i hnotArray
    refine iff_of_true (handled_valueError _) ?_
    rintro ⟨items, _, hitems, -⟩
    exact absurd hitems (hnotArray items)

/-- A data frame is validated: it has a message and a channel. -/
def DataValidated (payload : JsonObject) (name : String) (message : JsonObject) : Prop :=
  messagePayload payload = .ok message ∧ ∃ channel, dataChannel payload name = .ok channel

theorem handled_data_iff {name : String} : Handled (DataFrame.fromExchangePayload runtime payload name) ↔
    ∀ message, DataValidated payload name message →
      runtime.exhaustsStack message = false ∧ runtime.exhaustsStack payload = false := by
  unfold DataFrame.fromExchangePayload
  have hmessageErrors : RaisesValueError (messagePayload payload) := by
    unfold messagePayload
    split
    · exact raisesValueError_ok _
    · exact raisesValueError_ok _
    · exact raisesValueError_error _
  have hchannelErrors : RaisesValueError (dataChannel payload name) := by
    unfold dataChannel
    split
    · exact raisesValueError_ok _
    · split_ifs
      · exact raisesValueError_ok _
      · exact raisesValueError_ok _
      · exact raisesValueError_error _
  cases hmessage : messagePayload payload with
  | error e =>
      refine iff_of_true ?_ ?_
      · rintro e' ⟨⟩
        exact hmessageErrors.handled e hmessage
      · rintro message ⟨hok, -⟩
        rw [hmessage] at hok
        cases hok
  | ok message =>
      rw [ok_bind]
      cases hchannel : dataChannel payload name with
      | error e =>
          refine iff_of_true ?_ ?_
          · rintro e' ⟨⟩
            exact hchannelErrors.handled e hchannel
          · rintro message ⟨-, channel, hok⟩
            rw [hchannel] at hok
            cases hok
      | ok channel =>
          rw [ok_bind]
          have hvalidated : (∀ message', DataValidated payload name message' →
              runtime.exhaustsStack message' = false ∧ runtime.exhaustsStack payload = false) ↔
              runtime.exhaustsStack message = false ∧ runtime.exhaustsStack payload = false := by
            constructor
            · exact fun h => h message ⟨hmessage, channel, hchannel⟩
            · rintro h message' ⟨hmessage', -⟩
              rw [hmessage] at hmessage'
              rw [← Except.ok.inj hmessage']
              exact h
          rw [hvalidated]
          refine handled_field_iff (raisesValueError_requiredText _ _ _) fun _ => ?_
          refine handled_field_iff (raisesValueError_optionalText _ _ _) fun _ => ?_
          refine handled_field_iff (raisesValueError_optionalInt _ _ _) fun _ => ?_
          refine handled_freeze_iff fun _ => ?_
          refine (handled_freeze_iff fun _ => iff_true_intro ?_).trans (and_iff_left trivial)
          exact handled_assemble fun _ => handled_assemble fun _ => handled_assemble fun _ =>
            handled_assemble fun _ => handled_assemble fun _ => handled_pure _

/-! ## Reception -/

/-- Nothing in an object of this type gets past the handler: the timestamp of a hello or a ping has a UTC time, and
    what is frozen does not nest too deep. -/
def FramePasses (runtime : Runtime) (name : String) (payload : JsonObject) : Prop :=
  if name = "hello" ∨ name = "system.hello" then
    payload.get "connection_id" ≠ .null → payload.get "heartbeat_interval_seconds" ≠ .null →
      OptionalTimePasses runtime (runtime.exhaustsStack payload = false) (payload.get "server_time")
  else if name = "subscribed" ∨ name = "subscription.accepted" then
    AckValidated payload → runtime.exhaustsStack payload = false
  else if name = "ping" then
    TimePasses runtime.fromisoformat (runtime.exhaustsStack payload = false) (payload.get "sent_at")
  else
    ∀ message, DataValidated payload name message →
      runtime.exhaustsStack message = false ∧ runtime.exhaustsStack payload = false

theorem handled_parseFrame_iff {name : String} :
    Handled (parseFrame runtime name payload) ↔ FramePasses runtime name payload := by
  unfold parseFrame FramePasses
  split_ifs
  · exact handled_map_iff.trans handled_hello_iff
  · exact handled_map_iff.trans handled_ack_iff
  · exact handled_map_iff.trans handled_ping_iff
  · exact handled_map_iff.trans handled_data_iff

theorem raisesValueError_frameType (payload : JsonObject) : RaisesValueError (frameType payload) := by
  unfold frameType
  split
  · exact (raisesValueError_raiseIf _).bind fun _ => (raisesValueError_raiseIf _).bind fun _ => raisesValueError_ok _
  · exact raisesValueError_error _

/-- The text decodes with no error but `JSONDecodeError`, and an object of a type other than an error passes. -/
structure TextPasses (runtime : Runtime) (frameText : String) : Prop where
  decodes : ∀ e, runtime.loads frameText = .error e → e.kind = .jsonDecodeError
  frame : ∀ payload name, runtime.loads frameText = .ok (.object payload) → frameType payload = .ok name →
    name ≠ "error" → FramePasses runtime name payload

theorem decodeFrame_object {loads : JsonLoads} {stream frameText : String}
    (h : loads frameText = .ok (.object payload)) : decodeFrame loads stream frameText = .ok payload := by
  unfold decodeFrame
  rw [h]

theorem protocolOnly_object_iff {frameText : String} (hloads : runtime.loads frameText = .ok (.object payload)) :
    ProtocolOnly (receiveNextFrame runtime frameText) ↔
      ∀ name, frameType payload = .ok name → name ≠ "error" → FramePasses runtime name payload := by
  unfold receiveNextFrame
  rw [decodeFrame_object hloads, ok_bind]
  cases htype : frameType payload with
  | error e =>
      refine iff_of_true (protocolOnly_orMalformed_iff.mpr ?_) (by rintro name ⟨⟩)
      rintro e' ⟨⟩
      exact (raisesValueError_frameType payload).handled e htype
  | ok name =>
      by_cases herror : name = "error"
      · rw [herror]
        refine iff_of_true (protocolOnly_websocketError _ _) ?_
        rintro name' ⟨⟩ hnot
        exact absurd rfl hnot
      · have hpasses : (∀ name', (.ok name : Result String) = .ok name' → name' ≠ "error" →
            FramePasses runtime name' payload) ↔ FramePasses runtime name payload := by
          constructor
          · exact fun h => h name rfl herror
          · rintro h name' ⟨⟩ -
            exact h
        rw [hpasses]
        split
        · rename_i heq
          cases heq
        · rename_i heq
          exact absurd (Except.ok.inj heq) herror
        · rename_i heq
          rw [← Except.ok.inj heq, protocolOnly_orMalformed_iff, handled_parseFrame_iff]

/-- **Reception raises protocol errors only** for the texts that pass, and for no other. -/
theorem receiveNextFrame_protocolOnly_iff (runtime : Runtime) (frameText : String) :
    ProtocolOnly (receiveNextFrame runtime frameText) ↔ TextPasses runtime frameText := by
  cases hloads : runtime.loads frameText with
  | error e =>
      -- only a decoding error becomes a protocol error
      have hdecode : receiveNextFrame runtime frameText = if e.kind = .jsonDecodeError then
          .error (.protocol "Kalshi WebSocket frame must be valid JSON" none) else .error (.raised e) := by
        unfold receiveNextFrame decodeFrame
        rw [hloads]
        dsimp only
        split_ifs <;> rfl
      rw [hdecode]
      split_ifs with hkind
      · refine iff_of_true (protocolOnly_protocol _ _) ⟨?_, ?_⟩
        · intro e' he
          rw [hloads] at he
          cases he
          exact hkind
        · intro payload name hobject
          rw [hloads] at hobject
          cases hobject
      · exact iff_of_false (fun h => h e rfl) fun h => hkind (h.decodes e hloads)
  | ok value =>
      have hdecodes : ∀ e, runtime.loads frameText = .error e → e.kind = .jsonDecodeError := by
        intro e he
        rw [hloads] at he
        cases he
      -- a value that is no object is refused before any field is read
      have hother : (∀ payload, value ≠ .object payload) →
          (ProtocolOnly (receiveNextFrame runtime frameText) ↔ TextPasses runtime frameText) := by
        intro hnot
        refine iff_of_true ?_ ⟨hdecodes, ?_⟩
        · have hdecode : receiveNextFrame runtime frameText =
              .error (.protocol "Kalshi WebSocket frame must be a JSON object" none) := by
            unfold receiveNextFrame decodeFrame
            rw [hloads]
            cases value with
            | object payload => exact absurd rfl (hnot payload)
            | _ => rfl
          rw [hdecode]
          exact protocolOnly_protocol _ _
        · intro payload name hobject
          rw [hloads] at hobject
          exact absurd (Except.ok.inj hobject) (hnot payload)
      cases value with
      | object payload =>
          rw [protocolOnly_object_iff hloads]
          constructor
          · intro h
            refine ⟨hdecodes, fun payload' name hobject => ?_⟩
            rw [hloads] at hobject
            cases hobject
            exact h name
          · exact fun h name => h.frame payload name hloads
      | _ => exact hother (by rintro payload ⟨⟩)

/-! ## A ping from before the year 1 -/

def earlyPing : JsonObject := [("type", .string "ping"), ("sent_at", .string "0001-01-01T00:00:00+23:59")]

/-- `json.loads` and `fromisoformat` of the one frame. -/
def earlyRuntime : Runtime where
  loads _ := .ok (.object earlyPing)
  fromisoformat _ := some ⟨0, some 86340000000⟩
  exhaustsStack _ := false

theorem earlyPing_escapes : receiveNextFrame earlyRuntime
    "\x7b\"type\":\"ping\",\"sent_at\":\"0001-01-01T00:00:00+23:59\"\x7d" =
      .error (.raised ⟨.overflowError, "date value out of range"⟩) := by
  have htype : frameType earlyPing = .ok "ping" := by decide +kernel
  have htime : utcDatetime earlyRuntime.fromisoformat (.string "0001-01-01T00:00:00+23:59") =
      .error ⟨.overflowError, "date value out of range"⟩ := rfl
  have hping : Ping.fromExchangePayload earlyRuntime earlyPing =
      .error ⟨.overflowError, "date value out of range"⟩ := by
    have hsent : requiredItem earlyPing "sent_at" "Kalshi WebSocket ping sent_at" =
        .ok (.string "0001-01-01T00:00:00+23:59") := rfl
    unfold Ping.fromExchangePayload
    rw [hsent, ok_bind, htime]
    rfl
  unfold receiveNextFrame
  rw [decodeFrame_object rfl, ok_bind, htype]
  show orMalformed "Kalshi" (do pure (.ping (← Ping.fromExchangePayload earlyRuntime earlyPing))) = _
  rw [hping]
  rfl

end KalshiWebSocket
end Pmrp
