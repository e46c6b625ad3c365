import Pmrp.Adapters.StreamFrames

/-!
# `Adapters.KalshiWebSocket` — the text frames of a Kalshi connection

`receive_next_frame` of `adapters/kalshi/websocket.py`, with the models of its frames. A model validates its fields in
order, and the raw payload last: freezing it recurses into the payload, as deep as that nests.
-/

namespace Pmrp
namespace KalshiWebSocket

open StreamFrames

/-- What a frame depends on besides its text: `json.loads`, `datetime.fromisoformat`, and the objects that nest too
    deep for the stack of the interpreter to freeze them. -/
structure Runtime where
  loads : JsonLoads
  fromisoformat : FromIsoFormat
  exhaustsStack : JsonObject → Bool

/-! ## Fields -/

variable (runtime : Runtime)

def recursionError : PyError := ⟨.recursionError, "maximum recursion depth exceeded"⟩

/-- `_freeze_payload`. -/
def freezePayload (payload : JsonObject) : Result JsonObject := do
  raiseIf (runtime.exhaustsStack payload = true) recursionError
  raiseIf (JsonValue.freezableItems payload = false) (valueError "payload values must be canonical JSON")
  pure payload

/-- A string field with a length bound and `_validate_required_text`. -/
def requiredText (bound : ℕ) (fieldName : String) : JsonValue → Result String
  | .string text => do
      checkText fieldName bound text
      validateRequiredText text fieldName
  | _ => .error (valueError s!"{fieldName}: Input should be a valid string")

def optionalText (bound : ℕ) (fieldName : String) : JsonValue → Result (Option String)
  | .null => .ok none
  | value => do pure (some (← requiredText bound fieldName value))

/-- An integer field with bounds. -/
def boundedInt (low : ℤ) (high : Option ℤ) (fieldName : String) : JsonValue → Result ℤ
  | .int value => do
      raiseIf (value < low ∨ ∃ bound ∈ high, bound < value) (valueError s!"{fieldName}: Input is out of bounds")
      pure value
  | _ => .error (valueError s!"{fieldName}: Input should be a valid integer")

def optionalInt (low : ℤ) (fieldName : String) : JsonValue → Result (Option ℤ)
  | .null => .ok none
  | value => do pure (some (← boundedInt low none fieldName value))

def optionalUtcDatetime : JsonValue → Result (Option UTCDateTime)
  | .null => .ok none
  | value => do pure (some (← utcDatetime runtime.fromisoformat value))

/-- `_required_payload_item`. -/
def requiredItem (payload : JsonObject) (key fieldName : String) : Result JsonValue :=
  payload.required [key] fieldName

/-! ## Frames -/

inductive Channel
  | orderBook
  | trades
  deriving DecidableEq

structure Hello where
  connectionId : String
  heartbeatIntervalSeconds : ℤ
  serverTime : Option UTCDateTime
  rawPayload : JsonObject

/-- `KalshiWebSocketHello.from_exchange_payload`. -/
def Hello.fromExchangePayload (payload : JsonObject) : Result Hello := do
  let connectionId ← requiredItem payload "connection_id" "Kalshi WebSocket connection_id"
  let heartbeatIntervalSeconds ← requiredItem payload "heartbeat_interval_seconds"
    "Kalshi WebSocket heartbeat_interval_seconds"
  let connectionId ← collected (requiredText 256 "Kalshi WebSocket connection_id" connectionId)
  let heartbeatIntervalSeconds ← collected
    (boundedInt 1 (some 120) "heartbeat_interval_seconds" heartbeatIntervalSeconds)
  let serverTime ← collected (optionalUtcDatetime runtime (payload.get "server_time"))
  let rawPayload ← collected (freezePayload runtime payload)
  pure {
    connectionId := ← fieldValue connectionId
    heartbeatIntervalSeconds := ← fieldValue heartbeatIntervalSeconds
    serverTime := ← fieldValue serverTime
    rawPayload := ← fieldValue rawPayload }

structure Subscription where
  subscriptionId : String
  channel : Channel
  deriving DecidableEq

/-- The names of a channel. -/
def channelOf : JsonValue → Option Channel
  | .string "order_book" => some .orderBook
  | .string "orderbook" => some .orderBook
  | .string "market_data.order_books" => some .orderBook
  | .string "trades" => some .trades
  | .string "trade" => some .trades
  | .string "market_data.trades" => some .trades
  | _ => none

/-- `_subscription_from_payload`. -/
def subscriptionFromPayload : JsonValue → Result Subscription
  | .object items =>
      match channelOf (JsonObject.get items "channel") with
      | none => .error (valueError "Kalshi WebSocket subscription channel is unsupported")
      | some channel => do
          let subscriptionId ← requiredText 256 "Kalshi WebSocket subscription_id"
            (JsonObject.get items "subscription_id")
          pure ⟨subscriptionId, channel⟩
  | _ => .error (valueError "Kalshi WebSocket subscriptions must contain JSON objects")

structure SubscriptionAck where
  requestId : String
  subscriptions : List Subscription
  rawPayload : JsonObject

def validateUniqueSubscriptionIds (ack : SubscriptionAck) : Result SubscriptionAck := do
  raiseIf (¬(ack.subscriptions.map Subscription.subscriptionId).Nodup)
    (valueError "Kalshi WebSocket subscription ids must not contain duplicate values")
  pure ack

/-- `KalshiWebSocketSubscriptionAck.from_exchange_payload`. -/
def SubscriptionAck.fromExchangePayload (payload : JsonObject) : Result SubscriptionAck :=
  match payload.get "subscriptions" with
  | .array items => do
      let requestId ← requiredItem payload "request_id" "Kalshi WebSocket request_id"
      let subscriptions ← items.mapM subscriptionFromPayload
      let requestId ← collected (requiredText 256 "Kalshi WebSocket request_id" requestId)
      let nonempty ← collected (raiseIf (subscriptions = []) (valueError "Tuple should have at least 1 item"))
      let rawPayload ← collected (freezePayload runtime payload)
      let requestId ← fieldValue requestId
      let _ ← fieldValue nonempty
      let rawPayload ← fieldValue rawPayload
      validateUniqueSubscriptionIds { requestId, subscriptions, rawPayload }
  | _ => .error (valueError "Kalshi WebSocket subscription acknowledgement must contain subscriptions")

structure Ping where
  sentAt : UTCDateTime
  rawPayload : JsonObject

/-- `KalshiWebSocketPing.from_exchange_payload`. -/
def Ping.fromExchangePayload (payload : JsonObject) : Result Ping := do
  let sentAt ← requiredItem payload "sent_at" "Kalshi WebSocket ping sent_at"
  let sentAt ← collected (utcDatetime runtime.fromisoformat sentAt)
  let rawPayload ← collected (freezePayload runtime payload)
  pure { sentAt := ← fieldValue sentAt, rawPayload := ← fieldValue rawPayload }

/-- The frame that answers a ping. -/
def Ping.pongPayload (ping : Ping) : JsonObject :=
  [("type", .string "pong"), ("sent_at", ping.rawPayload.get "sent_at")]

structure DataFrame where
  messageType : String
  channel : Channel
  marketTicker : Option String
  sequence : Option ℤ
  payload : JsonObject
  rawPayload : JsonObject

/-- `_data_channel`. -/
def dataChannel (payload : JsonObject) (messageType : String) : Result Channel :=
  match channelOf (payload.get "channel") with
  | some channel => .ok channel
  | none =>
      if messageType.startsWith "orderbook" then .ok .orderBook
      else if messageType = "trade" then .ok .trades
      else .error (valueError "Kalshi WebSocket data frame channel is unsupported")

/-- `_message_payload`. -/
def messagePayload (payload : JsonObject) : Result JsonObject :=
  match payload.get "msg" with
  | .null => .ok payload
  | .object message => .ok message
  | _ => .error (valueError "Kalshi WebSocket frame msg must be a JSON object")

/-- `KalshiWebSocketDataFrame.from_exchange_payload` of an object with this type. -/
def DataFrame.fromExchangePayload (payload : JsonObject) (messageType : String) : Result DataFrame := do
  let message ← messagePayload payload
  let channel ← dataChannel payload messageType
  let textField := "Kalshi WebSocket data text field"
  let messageType ← collected (requiredText 128 textField (.string messageType))
  let marketTicker ← collected (optionalText 256 textField (message.firstPresent ["market_ticker", "ticker"]))
  let sequence ← collected (optionalInt 0 "sequence" (payload.firstPresent ["seq", "sequence"]))
  let frozenMessage ← collected (freezePayload runtime message)
  let rawPayload ← collected (freezePayload runtime payload)
  pure {
    messageType := ← fieldValue messageType
    channel
    marketTicker := ← fieldValue marketTicker
    sequence := ← fieldValue sequence
    payload := ← fieldValue frozenMessage
    rawPayload := ← fieldValue rawPayload }

/-! ## `receive_next_frame` -/

inductive ParsedFrame
  | hello (frame : Hello)
  | ack (frame : SubscriptionAck)
  | ping (frame : Ping)
  | data (frame : DataFrame)

/-- `_frame_type`. -/
def frameType (payload : JsonObject) : Result String :=
  match payload.get "type" with
  | .string text => validateRequiredText text "Kalshi WebSocket frame type"
  | _ => .error (valueError "Kalshi WebSocket frame type is required")

/-- The code that `_raise_websocket_error` reports. -/
def websocketErrorCode (payload : JsonObject) : Option String :=
  let code := match payload.get "error" with
    | .object errorPayload => JsonObject.firstPresent errorPayload ["code", "error_code"]
    | _ => payload.get "code"
  match code with
  | .string text => some text
  | _ => none

/-- The parse of a frame of a type other than an error. The answer to a ping is sent by a transport that sends. -/
def parseFrame (frameType : String) (payload : JsonObject) : Result ParsedFrame :=
  if frameType = "hello" ∨ frameType = "system.hello" then do
    pure (.hello (← Hello.fromExchangePayload runtime payload))
  else if frameType = "subscribed" ∨ frameType = "subscription.accepted" then do
    pure (.ack (← SubscriptionAck.fromExchangePayload runtime payload))
  else if frameType = "ping" then do
    pure (.ping (← Ping.fromExchangePayload runtime payload))
  else do
    pure (.data (← DataFrame.fromExchangePayload runtime payload frameType))

def receiveNextFrame (frameText : String) : ReceiveResult ParsedFrame := do
  let payload ← decodeFrame runtime.loads "Kalshi" frameText
  match frameType payload with
  | .error e => orMalformed "Kalshi" (.error e)
  | .ok "error" => .error (websocketError "Kalshi" (websocketErrorCode payload))
  | .ok frameType => orMalformed "Kalshi" (parseFrame runtime frameType payload)

end KalshiWebSocket
end Pmrp
