import Pmrp.Adapters.PolymarketRawModels
import Pmrp.Adapters.StreamFrames

/-!
# `Adapters.PolymarketFrames` — the text frames of a Polymarket connection

`receive_next_frame` of `adapters/polymarket/websocket.py`. A frame is a heartbeat or a JSON object, and the type of an
object says which raw model parses it.
-/

namespace Pmrp
namespace Polymarket

open StreamFrames

/-- `PolymarketWebSocketUnsupportedFrame`. -/
structure UnsupportedFrame where
  topic : Option (RawText 128)
  eventType : RawText 128
  payload : JsonObject
  rawPayload : JsonObject

inductive ParsedFrame
  | heartbeat (text : String)
  | snapshot (frame : PolymarketRawOrderBookSnapshot)
  | priceChange (frame : PolymarketRawPriceChangeMessage)
  | trade (frame : PolymarketRawTrade)
  | unsupported (frame : UnsupportedFrame)

/-- `_frame_type`. -/
def frameType (payload : JsonObject) : Result String :=
  match payload.firstPresent ["type", "event_type"] with
  | .string text => validateRequiredText text "Polymarket WebSocket frame type"
  | _ => .error (valueError "Polymarket WebSocket frame type is required")

/-- `PolymarketWebSocketUnsupportedFrame.from_exchange_payload`. -/
def UnsupportedFrame.fromExchangePayload (payload : JsonObject) : Result UnsupportedFrame := do
  let messagePayload ← match payload.get "payload" with
    | .null => .ok payload
    | .object messagePayload => .ok messagePayload
    | _ => .error (valueError "Polymarket WebSocket unsupported frame payload must be a JSON object")
  let textField := "Polymarket WebSocket frame text field"
  pure {
    topic := ← optional (rawText 128 textField) (payload.get "topic")
    eventType := ← rawText 128 textField (.string (← frameType payload))
    payload := ← freezeMapping messagePayload "polymarket websocket frame payload"
    rawPayload := ← freezeMapping payload "polymarket websocket frame payload" }

/-- The code that `_raise_websocket_error` reports. -/
def websocketErrorCode (payload : JsonObject) : Option String :=
  match payload.get "code", payload.get "type", payload.get "error" with
  | .string code, _, _ => some code
  | _, .string rawType, _ => some rawType
  | _, _, .object errorPayload =>
      match JsonObject.get errorPayload "code" with
      | .string code => some code
      | _ => none
  | _, _, _ => none

variable (parsers : NumberParsers)

/-- `_parse_market_frame` of a type other than an error. -/
def parseMarketFrame (frameType : String) (payload : JsonObject) : Result ParsedFrame :=
  if frameType = "book" then do
    pure (.snapshot (← PolymarketRawOrderBookSnapshot.fromExchangePayload parsers payload))
  else if frameType = "price_change" then do
    pure (.priceChange (← PolymarketRawPriceChangeMessage.fromExchangePayload parsers payload))
  else if frameType = "last_trade_price" then do
    pure (.trade (← PolymarketRawTrade.fromExchangePayload parsers payload))
  else do
    pure (.unsupported (← UnsupportedFrame.fromExchangePayload payload))

/-- `receive_next_frame` of a delivered text, on a transport that sends. -/
def receiveNextFrame (loads : JsonLoads) (frameText : String) : ReceiveResult ParsedFrame :=
  if frameText = "PING" ∨ frameText = "PONG" then .ok (.heartbeat frameText)
  else do
    let payload ← decodeFrame loads "Polymarket" frameText
    match frameType payload with
    | .error e => orMalformed "Polymarket" (.error e)
    | .ok "error" => .error (websocketError "Polymarket" (websocketErrorCode payload))
    | .ok frameType => orMalformed "Polymarket" (parseMarketFrame parsers frameType payload)

end Polymarket
end Pmrp
