import Pmrp.Adapters.KalshiWebSocket

/-!
# `Adapters.KalshiConnection` — the calls of a Kalshi connection

`KalshiWebSocketConnection` of `adapters/kalshi/websocket.py`, over any transport. A call that is made takes the next
answer of the transport, whatever it raises later; the texts that were asked for, the payloads that were handed over and
the times that the transport was closed are what a connection leaves behind.
-/

namespace Pmrp
namespace KalshiWebSocket

open StreamFrames

/-- What the calls of a transport return or raise, in order. -/
structure Transport where
  receiveText : ℕ → Result String
  sendJson : ℕ → Result Unit
  close : Result Unit

/-- `KalshiWebSocketSubscribePlan`. -/
structure SubscribePlan where
  requestId : String
  channels : List Channel
  marketTickers : List String
  channels_nodup : channels.Nodup
  marketTickers_nodup : marketTickers.Nodup

def Channel.value : Channel → String
  | .orderBook => "order_book"
  | .trades => "trades"

def SubscribePlan.toPayload (plan : SubscribePlan) : JsonObject :=
  [("type", .string "subscribe"), ("request_id", .string plan.requestId),
    ("channels", .array (plan.channels.map fun channel => .string channel.value)),
    ("market_tickers", .array (plan.marketTickers.map .string))]

structure Connection where
  received : ℕ := 0
  sent : List JsonObject := []
  closes : ℕ := 0
  closed : Bool := false

namespace Connection

variable (runtime : Runtime) (transport : Transport) (s : Connection)

/-- `send_json`: the payload is handed over, also where the transport raises. -/
def sendJson (payload : JsonObject) : Result Unit × Connection :=
  (transport.sendJson s.sent.length, { s with sent := s.sent ++ [payload] })

/-- The answer to a ping is sent within the handler of malformed frames. -/
def receiveNextFrame : ReceiveResult ParsedFrame × Connection :=
  let s' := { s with received := s.received + 1 }
  match transport.receiveText s.received with
  | .error e => (.error (.raised e), s')
  | .ok frameText =>
      match KalshiWebSocket.receiveNextFrame runtime frameText with
      | .ok (.ping ping) =>
          let answer := s'.sendJson transport ping.pongPayload
          (orMalformed "Kalshi" (answer.1.map fun _ => .ping ping), answer.2)
      | result => (result, s')

def receiveHello : ReceiveResult Hello × Connection :=
  let next := s.receiveNextFrame runtime transport
  (match next.1 with
    | .ok (.hello frame) => .ok frame
    | .ok _ => .error (.protocol "Kalshi WebSocket expected hello frame" none)
    | .error e => .error e, next.2)

def subscribe (plan : SubscribePlan) : ReceiveResult SubscriptionAck × Connection :=
  match s.sendJson transport plan.toPayload with
  | (.error e, s') => (.error (.raised e), s')
  | (.ok _, s') =>
      let next := s'.receiveNextFrame runtime transport
      (match next.1 with
        | .ok (.ack frame) =>
            if frame.requestId = plan.requestId then .ok frame
            else .error (.protocol "Kalshi WebSocket subscription acknowledgement request mismatch" none)
        | .ok _ => .error (.protocol "Kalshi WebSocket expected subscription acknowledgement" none)
        | .error e => .error e, next.2)

def close : Result Unit × Connection :=
  if s.closed = true then (.ok ⟨⟩, s) else (transport.close, { s with closed := true, closes := s.closes + 1 })

/-! ## Runs -/

inductive Call
  | receiveHello
  | subscribe (plan : SubscribePlan)
  | receiveNextFrame
  | close

inductive Answer
  | hello (result : ReceiveResult Hello)
  | ack (result : ReceiveResult SubscriptionAck)
  | frame (result : ReceiveResult ParsedFrame)
  | closed (result : Result Unit)

def call : Call → Answer × Connection
  | .receiveHello => ((.hello (s.receiveHello runtime transport).1), (s.receiveHello runtime transport).2)
  | .subscribe plan => ((.ack (s.subscribe runtime transport plan).1), (s.subscribe runtime transport plan).2)
  | .receiveNextFrame =>
      ((.frame (s.receiveNextFrame runtime transport).1), (s.receiveNextFrame runtime transport).2)
  | .close => ((.closed (s.close transport).1), (s.close transport).2)

/-- The calls one after the other. -/
def run : Connection → List Call → List (Call × Answer) × Connection
  | s, [] => ([], s)
  | s, c :: calls =>
      ((c, (s.call runtime transport c).1) :: (run (s.call runtime transport c).2 calls).1,
        (run (s.call runtime transport c).2 calls).2)

end Connection
end KalshiWebSocket
end Pmrp
