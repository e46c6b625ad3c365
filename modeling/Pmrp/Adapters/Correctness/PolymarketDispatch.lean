import Pmrp.Adapters.PolymarketFrames

/-!
# `Adapters.Correctness.PolymarketDispatch` — which model parses a frame

A raw model reads the type of a message from `event_type` and then from `type`, and a trade may be named `trade`. The
dispatcher reads `type` and then `event_type`, and knows trades as `last_trade_price`. So a message that a model
accepts reaches that model exactly when the two readings name it alike.
-/

namespace Pmrp
namespace Polymarket

open StreamFrames

/-! ## Two readings of the type -/

/-- The type as the dispatcher reads it. -/
def dispatchType (payload : JsonObject) : JsonValue := payload.firstPresent ["type", "event_type"]

/-- The object carries a message type. -/
def CarriesType (payload : JsonObject) : Prop :=
  (∃ text, payload.get "event_type" = .string text) ∨ ∃ text, payload.get "type" = .string text

theorem messageType_eq (payload : JsonObject) :
    messageType payload = match payload.get "event_type" with
      | .null => payload.get "type"
      | value => value := by
  unfold messageType JsonObject.firstPresent JsonObject.firstPresent JsonObject.firstPresent
  cases payload.get "event_type" <;> cases payload.get "type" <;> rfl

/-- A message that carries a type has one for the raw models. -/
theorem CarriesType.messageType_ne_null {payload : JsonObject} (h : CarriesType payload) :
    messageType payload ≠ .null := by
  rw [messageType_eq]
  rcases h with ⟨text, htext⟩ | ⟨text, htext⟩
  · rw [htext]
    rintro ⟨⟩
  · rw [htext]
    cases payload.get "event_type" <;> rintro ⟨⟩

/-- The model that the raw reading of the type names, under the dispatcher's name for it, is the one that the
    dispatcher reads. -/
def NamedAlike (payload : JsonObject) : Prop :=
  ∃ text, messageType payload = .string text ∧
    dispatchType payload = .string (if text = "trade" then "last_trade_price" else text)

/-! ## What the models accept -/

theorem optional_literal {α : Type} {fieldName : String} {values : List (String × α)} {value : JsonValue}
    {parsed : Option α} (h : optional (literal fieldName values) value = .ok parsed) (hne : value ≠ .null) :
    ∃ text a, value = .string text ∧ values.lookup text = some a := by
  cases value with
  | null => exact absurd rfl hne
  | string text =>
      cases hlookup : values.lookup text with
      | none =>
          have herror : optional (literal fieldName values) (.string text) =
              .error (valueError s!"{fieldName}: Input should be a literal of the field") := by
            simp only [optional, literal, hlookup]
            rfl
          rw [herror] at h
          cases h
      | some a => exact ⟨text, a, rfl, hlookup⟩
  | bool value => cases h
  | int value => cases h
  | float text => cases h
  | array items => cases h
  | object items => cases h

theorem literal_eq_ok {α : Type} {fieldName : String} {values : List (String × α)} {value : JsonValue} {a : α}
    (h : literal fieldName values value = .ok a) : ∃ text, value = .string text ∧ values.lookup text = some a := by
  cases value with
  | string text =>
      cases hlookup : values.lookup text with
      | none =>
          simp only [literal, hlookup] at h
          cases h
      | some b =>
          simp only [literal, hlookup] at h
          exact ⟨text, rfl, by rw [hlookup, Except.ok.inj h]⟩
  | null => cases h
  | bool value => cases h
  | int value => cases h
  | float text => cases h
  | array items => cases h
  | object items => cases h

variable {parsers : NumberParsers} {payload : JsonObject}

/-- A frame that the parser of its model returns for the payload. -/
def ParsesAs (parsers : NumberParsers) (payload : JsonObject) : ParsedFrame → Prop
  | .snapshot frame => PolymarketRawOrderBookSnapshot.fromExchangePayload parsers payload = .ok frame
  | .priceChange frame => PolymarketRawPriceChangeMessage.fromExchangePayload parsers payload = .ok frame
  | .trade frame => PolymarketRawTrade.fromExchangePayload parsers payload = .ok frame
  | .heartbeat _ => False
  | .unsupported _ => False

/-- The dispatcher's name for the model of a frame. -/
def modelName : ParsedFrame → String
  | .snapshot _ => "book"
  | .priceChange _ => "price_change"
  | .trade _ => "last_trade_price"
  | .heartbeat text => text
  | .unsupported frame => frame.eventType.text

theorem snapshot_type {frame : PolymarketRawOrderBookSnapshot}
    (h : PolymarketRawOrderBookSnapshot.fromExchangePayload parsers payload = .ok frame)
    (hne : messageType payload ≠ .null) : messageType payload = .string "book" := by
  unfold PolymarketRawOrderBookSnapshot.fromExchangePayload at h
  simp only [bind_eq_ok] at h
  obtain ⟨_, -, _, -, _, -, _, -, _, -, _, -, _, htype, -⟩ := h
  obtain ⟨text, a, htext, hlookup⟩ := optional_literal htype hne
  rw [htext]
  by_cases hbook : text = "book"
  · rw [hbook]
  · simp [bookEventTypes, List.lookup_cons, beq_false_of_ne hbook] at hlookup

theorem priceChange_type {frame : PolymarketRawPriceChangeMessage}
    (h : PolymarketRawPriceChangeMessage.fromExchangePayload parsers payload = .ok frame) :
    messageType payload = .string "price_change" := by
  unfold PolymarketRawPriceChangeMessage.fromExchangePayload at h
  obtain ⟨message, -, h⟩ := bind_eq_ok.mp h
  split at h
  · simp only [bind_eq_ok] at h
    obtain ⟨eventType, hrequired, _, -, _, -, _, -, _, htype, -⟩ := h
    obtain ⟨text, htext, hlookup⟩ := literal_eq_ok htype
    have hmessage : messageType payload = eventType := by
      unfold messageType
      unfold JsonObject.required at hrequired
      split at hrequired
      · cases hrequired
      · exact Except.ok.inj hrequired
    rw [hmessage, htext]
    by_cases hname : text = "price_change"
    · rw [hname]
    · simp [priceChangeEventTypes, List.lookup_cons, beq_false_of_ne hname] at hlookup
  · cases h

theorem trade_type {frame : PolymarketRawTrade}
    (h : PolymarketRawTrade.fromExchangePayload parsers payload = .ok frame) (hne : messageType payload ≠ .null) :
    messageType payload = .string "last_trade_price" ∨ messageType payload = .string "trade" := by
  unfold PolymarketRawTrade.fromExchangePayload at h
  simp only [bind_eq_ok] at h
  obtain ⟨_, -, _, -, _, -, _, -, _, -, _, -, _, htype, -⟩ := h
  obtain ⟨text, a, htext, hlookup⟩ := optional_literal htype hne
  rw [htext]
  by_cases hlast : text = "last_trade_price"
  · rw [hlast]
    exact Or.inl rfl
  · by_cases htrade : text = "trade"
    · rw [htrade]
      exact Or.inr rfl
    · simp [tradeEventTypes, List.lookup_cons, beq_false_of_ne hlast, beq_false_of_ne htrade] at hlookup

/-- The raw reading of a parsed message names its model. -/
theorem ParsesAs.messageType_eq {frame : ParsedFrame} (h : ParsesAs parsers payload frame)
    (htype : CarriesType payload) :
    ∃ text, messageType payload = .string text ∧ (if text = "trade" then "last_trade_price" else text) =
      modelName frame := by
  have hne := htype.messageType_ne_null
  cases frame with
  | heartbeat text => cases h
  | unsupported frame => cases h
  | snapshot frame => exact ⟨_, snapshot_type h hne, rfl⟩
  | priceChange frame => exact ⟨_, priceChange_type h, rfl⟩
  | trade frame =>
      rcases trade_type h hne with hlast | htrade
      · exact ⟨_, hlast, rfl⟩
      · exact ⟨_, htrade, rfl⟩

/-! ## The dispatcher -/

variable {loads : JsonLoads} {frameText : String}

theorem receiveNextFrame_eq (hping : frameText ≠ "PING") (hpong : frameText ≠ "PONG")
    (hloads : loads frameText = .ok (.object payload)) :
    receiveNextFrame parsers loads frameText =
      match frameType payload with
      | .error e => orMalformed "Polymarket" (.error e)
      | .ok "error" => .error (websocketError "Polymarket" (websocketErrorCode payload))
      | .ok frameType => orMalformed "Polymarket" (parseMarketFrame parsers frameType payload) := by
  unfold receiveNextFrame
  rw [if_neg (not_or.mpr ⟨hping, hpong⟩)]
  unfold decodeFrame
  rw [hloads]
  rfl

theorem frameType_eq_ok {text : String} (h : frameType payload = .ok text) : dispatchType payload = .string text := by
  unfold frameType at h
  unfold dispatchType
  split at h
  · rename_i value hvalue
    simp only [validateRequiredText, bind_eq_ok, raiseIf_eq_ok, pure_eq_ok] at h
    obtain ⟨-, -, -, -, rfl⟩ := h
    exact hvalue
  · cases h

theorem orMalformed_eq_ok {α : Type} {stream : String} {x : Result α} {a : α}
    (h : orMalformed stream x = .ok a) : x = .ok a := by
  cases x with
  | ok b =>
      obtain rfl := Except.ok.inj h
      rfl
  | error e =>
      unfold orMalformed at h
      dsimp only at h
      split_ifs at h

/-- The frames of a model come from its parser, and its name was read. -/
theorem parseMarketFrame_eq_ok {name : String} {frame : ParsedFrame}
    (h : parseMarketFrame parsers name payload = .ok frame)
    (hmodel : ∀ unsupported, frame ≠ .unsupported unsupported) :
    ParsesAs parsers payload frame ∧ name = modelName frame := by
  unfold parseMarketFrame at h
  split_ifs at h with hbook hprice htrade
  · obtain ⟨parsed, hparsed, h⟩ := bind_eq_ok.mp h
    obtain rfl := pure_eq_ok.mp h
    exact ⟨hparsed, hbook⟩
  · obtain ⟨parsed, hparsed, h⟩ := bind_eq_ok.mp h
    obtain rfl := pure_eq_ok.mp h
    exact ⟨hparsed, hprice⟩
  · obtain ⟨parsed, hparsed, h⟩ := bind_eq_ok.mp h
    obtain rfl := pure_eq_ok.mp h
    exact ⟨hparsed, htrade⟩
  · obtain ⟨parsed, -, h⟩ := bind_eq_ok.mp h
    obtain rfl := pure_eq_ok.mp h
    exact absurd rfl (hmodel parsed)

/-- A frame of a model is that model's parse of the object, under the name the dispatcher read. -/
theorem receiveNextFrame_sound (hping : frameText ≠ "PING") (hpong : frameText ≠ "PONG")
    (hloads : loads frameText = .ok (.object payload)) {frame : ParsedFrame}
    (h : receiveNextFrame parsers loads frameText = .ok frame)
    (hmodel : ∀ unsupported, frame ≠ .unsupported unsupported) :
    ParsesAs parsers payload frame ∧ dispatchType payload = .string (modelName frame) := by
  rw [receiveNextFrame_eq hping hpong hloads] at h
  split at h
  · cases orMalformed_eq_ok h
  · cases h
  · rename_i name hname
    obtain ⟨hparses, rfl⟩ := parseMarketFrame_eq_ok (orMalformed_eq_ok h) hmodel
    exact ⟨hparses, frameType_eq_ok ‹_›⟩

theorem parseMarketFrame_of_parses {frame : ParsedFrame} (h : ParsesAs parsers payload frame) :
    parseMarketFrame parsers (modelName frame) payload = .ok frame := by
  cases frame with
  | heartbeat text => cases h
  | unsupported frame => cases h
  | snapshot frame =>
      have hparsed : PolymarketRawOrderBookSnapshot.fromExchangePayload parsers payload = .ok frame := h
      simp only [parseMarketFrame, modelName, if_true, hparsed]
      rfl
  | priceChange frame =>
      have hparsed : PolymarketRawPriceChangeMessage.fromExchangePayload parsers payload = .ok frame := h
      have hbook : ¬"price_change" = "book" := by decide
      simp only [parseMarketFrame, modelName, if_neg hbook, if_true, hparsed]
      rfl
  | trade frame =>
      have hparsed : PolymarketRawTrade.fromExchangePayload parsers payload = .ok frame := h
      have hbook : ¬"last_trade_price" = "book" := by decide
      have hprice : ¬"last_trade_price" = "price_change" := by decide
      simp only [parseMarketFrame, modelName, if_neg hbook, if_neg hprice, if_true, hparsed]
      rfl

theorem frameType_modelName {frame : ParsedFrame} (h : ParsesAs parsers payload frame)
    (hdispatch : dispatchType payload = .string (modelName frame)) :
    frameType payload = .ok (modelName frame) ∧ modelName frame ≠ "error" := by
  have hname : frameType payload = validateRequiredText (modelName frame) "Polymarket WebSocket frame type" := by
    unfold dispatchType at hdispatch
    unfold frameType
    rw [hdispatch]
  rw [hname]
  cases frame with
  | heartbeat text => cases h
  | unsupported frame => cases h
  | snapshot frame =>
      show validateRequiredText "book" "Polymarket WebSocket frame type" = .ok "book" ∧ "book" ≠ "error"
      decide
  | priceChange frame =>
      show validateRequiredText "price_change" "Polymarket WebSocket frame type" = .ok "price_change" ∧
        "price_change" ≠ "error"
      decide
  | trade frame =>
      show validateRequiredText "last_trade_price" "Polymarket WebSocket frame type" = .ok "last_trade_price" ∧
        "last_trade_price" ≠ "error"
      decide

/-- **Dispatch agrees with the parsers where the type is read alike.** A message that one of the three models accepts
    is received as exactly that parse if and only if both readings of its type name the model; and a frame of a model is
    always one that its parser accepts. -/
theorem dispatch_agrees_iff (hping : frameText ≠ "PING") (hpong : frameText ≠ "PONG")
    (hloads : loads frameText = .ok (.object payload)) (htype : CarriesType payload) :
    (∀ frame, ParsesAs parsers payload frame →
      (receiveNextFrame parsers loads frameText = .ok frame ↔ NamedAlike payload)) ∧
    ∀ frame, receiveNextFrame parsers loads frameText = .ok frame →
      (∀ unsupported, frame ≠ .unsupported unsupported) → ParsesAs parsers payload frame := by
  refine ⟨fun frame hparses => ?_, fun frame h hmodel => (receiveNextFrame_sound hping hpong hloads h hmodel).1⟩
  obtain ⟨text, htext, hname⟩ := hparses.messageType_eq htype
  constructor
  · intro h
    have hmodel : ∀ unsupported, frame ≠ .unsupported unsupported := by
      rintro unsupported rfl
      cases hparses
    have hdispatch := (receiveNextFrame_sound hping hpong hloads h hmodel).2
    exact ⟨text, htext, by rw [hname]; exact hdispatch⟩
  · rintro ⟨text', htext', hdispatch⟩
    obtain rfl : text = text' := by
      rw [htext] at htext'
      exact JsonValue.string.inj htext'
    rw [hname] at hdispatch
    obtain ⟨hframe, hnot⟩ := frameType_modelName hparses hdispatch
    rw [receiveNextFrame_eq hping hpong hloads, hframe]
    split
    · rename_i herror
      cases herror
    · rename_i herror
      exact absurd (Except.ok.inj herror) hnot
    · rename_i name hname'
      obtain rfl := Except.ok.inj hname'
      rw [parseMarketFrame_of_parses hparses]
      rfl

/-! ## A trade under its other name -/

/-- `{"event_type": "trade", ...}`: the model accepts the type, and the dispatcher does not know it. -/
def namedTrade : JsonObject :=
  [("event_type", .string "trade"), ("market", .string "rain"), ("asset_id", .string "yes"),
    ("side", .string "BUY"), ("price", .int 1), ("timestamp", .string "1700000000")]

def noNumbers : NumberParsers := ⟨fun _ => none, fun _ => none⟩

/-- `json.loads` of the one frame. -/
def loadsTrade : JsonLoads := fun _ => .ok (.object namedTrade)

def isUnsupported : ParsedFrame → Bool
  | .unsupported _ => true
  | _ => false

/-- The trade parses, and is received as an unsupported frame. -/
theorem namedTrade_unsupported :
    CarriesType namedTrade ∧ (PolymarketRawTrade.fromExchangePayload noNumbers namedTrade).toOption.isSome = true ∧
      (receiveNextFrame noNumbers loadsTrade "trade frame").toOption.map isUnsupported = some true :=
  ⟨Or.inl ⟨"trade", rfl⟩, by decide +kernel, by decide +kernel⟩

/-- Under the name the dispatcher knows. -/
def lastTradePrice : JsonObject :=
  [("event_type", .string "last_trade_price"), ("market", .string "rain"), ("asset_id", .string "yes"),
    ("side", .string "BUY"), ("price", .int 1), ("timestamp", .string "1700000000")]

theorem dispatch_agrees_iff_lastTradePrice : ∃ frame, ParsesAs noNumbers lastTradePrice (.trade frame) ∧
    receiveNextFrame noNumbers (fun _ => .ok (.object lastTradePrice)) "trade frame" = .ok (.trade frame) := by
  have hsome : (PolymarketRawTrade.fromExchangePayload noNumbers lastTradePrice).toOption.isSome = true := by
    decide +kernel
  cases hparsed : PolymarketRawTrade.fromExchangePayload noNumbers lastTradePrice with
  | error e =>
      rw [hparsed] at hsome
      cases hsome
  | ok frame =>
      have hagrees := @dispatch_agrees_iff noNumbers lastTradePrice (fun _ => .ok (.object lastTradePrice))
          "trade frame"
        (by decide) (by decide) rfl (Or.inl ⟨"last_trade_price", rfl⟩)
      exact ⟨frame, hparsed, (hagrees.1 (.trade frame) hparsed).mpr ⟨"last_trade_price", rfl, rfl⟩⟩

end Polymarket
end Pmrp
