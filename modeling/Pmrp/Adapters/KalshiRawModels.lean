import Pmrp.Schemas.MarketData

/-!
# `Adapters.KalshiRawModels` — raw order-book messages of Kalshi

`KalshiRawOrderBookLevel`, `KalshiRawOrderBookMessage` and `check_kalshi_order_book_sequence` of
`adapters/kalshi/raw_models.py`. Prices are cents between 0 and 100. The raw payload that a message keeps beside
its fields is left out.
-/

namespace Pmrp

/-! ## Messages -/

inductive KalshiOrderBookMessageType
  | snapshot
  | delta
  deriving DecidableEq, Repr

inductive KalshiOrderBookSide
  | yes
  | no
  deriving DecidableEq, Repr

inductive KalshiOrderBookDeltaAction
  | insert
  | update
  | delete
  deriving DecidableEq, Repr

structure KalshiRawOrderBookLevel where
  price : ℕ
  quantity : ℕ
  price_le : price ≤ 100
  deriving DecidableEq

def validateUniquePrices (fieldName : String) (levels : List KalshiRawOrderBookLevel) : Result Unit :=
  raiseIf (¬(levels.map KalshiRawOrderBookLevel.price).Nodup)
    (valueError s!"Kalshi order-book {fieldName} side must not contain duplicate prices")

def validateMessageShape (messageType : KalshiOrderBookMessageType) (side : Option KalshiOrderBookSide)
    (price quantity : Option ℕ) (action : Option KalshiOrderBookDeltaAction)
    (yes no : List KalshiRawOrderBookLevel) : Result Unit :=
  match messageType with
  | .snapshot => do
      raiseIf (side ≠ none ∨ price ≠ none ∨ action ≠ none)
        (valueError "Kalshi order-book snapshots must not contain delta fields")
      raiseIf (quantity ≠ none) (valueError "Kalshi order-book snapshots must not contain delta quantity")
      raiseIf (yes = [] ∧ no = []) (valueError "Kalshi order-book snapshots must contain at least one side")
      validateUniquePrices "yes" yes
      validateUniquePrices "no" no
  | .delta => do
      raiseIf (side = none ∨ price = none ∨ action = none)
        (valueError "Kalshi order-book deltas must include side, price, and action")
      raiseIf (yes ≠ [] ∨ no ≠ []) (valueError "Kalshi order-book deltas must not contain snapshot levels")
      if action = some .delete then
        raiseIf (quantity ≠ none ∧ quantity ≠ some 0)
          (valueError "Kalshi order-book delete deltas must not include positive quantity")
      else
        raiseIf (quantity = none) (valueError "Kalshi order-book insert and update deltas must include quantity")

structure KalshiRawOrderBookMessage where
  marketTicker : String
  messageType : KalshiOrderBookMessageType
  subscriptionId : Option ℕ := none
  sequence : Option ℕ := none
  side : Option KalshiOrderBookSide := none
  price : Option ℕ := none
  quantity : Option ℕ := none
  action : Option KalshiOrderBookDeltaAction := none
  yes : List KalshiRawOrderBookLevel := []
  no : List KalshiRawOrderBookLevel := []
  marketTicker_within : TextWithin 256 marketTicker
  marketTicker_stripped : isStripped marketTicker = true
  price_le : ∀ p ∈ price, p ≤ 100
  shape : validateMessageShape messageType side price quantity action yes no = .ok ⟨⟩

namespace KalshiRawOrderBookMessage

variable {message : KalshiRawOrderBookMessage}

/-- The levels of one side of a snapshot. -/
def levels (message : KalshiRawOrderBookMessage) : KalshiOrderBookSide → List KalshiRawOrderBookLevel
  | .yes => message.yes
  | .no => message.no

theorem nodup_levels (h : message.messageType = .snapshot) (side : KalshiOrderBookSide) :
    ((message.levels side).map KalshiRawOrderBookLevel.price).Nodup := by
  have hshape := message.shape
  rw [h] at hshape
  simp only [validateMessageShape, validateUniquePrices, bind_eq_ok, raiseIf_eq_ok, not_not] at hshape
  obtain ⟨_, _, _, _, _, _, _, hyes, hno⟩ := hshape
  cases side with
  | yes => exact hyes
  | no => exact hno

/-- A delta names one price of one side, with a quantity unless it deletes. -/
theorem delta_fields (h : message.messageType = .delta) :
    ∃ side price action, message.side = some side ∧ message.price = some price ∧ message.action = some action ∧
      (action = .delete → message.quantity.getD 0 = 0) ∧
      (action ≠ .delete → ∃ quantity, message.quantity = some quantity) := by
  have hshape := message.shape
  rw [h] at hshape
  simp only [validateMessageShape, bind_eq_ok, raiseIf_eq_ok, not_or] at hshape
  obtain ⟨_, ⟨hside, hprice, haction⟩, _, _, hquantity⟩ := hshape
  obtain ⟨side, hside⟩ := Option.ne_none_iff_exists'.mp hside
  obtain ⟨price, hprice⟩ := Option.ne_none_iff_exists'.mp hprice
  obtain ⟨action, haction⟩ := Option.ne_none_iff_exists'.mp haction
  refine ⟨side, price, action, hside, hprice, haction, ?_, ?_⟩
  · rintro rfl
    rw [haction, if_pos rfl, raiseIf_eq_ok, not_and_or, not_not, not_not] at hquantity
    rcases hquantity with hquantity | hquantity <;> rw [hquantity] <;> rfl
  · intro hne
    rw [haction, if_neg fun heq => hne (Option.some.inj heq), raiseIf_eq_ok] at hquantity
    exact Option.ne_none_iff_exists'.mp hquantity

end KalshiRawOrderBookMessage

/-! ## Sequence numbers -/

inductive KalshiOrderBookSequenceStatus
  | ok
  | duplicate
  | stale
  | gap
  | missing
  deriving DecidableEq, Repr

structure KalshiOrderBookSequenceCheck where
  previousSequence : Option ℕ
  expectedSequence : Option ℕ
  receivedSequence : Option ℕ
  status : KalshiOrderBookSequenceStatus
  invalidatesBook : Bool
  deriving DecidableEq

def checkKalshiOrderBookSequence (previousSequence : Option ℕ) (message : KalshiRawOrderBookMessage) :
    KalshiOrderBookSequenceCheck :=
  let expectedSequence := previousSequence.map (· + 1)
  match message.sequence, previousSequence with
  | none, previous => ⟨previous, expectedSequence, none, .missing, previous.isSome⟩
  | some received, none => ⟨none, expectedSequence, some received, .ok, false⟩
  | some received, some previous =>
      if received = previous + 1 then ⟨some previous, expectedSequence, some received, .ok, false⟩
      else
        let status : KalshiOrderBookSequenceStatus :=
          if received = previous then .duplicate else if received < previous then .stale else .gap
        ⟨some previous, expectedSequence, some received, status, decide (status = .gap)⟩

theorem checkKalshiOrderBookSequence_ok {previous : ℕ} {message : KalshiRawOrderBookMessage} :
    (checkKalshiOrderBookSequence (some previous) message).status = .ok ↔
      message.sequence = some (previous + 1) := by
  unfold checkKalshiOrderBookSequence
  cases message.sequence with
  | none => simp
  | some received =>
      by_cases hnext : received = previous + 1
      · simp [hnext]
      · simp only [if_neg hnext, Option.some.injEq]
        constructor
        · intro hstatus
          split_ifs at hstatus
        · exact fun heq => absurd heq hnext

end Pmrp
