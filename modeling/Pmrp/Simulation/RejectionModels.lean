import Pmrp.Schemas.Orders

/-!
# `Simulation.RejectionModels` — which simulated orders are rejected

`BoundedRejectionModel` of `simulation/rejection_models.py`, and `_required_balance_for_intent` of
`simulation/scenarios.py`, the balance a scenario asks of an order before it evaluates the model.
-/

namespace Pmrp

inductive RejectionReason
  | accepted
  | insufficientBalance
  | invalidPrice
  | invalidQuantity
  | marketClosed
  | postOnlyWouldCross
  deriving DecidableEq, Repr

def RejectionReason.code : RejectionReason → String
  | accepted => "simulation_order_accepted"
  | insufficientBalance => "simulation_insufficient_balance"
  | invalidPrice => "simulation_invalid_price"
  | invalidQuantity => "simulation_invalid_quantity"
  | marketClosed => "simulation_market_closed"
  | postOnlyWouldCross => "simulation_post_only_would_cross"

structure RejectionDecision where
  accepted : Bool
  reasonCode : RejectionReason
  reasonText : String
  deriving DecidableEq, Repr

def RejectionDecision.rejected (decision : RejectionDecision) : Bool := !decision.accepted

/-- The default bounds of the model are its field defaults. -/
structure BoundedRejectionModel where
  minPrice : ℚ := 0
  maxPrice : Option ℚ := some 1
  minQuantity : ℚ := 1 / 100000000
  maxQuantity : Option ℚ := none
  openStatuses : List MarketStatus := [.open]
  minPrice_nonneg : 0 ≤ minPrice
  maxPrice_nonneg : ∀ p ∈ maxPrice, 0 ≤ p
  minQuantity_pos : 0 < minQuantity
  maxQuantity_pos : ∀ q ∈ maxQuantity, 0 < q
  minPrice_le : ∀ p ∈ maxPrice, minPrice ≤ p
  minQuantity_le : ∀ q ∈ maxQuantity, minQuantity ≤ q
  openStatuses_ne : openStatuses ≠ []

namespace BoundedRejectionModel

def reject (reasonCode : RejectionReason) (reasonText : String) : RejectionDecision :=
  ⟨false, reasonCode, reasonText⟩

def accept : RejectionDecision := ⟨true, .accepted, "order accepted by simulation rejection model"⟩

def parseOptionalNonnegative (fieldName : String) (value : Option ℚ) : Result Unit :=
  raiseIf (∃ v ∈ value, v < 0) (valueError s!"{fieldName} must be nonnegative")

variable (model : BoundedRejectionModel)

/-- The balance check, which is the last one. -/
def evaluateBalance (requiredBalance availableBalance : Option ℚ) : RejectionDecision :=
  match requiredBalance, availableBalance with
  | none, _ => accept
  | some _, none => reject .insufficientBalance "available balance is unavailable"
  | some required, some available =>
      if available < required then reject .insufficientBalance "available balance is below required balance"
      else accept

def evaluate (marketStatus : MarketStatus) (price : Option ℚ) (quantity : ℚ)
    (requiredBalance availableBalance : Option ℚ) : Result RejectionDecision := do
  parseOptionalNonnegative "required_balance" requiredBalance
  parseOptionalNonnegative "available_balance" availableBalance
  match price with
  | none => pure (reject .invalidPrice "price is required")
  | some price =>
      if price < 0 then pure (reject .invalidPrice "price must be nonnegative")
      else if price < model.minPrice then pure (reject .invalidPrice "price is below the minimum")
      else if ∃ maxPrice ∈ model.maxPrice, maxPrice < price then
        pure (reject .invalidPrice "price is above the maximum")
      else if quantity ≤ 0 then pure (reject .invalidQuantity "quantity must be positive")
      else if quantity < model.minQuantity then pure (reject .invalidQuantity "quantity is below the minimum")
      else if ∃ maxQuantity ∈ model.maxQuantity, maxQuantity < quantity then
        pure (reject .invalidQuantity "quantity is above the maximum")
      else if marketStatus ∉ model.openStatuses then pure (reject .marketClosed "market is not open for trading")
      else pure (evaluateBalance requiredBalance availableBalance)

/-- Price, quantity and market status pass. -/
structure OtherChecksPass (marketStatus : MarketStatus) (price quantity : ℚ) : Prop where
  min_price : model.minPrice ≤ price
  max_price : ∀ maxPrice ∈ model.maxPrice, price ≤ maxPrice
  min_quantity : model.minQuantity ≤ quantity
  max_quantity : ∀ maxQuantity ∈ model.maxQuantity, quantity ≤ maxQuantity
  market_open : marketStatus ∈ model.openStatuses

variable {model} {marketStatus : MarketStatus} {price quantity : ℚ}

/-- With the other checks passed, a negative balance raises and any other is left to the balance check. -/
theorem evaluate_of_otherChecksPass (h : model.OtherChecksPass marketStatus price quantity)
    (requiredBalance availableBalance : Option ℚ) :
    model.evaluate marketStatus (some price) quantity requiredBalance availableBalance =
      (do parseOptionalNonnegative "required_balance" requiredBalance
          parseOptionalNonnegative "available_balance" availableBalance
          pure (evaluateBalance requiredBalance availableBalance)) := by
  have hprice : ¬price < 0 := not_lt.mpr (model.minPrice_nonneg.trans h.min_price)
  have hmaxPrice : ¬∃ maxPrice ∈ model.maxPrice, maxPrice < price := by
    rintro ⟨maxPrice, hmem, hlt⟩
    exact not_lt.mpr (h.max_price maxPrice hmem) hlt
  have hquantity : ¬quantity ≤ 0 := not_le.mpr (model.minQuantity_pos.trans_le h.min_quantity)
  have hmaxQuantity : ¬∃ maxQuantity ∈ model.maxQuantity, maxQuantity < quantity := by
    rintro ⟨maxQuantity, hmem, hlt⟩
    exact not_lt.mpr (h.max_quantity maxQuantity hmem) hlt
  unfold evaluate
  dsimp only
  rw [if_neg hprice, if_neg (not_lt.mpr h.min_price), if_neg hmaxPrice, if_neg hquantity,
    if_neg (not_lt.mpr h.min_quantity), if_neg hmaxQuantity, if_neg (not_not.mpr h.market_open)]

theorem evaluateBalance_rejected (required available : ℚ) :
    (evaluateBalance (some required) (some available)).rejected = true ↔ available < required := by
  unfold evaluateBalance
  dsimp only
  split_ifs with h
  · exact ⟨fun _ => h, fun _ => rfl⟩
  · exact ⟨fun hfalse => Bool.noConfusion hfalse, fun hlt => absurd hlt h⟩

end BoundedRejectionModel

/-! ## The balance of an intent -/

/-- `_required_balance_for_intent`: a sell is charged for the complement of its price. -/
def requiredBalanceForIntent (ctx : DecimalContext) (intent : OrderIntent) : Option ℚ :=
  match intent.limitPrice with
  | none => none
  | some limitPrice =>
      if limitPrice < 0 ∨ 1 < limitPrice then none
      else
        let exposurePrice := if intent.side = .buy then limitPrice else ctx.sub 1 limitPrice
        some (ctx.mul exposurePrice intent.quantity)

end Pmrp
