import MarginLending.Emergency
import MarginLending.Position
import MarginLending.Timestamp

/-!
What the pool reports about committed calls. Amounts are real token units.
-/

namespace MarginLending

/-- Collateral moved in or out. The owner is the account it was booked to. -/
structure TransferEvent where
  account : AccountId
  owner : AccountId
  amount : Nat
  discountedAmount : Nat
  deriving DecidableEq, Repr

/-- A trade through the venue; the quote amount is before the fee. -/
structure TradeEvent where
  account : AccountId
  baseAmount : Nat
  quoteAmount : Nat
  fee : Nat
  kindBefore : PositionKind
  kindAfter : PositionKind
  deriving DecidableEq, Repr

/-- A liquidation. The surplus goes to lenders, the shortfall is what stayed unpaid. -/
structure MarginCallEvent where
  account : AccountId
  kind : PositionKind
  collateralSeized : Nat
  debtClosed : Nat
  surplus : Nat
  shortfall : Nat
  deriving DecidableEq, Repr

/-- A bad position taken over by somebody else. -/
structure TakeoverEvent where
  liquidator : AccountId
  liquidated : AccountId
  kindAfter : PositionKind
  quoteAmount : Nat
  baseAmount : Nat
  deriving DecidableEq, Repr

/-- Who takes what a liquidation could not recover: the borrowers of the other asset, or the
remaining borrowers of the same one.
-/
inductive LossAbsorber where
  | counterparties
  | sameSide
  deriving DecidableEq, Repr

/-- A loss placed on borrowers. -/
structure DeleverageEvent where
  asset : Asset
  shortfall : Nat
  absorbedBy : LossAbsorber
  debtRelieved : Nat
  chargeCoeff : Q96
  deriving DecidableEq, Repr

/-- What happened. -/
inductive EventPayload where
  | deposit (asset : Asset) (transfer : TransferEvent)
  | withdraw (asset : Asset) (transfer : TransferEvent)
  | short (trade : TradeEvent)
  | long (trade : TradeEvent)
  | closePosition (trade : TradeEvent)
  | sellCollateral (trade : TradeEvent)
  | reinit (elapsedSeconds : Nat) (leverage : PerAsset Q96)
  | marginCall (call : MarginCallEvent)
  | receivePosition (takeover : TakeoverEvent)
  | deleverage (loss : DeleverageEvent)
  | emergencyTripped (mode : Mode) (balances : PerAsset Nat)
  | emergencyWithdraw (account : AccountId) (amounts : PerAsset Nat)
  | parametersChanged (account : AccountId) (maxLeverage : Nat)
  deriving DecidableEq, Repr

/-- A numbered report. -/
structure Event where
  id : Nat
  timestamp : Timestamp
  payload : EventPayload
  deriving DecidableEq, Repr

end MarginLending
