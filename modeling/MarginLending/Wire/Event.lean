import MarginLending.Event
import MarginLending.Wire.Position
import MarginLending.Wire.Scalar

/-!
The JSON form of reports: number, time, and the variant of what happened with a record of its
details.
-/

namespace MarginLending

/-- The name of an asset. -/
def Asset.toJson : Asset → Json
  | .base => .string "Base"
  | .quote => .string "Quote"

/-- The name of a mode. -/
def Mode.toJson : Mode → Json
  | .regular => .string "Regular"
  | .shortEmergency => .string "ShortEmergency"
  | .longEmergency => .string "LongEmergency"

/-- The name of who absorbs a loss. -/
def LossAbsorber.toJson : LossAbsorber → Json
  | .counterparties => .string "Counterparties"
  | .sameSide => .string "SameSide"

/-- Who moved what for whom. -/
def TransferEvent.toJson (transfer : TransferEvent) : Json :=
  .record
    [("account", transfer.account.toJson),
      ("position_owner", transfer.owner.toJson),
      ("amount", .nat transfer.amount),
      ("discounted_amount", .nat transfer.discountedAmount)]

/-- Who traded what, and what became of the position. -/
def TradeEvent.toJson (trade : TradeEvent) : Json :=
  .record
    [("account", trade.account.toJson),
      ("base_amount", .nat trade.baseAmount),
      ("quote_amount", .nat trade.quoteAmount),
      ("fee", .nat trade.fee),
      ("kind_before", trade.kindBefore.toJson),
      ("kind_after", trade.kindAfter.toJson)]

/-- What was seized from whom, and what it paid for. -/
def MarginCallEvent.toJson (call : MarginCallEvent) : Json :=
  .record
    [("account", call.account.toJson),
      ("kind", call.kind.toJson),
      ("collateral_seized", .nat call.collateralSeized),
      ("debt_closed", .nat call.debtClosed),
      ("surplus", .nat call.surplus),
      ("shortfall", .nat call.shortfall)]

/-- Who took over from whom and for what. -/
def TakeoverEvent.toJson (takeover : TakeoverEvent) : Json :=
  .record
    [("liquidator", takeover.liquidator.toJson),
      ("liquidated", takeover.liquidated.toJson),
      ("kind_after", takeover.kindAfter.toJson),
      ("quote_amount", .nat takeover.quoteAmount),
      ("base_amount", .nat takeover.baseAmount)]

/-- Which loss was placed, and where. -/
def DeleverageEvent.toJson (loss : DeleverageEvent) : Json :=
  .record
    [("asset", loss.asset.toJson),
      ("shortfall", .nat loss.shortfall),
      ("absorbed_by", loss.absorbedBy.toJson),
      ("debt_relieved", .nat loss.debtRelieved),
      ("delev_coeff", loss.chargeCoeff.toJson)]

namespace EventPayload

/-- The name of the variant. -/
def variantName : EventPayload → String
  | .deposit .base _ => "DepositBase"
  | .deposit .quote _ => "DepositQuote"
  | .withdraw .base _ => "WithdrawBase"
  | .withdraw .quote _ => "WithdrawQuote"
  | .short _ => "Short"
  | .long _ => "Long"
  | .closePosition _ => "ClosePosition"
  | .sellCollateral _ => "SellCollateral"
  | .reinit .. => "Reinit"
  | .marginCall _ => "MarginCall"
  | .receivePosition _ => "ReceivePosition"
  | .deleverage _ => "Deleverage"
  | .emergencyTripped .. => "EmergencyTripped"
  | .emergencyWithdraw .. => "EmergencyWithdraw"
  | .parametersChanged .. => "ParametersChanged"

/-- The details of what happened. -/
def details : EventPayload → Json
  | .deposit _ transfer | .withdraw _ transfer => transfer.toJson
  | .short trade | .long trade | .closePosition trade | .sellCollateral trade => trade.toJson
  | .reinit elapsedSeconds leverage =>
      .record
        [("elapsed_seconds", .nat elapsedSeconds),
          ("short_leverage", leverage.base.toJson),
          ("long_leverage", leverage.quote.toJson)]
  | .marginCall call => call.toJson
  | .receivePosition takeover => takeover.toJson
  | .deleverage loss => loss.toJson
  | .emergencyTripped mode balances =>
      .record
        [("mode", mode.toJson),
          ("base_balance", .nat balances.base),
          ("quote_balance", .nat balances.quote)]
  | .emergencyWithdraw account amounts =>
      .record
        [("account", account.toJson),
          ("base_amount", .nat amounts.base),
          ("quote_amount", .nat amounts.quote)]
  | .parametersChanged account maxLeverage =>
      .record [("by", account.toJson), ("max_leverage", .nat maxLeverage)]

end EventPayload

namespace Event

/-- Number, time and payload. -/
def toJson (event : Event) : Json :=
  .record
    [("id", .nat event.id),
      ("timestamp", .nat event.timestamp.seconds),
      ("payload", .record [(event.payload.variantName, event.payload.details)])]

/-- The compact JSON text. -/
def write (event : Event) : String := event.toJson.write

end Event

end MarginLending
