import MarginLending.Json.Reader
import MarginLending.Parameters
import MarginLending.Wire.Scalar

/-!
The JSON form of parameters: a record of all seven of them.
-/

namespace MarginLending.Parameters

/-- The names of the fields, in order. -/
def fieldNames : List String :=
  ["max_leverage", "interest_rate", "fee", "swap_fee", "mc_slippage", "position_min_amount",
    "quote_limit"]

/-- A record of all parameters; none is left out. -/
def toJson (parameters : Parameters) : Json :=
  .record
    [("max_leverage", .nat parameters.maxLeverage),
      ("interest_rate", parameters.interestRate.toJson),
      ("fee", parameters.fee.toJson),
      ("swap_fee", parameters.swapFee.toJson),
      ("mc_slippage", parameters.liquidationSlippage.toJson),
      ("position_min_amount", .nat parameters.minimumAmount),
      ("quote_limit", .nat parameters.quoteLimit)]

/-- Parameters in range of their types. Whether they are acceptable is not checked here. -/
def ofJson? (json : Json) : Option Parameters := do
  let fields ← json.fields? fieldNames
  return {
    maxLeverage := ← fields.get? "max_leverage" Json.short?
    interestRate := ← fields.get? "interest_rate" Decimal.ofJson?
    fee := ← fields.get? "fee" Decimal.ofJson?
    swapFee := ← fields.get? "swap_fee" Decimal.ofJson?
    liquidationSlippage := ← fields.get? "mc_slippage" Decimal.ofJson?
    minimumAmount := ← fields.get? "position_min_amount" Json.amount?
    quoteLimit := ← fields.get? "quote_limit" Json.amount?
  }

/-- Reads a whole JSON text. -/
def read? (text : String) : Option Parameters :=
  (Json.read? text).bind ofJson?

/-- The compact JSON text. -/
def write (parameters : Parameters) : String := parameters.toJson.write

end MarginLending.Parameters
