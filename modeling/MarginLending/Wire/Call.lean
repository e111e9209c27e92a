import MarginLending.Call
import MarginLending.Json.Reader
import MarginLending.Wire.Scalar

/-!
The JSON forms of requests and calls. A request is one flat record. A call is its variant's name
with a record of what that variant holds; an update of the books holds nothing and is the bare
name. An owner may be left out.
-/

namespace MarginLending

namespace CallKind

/-- The bare name. -/
def toJson (kind : CallKind) : Json := .string kind.name

/-- A name on its own, or as a variant that holds nothing. -/
def ofJson? (json : Json) : Option CallKind := do
  ofName? (← json.unitVariant?)

/-- The name of a kind as a variant of typed calls. -/
def variantName : CallKind → String
  | .depositBase => "DepositBase"
  | .depositQuote => "DepositQuote"
  | .withdrawBase => "WithdrawBase"
  | .withdrawQuote => "WithdrawQuote"
  | .short => "Short"
  | .long => "Long"
  | .closePosition => "ClosePosition"
  | .reinit => "Reinit"
  | .receivePosition => "ReceivePosition"
  | .emergencyWithdraw => "EmergencyWithdraw"
  | .sellCollateral => "SellCollateral"

/-- The kind of the variant with a name. -/
def ofVariantName? (name : String) : Option CallKind :=
  all.find? fun kind => kind.variantName == name

/-- Variant names tell kinds apart, by inspecting all of them. -/
theorem ofVariantName?_variantName (kind : CallKind)
    : ofVariantName? kind.variantName = some kind := by
  cases kind <;> decide

/-- The fields of a call of this kind, in order. -/
def fieldNames : CallKind → List String
  | .depositBase => ["amount", "long_amount", "limit_price", "owner"]
  | .depositQuote => ["amount", "short_amount", "limit_price", "owner"]
  | .withdrawBase | .withdrawQuote => ["amount", "unwrap"]
  | .short | .long | .sellCollateral => ["amount", "limit_price"]
  | .closePosition => ["limit_price"]
  | .reinit => []
  | .receivePosition => ["bad_account", "quote_amount", "base_amount"]
  | .emergencyWithdraw => ["unwrap"]

end CallKind

/-- An account, or null. -/
def ownerJson : Option AccountId → Json
  | some account => account.toJson
  | none => .null

namespace Request

/-- The names of the fields, in order. -/
def fieldNames : List String :=
  ["kind", "amount1", "amount2", "price_limit", "unwrap", "position_owner", "swap_params"]

/-- A record of all fields; a missing owner is written as null. -/
def toJson (request : Request) : Json :=
  .record
    [("kind", request.kind.toJson),
      ("amount1", .nat request.amount1),
      ("amount2", .nat request.amount2),
      ("price_limit", request.priceLimit.toJson),
      ("unwrap", .bool request.unwrap),
      ("position_owner", ownerJson request.owner),
      ("swap_params", .nat request.route)]

/-- A request in range. Whether its fields go together is not checked here. -/
def ofJson? (json : Json) : Option Request := do
  let fields ← json.fields? fieldNames
  return {
    kind := ← fields.get? "kind" CallKind.ofJson?
    amount1 := ← fields.get? "amount1" Json.amount?
    amount2 := ← fields.get? "amount2" Json.amount?
    priceLimit := ← fields.get? "price_limit" Q96.ofJson?
    unwrap := ← fields.get? "unwrap" Json.bool?
    owner := ← fields.getOptional? "position_owner" AccountId.ofJson?
    route := ← fields.get? "swap_params" Json.short?
  }

/-- Reads a whole JSON text. -/
def read? (text : String) : Option Request :=
  (Json.read? text).bind ofJson?

/-- The compact JSON text. -/
def write (request : Request) : String := request.toJson.write

end Request

namespace Call

/-- What a call holds, by field. -/
def fields : Call → List (String × Json)
  | .depositBase amount longAmount limitPrice owner =>
      [("amount", .nat amount), ("long_amount", .nat longAmount),
        ("limit_price", limitPrice.toJson), ("owner", ownerJson owner)]
  | .depositQuote amount shortAmount limitPrice owner =>
      [("amount", .nat amount), ("short_amount", .nat shortAmount),
        ("limit_price", limitPrice.toJson), ("owner", ownerJson owner)]
  | .withdrawBase amount unwrap | .withdrawQuote amount unwrap =>
      [("amount", .nat amount), ("unwrap", .bool unwrap)]
  | .short amount limitPrice | .long amount limitPrice | .sellCollateral amount limitPrice =>
      [("amount", .nat amount), ("limit_price", limitPrice.toJson)]
  | .closePosition limitPrice => [("limit_price", limitPrice.toJson)]
  | .reinit => []
  | .receivePosition badAccount quoteAmount baseAmount =>
      [("bad_account", badAccount.toJson), ("quote_amount", .nat quoteAmount),
        ("base_amount", .nat baseAmount)]
  | .emergencyWithdraw unwrap => [("unwrap", .bool unwrap)]

/-- The variant with its fields, or the bare name of a call that has none. -/
def toJson (call : Call) : Json :=
  match call with
  | .reinit => .string call.kind.variantName
  | _ => .record [(call.kind.variantName, .record call.fields)]

/-- The call of a kind with the given fields. -/
def ofFields? (kind : CallKind) (fields : Json.Fields) : Option Call := do
  let amount? (name : String) := fields.get? name Json.amount?
  let limitPrice? := fields.get? "limit_price" Q96.ofJson?
  let owner? := fields.getOptional? "owner" AccountId.ofJson?
  let unwrap? := fields.get? "unwrap" Json.bool?
  match kind with
  | .depositBase =>
      return .depositBase (← amount? "amount") (← amount? "long_amount") (← limitPrice?) (← owner?)
  | .depositQuote =>
      return .depositQuote (← amount? "amount") (← amount? "short_amount") (← limitPrice?)
        (← owner?)
  | .withdrawBase => return .withdrawBase (← amount? "amount") (← unwrap?)
  | .withdrawQuote => return .withdrawQuote (← amount? "amount") (← unwrap?)
  | .short => return .short (← amount? "amount") (← limitPrice?)
  | .long => return .long (← amount? "amount") (← limitPrice?)
  | .closePosition => return .closePosition (← limitPrice?)
  | .sellCollateral => return .sellCollateral (← amount? "amount") (← limitPrice?)
  | .reinit => return .reinit
  | .receivePosition =>
      return .receivePosition (← fields.get? "bad_account" AccountId.ofJson?)
        (← amount? "quote_amount") (← amount? "base_amount")
  | .emergencyWithdraw => return .emergencyWithdraw (← unwrap?)

/-- A variant whose fields are those of its kind. -/
def ofJson? (json : Json) : Option Call := do
  let (name, content?) ← json.variant?
  match ← CallKind.ofVariantName? name, content? with
  | .reinit, none | .reinit, some .null => return .reinit
  | .reinit, some _ => none
  | kind, some content => ofFields? kind (← content.fields? kind.fieldNames)
  | _, none => none

/-- Reads a whole JSON text. -/
def read? (text : String) : Option Call :=
  (Json.read? text).bind ofJson?

/-- The compact JSON text. -/
def write (call : Call) : String := call.toJson.write

end Call

end MarginLending
