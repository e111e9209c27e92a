import MarginLending.Error

/-!
Calls on the pool in two forms: the flat request that callers send, with one set of fields for all
kinds of call, and the typed call that the pool runs. Turning the one into the other refuses fields
that make no sense for the kind.
-/

namespace MarginLending

/-- The kinds of call. -/
inductive CallKind where
  | depositBase
  | depositQuote
  | withdrawBase
  | withdrawQuote
  | short
  | long
  | closePosition
  | reinit
  | receivePosition
  | emergencyWithdraw
  | sellCollateral
  deriving DecidableEq, Repr

/-- A request as callers send it. The price limit is quote per base. The owner names the account a
deposit is booked to or the account that is taken over.
-/
structure Request where
  kind : CallKind
  amount1 : Nat
  amount2 : Nat
  priceLimit : Q96
  unwrap : Bool
  owner : Option AccountId
  route : Nat
  deriving DecidableEq, Repr

/-- A request of a kind with everything else left out. -/
def Request.ofKind (kind : CallKind) : Request :=
  ⟨kind, 0, 0, .zero, false, none, 0⟩

/-- One operation of the pool. Amounts are real token units; a traded amount is always base, and
withdrawing the largest amount takes all there is.
-/
inductive Call where
  | depositBase (amount longAmount : Nat) (limitPrice : Q96) (owner : Option AccountId)
  | depositQuote (amount shortAmount : Nat) (limitPrice : Q96) (owner : Option AccountId)
  | withdrawBase (amount : Nat) (unwrap : Bool)
  | withdrawQuote (amount : Nat) (unwrap : Bool)
  | short (amount : Nat) (limitPrice : Q96)
  | long (amount : Nat) (limitPrice : Q96)
  | closePosition (limitPrice : Q96)
  | sellCollateral (amount : Nat) (limitPrice : Q96)
  | reinit
  | receivePosition (badAccount : AccountId) (quoteAmount baseAmount : Nat)
  | emergencyWithdraw (unwrap : Bool)
  deriving DecidableEq, Repr

namespace CallKind

/-- Whether a call of this kind pays collateral in for somebody. -/
def isDeposit : CallKind → Bool
  | .depositBase | .depositQuote => true
  | _ => false

/-- The name of a kind in requests. -/
def name : CallKind → String
  | .depositBase => "deposit_base"
  | .depositQuote => "deposit_quote"
  | .withdrawBase => "withdraw_base"
  | .withdrawQuote => "withdraw_quote"
  | .short => "short"
  | .long => "long"
  | .closePosition => "close_position"
  | .reinit => "reinit"
  | .receivePosition => "receive_position"
  | .emergencyWithdraw => "emergency_withdraw"
  | .sellCollateral => "sell_collateral"

/-- All kinds of call. -/
def all : List CallKind :=
  [.depositBase, .depositQuote, .withdrawBase, .withdrawQuote, .short, .long, .closePosition,
    .reinit, .receivePosition, .emergencyWithdraw, .sellCollateral]

/-- The kind with a name. -/
def ofName? (name : String) : Option CallKind :=
  all.find? fun kind => kind.name == name

/-- Names tell kinds apart, by inspecting all of them. -/
theorem ofName?_name (kind : CallKind) : ofName? kind.name = some kind := by
  cases kind <;> decide

end CallKind

namespace Call

/-- The kind of a call. -/
def kind : Call → CallKind
  | .depositBase .. => .depositBase
  | .depositQuote .. => .depositQuote
  | .withdrawBase .. => .withdrawBase
  | .withdrawQuote .. => .withdrawQuote
  | .short .. => .short
  | .long .. => .long
  | .closePosition .. => .closePosition
  | .sellCollateral .. => .sellCollateral
  | .reinit => .reinit
  | .receivePosition .. => .receivePosition
  | .emergencyWithdraw .. => .emergencyWithdraw

/-- Whether the reserved fee account may make a call: it moves collateral and never trades. -/
def allowedForFeeHolder : Call → Bool
  | .depositBase _ longAmount _ _ => longAmount == 0
  | .depositQuote _ shortAmount _ _ => shortAmount == 0
  | .withdrawBase .. | .withdrawQuote .. | .emergencyWithdraw .. => true
  | _ => false

/-- The call that a request asks for. An owner goes with a deposit that opens nothing or with a
takeover, which needs one; a second amount goes with a deposit or a takeover.
-/
def ofRequest (request : Request) : Except PoolError Call :=
  let deposit := request.kind.isDeposit
  let receive := request.kind == .receivePosition
  if request.owner.isSome && !receive && !(deposit && request.amount2 == 0) then
    .error .forbidden
  else if request.amount2 != 0 && !(deposit || receive) then
    .error (.wrongValue "amount2 is not used by this call")
  else
    match request.kind with
    | .depositBase =>
        .ok (.depositBase request.amount1 request.amount2 request.priceLimit request.owner)
    | .depositQuote =>
        .ok (.depositQuote request.amount1 request.amount2 request.priceLimit request.owner)
    | .withdrawBase => .ok (.withdrawBase request.amount1 request.unwrap)
    | .withdrawQuote => .ok (.withdrawQuote request.amount1 request.unwrap)
    | .short => .ok (.short request.amount1 request.priceLimit)
    | .long => .ok (.long request.amount1 request.priceLimit)
    | .closePosition => .ok (.closePosition request.priceLimit)
    | .sellCollateral => .ok (.sellCollateral request.amount1 request.priceLimit)
    | .reinit => .ok .reinit
    | .receivePosition =>
        match request.owner with
        | some account => .ok (.receivePosition account request.amount1 request.amount2)
        | none => .error (.wrongValue "position_owner names the account to receive")
    | .emergencyWithdraw => .ok (.emergencyWithdraw request.unwrap)

end Call

end MarginLending
