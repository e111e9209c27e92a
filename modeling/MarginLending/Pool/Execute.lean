import MarginLending.Pool.Liquidation
import MarginLending.Pool.Takeover
import MarginLending.Pool.Transfer

/-!
The pool's entry points: running a call, changing the parameters, and shutting down an insolvent
pool. Each first brings the book up to date, and each goes through as a whole or not at all.
-/

namespace MarginLending.Pool

variable {V : Type} [Venue V]

/-- What is fixed for a call that starts now. -/
def startTerms (caller : AccountId) (route : Nat) : PoolM V Terms := do
  let price ← readPrice
  return ⟨caller, price, route, (← get).now⟩

/-- The operation that a call asks for, on a book that is up to date. What nothing checks is
computed in a given way.
-/
def operateBy (compute : Arithmetic) (terms : Terms) : Call → PoolM V Outcome
  | .depositBase amount longAmount limitPrice owner =>
      depositBy compute terms .base amount longAmount limitPrice owner
  | .depositQuote amount shortAmount limitPrice owner =>
      depositBy compute terms .quote amount shortAmount limitPrice owner
  | .withdrawBase amount _ => withdrawBy compute terms .base amount
  | .withdrawQuote amount _ => withdrawBy compute terms .quote amount
  | .short amount limitPrice => shortBy compute terms terms.caller amount limitPrice
  | .long amount limitPrice => longBy compute terms terms.caller amount limitPrice
  | .closePosition limitPrice => closePosition terms limitPrice
  | .sellCollateral amount limitPrice => sellCollateral terms amount limitPrice
  | .reinit => do
      return { Outcome.nothing with heapIndex := (← readBook).heapIndexOf terms.caller }
  | .receivePosition badAccount quoteAmount baseAmount =>
      takeOver terms badAccount quoteAmount baseAmount
  | .emergencyWithdraw _ => throw .notEmergency

/-- The operation that a call asks for. -/
def operate (terms : Terms) (call : Call) : PoolM V Outcome :=
  operateBy Unchecked.carryOut terms call

/-- Brings the book up to date and runs the operation, unless the caller was liquidated or the pool
froze on the way.
-/
def runRegular (caller : AccountId) (call : Call) (route : Nat) : PoolM V Outcome := do
  let terms ← startTerms caller route
  let marginCalled ← bringUpToDate terms
  if marginCalled || (← readBook).mode.isEmergency then
    return { Outcome.nothing with marginCalled }
  operate terms call

/-- Runs a call. In a frozen pool only the way out is open. -/
def dispatch (caller : AccountId) (call : Call) (route : Nat) : PoolM V Outcome := do
  if caller.isFeeHolder && !call.allowedForFeeHolder then throw .forbidden
  if (← readBook).mode.isEmergency then
    match call with
    | .emergencyWithdraw _ => emergencyWithdraw caller
    | _ => throw .emergencyMode
  else
    runRegular caller call route

/-- Runs a call whose swaps take a route. -/
def executeRouted (caller : AccountId) (call : Call) (route : Nat) : PoolM V Outcome :=
  atomically (dispatch caller call route)

/-- Runs a call. -/
def executeCall (caller : AccountId) (call : Call) : PoolM V Outcome :=
  executeRouted caller call 0

/-- Turns a request into a call and runs it. -/
def execute (caller : AccountId) (request : Request) : PoolM V Outcome := do
  let call ← (Call.ofRequest request : Except PoolError Call)
  executeRouted caller call request.route

/-- Replaces the parameters, for the administrator. Interest up to now accrues by the old ones. -/
def setParameters (caller : AccountId) (parameters : Parameters) : PoolM V Unit := do
  if caller ≠ (← get).options.admin then throw (.accessDenied caller)
  if let some error := parameters.violation? then throw (.parameters error)
  atomically do
    if !(← readBook).mode.isEmergency then
      let price ← readPrice
      let _ ← (Book.accrue (← get).now price : BookM Bool)
    (modify fun book => { book with parameters } : BookM Unit)
    record (.parametersChanged caller parameters.maxLeverage)

/-- The asset whose debtors as a whole cannot pay any more, shorts first. -/
def insolventSide? (book : Book) (price : Q96) : Except PoolError (Option Asset) := do
  let short ← book.isInsolvent .base price
  let long ← book.isInsolvent .quote price
  return if short then some .base else if long then some .quote else none

/-- Freezes the pool if a side's collateral is worth less than its debt. Anyone may ask for it. -/
def shutDown (caller : AccountId) : PoolM V Mode :=
  atomically do
    if (← readBook).mode.isEmergency then throw .emergencyMode
    let terms ← startTerms caller 0
    let _ ← bringUpToDate terms
    let book ← readBook
    if book.mode.isEmergency then return book.mode
    match ← (insolventSide? book terms.price : Except PoolError (Option Asset)) with
    | some debtAsset =>
        freeze terms debtAsset
        return (← readBook).mode
    | none => throw .notEmergency

end MarginLending.Pool
