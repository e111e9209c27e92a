import MarginLending.Pool.Trade

/-!
Collateral in and out. A deposit repays debt in its asset first and may open a leveraged trade
behind it; a withdrawal only ever takes collateral.
-/

namespace MarginLending.Pool

variable {V : Type}

/-- How much discounted collateral a deposit added, given the holding before, if there was a
position, and after.
-/
def discountedGain (before : Option Holding) (after : Holding) : Nat :=
  match before with
  | some holding =>
      if holding.isDebt then after.collateralAmount
      else after.collateralAmount - holding.collateralAmount
  | none => after.collateralAmount

/-- An amount in one asset and nothing in the other. -/
def amountsIn (asset : Asset) (amount : Nat) : PerAsset Nat :=
  (PerAsset.both 0).set asset amount

/-- Who a deposit is booked to: the caller, or somebody else if nothing is opened with it. -/
def depositOwner (caller : AccountId) (leveraged : Nat) (owner : Option AccountId)
    : Except PoolError AccountId := do
  let account := owner.getD caller
  if account ≠ caller ∧ (leveraged ≠ 0 ∨ account.isFeeHolder) then throw .forbidden
  return account

/-- Books a deposit to an account and reports it. -/
def bookDeposit (terms : Terms) (asset : Asset) (amount : Nat) (owner : AccountId)
    : PoolM V Unit := do
  let book ← readBook
  let minimum := book.parameters.minimumAmount
  if book.kindOf owner = .uninitialized ∧ amount < minimum then
    throw (.lessThanMinimalAmount minimum)
  let debt ← (book.debtOf owner asset : Except PoolError Nat)
  book.requireRoom asset amount debt terms.price
  Book.payIn asset amount
  Book.credit owner asset amount
  Book.reseatM owner
  let before := (book.position? owner).map fun position => position.holding asset
  let gain :=
    match (← readBook).position? owner with
    | some position => discountedGain before (position.holding asset)
    | none => 0
  record (.deposit asset ⟨terms.caller, owner, amount, gain⟩)

/-- Deposits an amount, then opens base exposure if asked to: a long behind a base deposit, a short
behind a quote deposit. What nothing checks is computed in a given way.
-/
def depositBy [Venue V] (compute : Arithmetic) (terms : Terms) (asset : Asset)
    (amount leveraged : Nat) (limitPrice : Q96) (owner : Option AccountId)
    : PoolM V Outcome := do
  if amount = 0 then throw .zeroAmount
  let owner ← (depositOwner terms.caller leveraged owner : Except PoolError AccountId)
  bookDeposit terms asset amount owner
  let amounts := amountsIn asset amount
  if leveraged ≠ 0 then
    let trade ← tradeForBy compute terms owner leveraged limitPrice asset
    let base ← compute (.sum amounts.base trade.amounts.base)
    let quote ← compute (.sum amounts.quote trade.amounts.quote)
    return { trade with amounts := ⟨base, quote⟩ }
  else
    return ⟨amounts, (← readBook).heapIndexOf owner, false⟩

/-- Deposits an amount, then opens base exposure if asked to. -/
def deposit [Venue V] (terms : Terms) (asset : Asset) (amount leveraged : Nat)
    (limitPrice : Q96) (owner : Option AccountId)
    : PoolM V Outcome :=
  depositBy Unchecked.carryOut terms asset amount leveraged limitPrice owner

/-- Fails for an account that has nothing to withdraw an asset from: it has not started, or owes the
asset.
-/
def requireHolder (book : Book) (account : AccountId) (asset : Asset)
    : Except PoolError Unit :=
  match book.kindOf account with
  | .uninitialized => .error (.uninitializedPosition account)
  | kind => if kind.debtAsset? = some asset then .error .wrongPositionType else .ok ()

/-- Discounted collateral of an account in an asset, zero without a position. -/
def discountedCollateralOf (book : Book) (account : AccountId) (asset : Asset) : Nat :=
  match book.position? account with
  | some position => (position.holding asset).collateralAmount
  | none => 0

/-- Withdraws an amount of the caller's collateral; the largest amount takes all of it. What stays
behind is nothing or at least the minimum. What nothing checks is computed in a given way.
-/
def withdrawBy (compute : Arithmetic) (terms : Terms) (asset : Asset) (amount : Nat)
    : PoolM V Outcome := do
  let account := terms.caller
  if amount = 0 then throw .zeroAmount
  let book ← readBook
  requireHolder book account asset
  let available ← (book.collateralOf account asset : Except PoolError Nat)
  if amount ≠ Amount.max ∧ available < amount then throw .exceedsLimit
  let real := if amount = Amount.max then available else amount
  let remaining ← compute (.difference available real)
  let minimum := book.parameters.minimumAmount
  if remaining ≠ 0 ∧ remaining < minimum then throw (.lessThanMinimalAmount minimum)
  Book.debit account asset real
  Book.payOut asset real
  Book.reseatM account
  let after ← readBook
  after.requireLeverage account terms.price
  Book.dropIfEmpty account
  let taken ← compute (.difference (discountedCollateralOf book account asset)
    (discountedCollateralOf after account asset))
  record (.withdraw asset ⟨account, account, real, taken⟩)
  return ⟨amountsIn asset real, (← readBook).heapIndexOf account, false⟩

/-- Withdraws an amount of the caller's collateral. -/
def withdraw (terms : Terms) (asset : Asset) (amount : Nat) : PoolM V Outcome :=
  withdrawBy Unchecked.carryOut terms asset amount

end MarginLending.Pool
