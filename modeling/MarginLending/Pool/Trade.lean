import MarginLending.Pool.Basic
import MarginLending.Pool.Unchecked

/-!
Leveraged trades through the venue. A short sells base that the position borrows; a long buys base
with borrowed quote. Trading against existing debt closes it first, so a large enough trade turns
the position over, and only the part beyond the old debt pays the swap fee. Closing a position and
selling its collateral pay no fee.
-/

namespace MarginLending.Pool

variable {V : Type}

/-- The kind of an account that may trade an amount. -/
def requireTrader (book : Book) (account : AccountId) (amount : Nat)
    : Except PoolError PositionKind := do
  let kind := book.kindOf account
  if kind = .uninitialized then throw (.uninitializedPosition account)
  let minimum := book.parameters.minimumAmount
  if amount < minimum then throw (.lessThanMinimalAmount minimum)
  return kind

/-- The asset that an account owes, if its position is leveraged. -/
def requireDebtor (book : Book) (account : AccountId) : Except PoolError Asset :=
  match book.kindOf account with
  | .short => .ok .base
  | .long => .ok .quote
  | .lend => .error .wrongPositionType
  | .uninitialized => .error (.uninitializedPosition account)

/-- Ranks the position anew, holds it to the leverage bound, drops it if it is empty, and stores the
leverage of both sides.
-/
def finishTrade (terms : Terms) (account : AccountId) : PoolM V Unit := do
  Book.reseatM account
  (← readBook).requireLeverage account terms.price
  Book.dropIfEmpty account
  Book.refreshLeverage terms.price

/-- What a call that traded reports. -/
def tradeOutcome (account : AccountId) (amounts : PerAsset Nat) : PoolM V Outcome := do
  return ⟨amounts, (← readBook).heapIndexOf account, false⟩

section Computing

-- What nothing checks is computed in a given way

variable [Venue V] (compute : Arithmetic) (terms : Terms)

/-- The part of a long's cost that pays the fee: the share of base bought beyond the old debt. -/
def chargedCostBy (cost amount debt : Nat) : Except PoolError Nat := do
  if debt < amount then
    let opened ← compute (.difference amount debt)
    compute (.low (← mulDiv cost opened amount))
  else
    return 0

/-- Sells an amount of base for at least (limit price * amount) quote. -/
def shortBy (account : AccountId) (amount : Nat) (limitPrice : Q96) : PoolM V Outcome := do
  let book ← readBook
  let kindBefore ← (requireTrader book account amount : Except PoolError PositionKind)
  let quoteDebt ← (book.debtOf account .quote : Except PoolError Nat)
  let minimumOut ← (limitPrice.scale amount : Except MathError Nat)
  let order := SwapOrder.sell .base amount minimumOut terms.route
  let fill ← swap order
  let proceeds := fill.amountOut
  (← readBook).requireRoom .quote proceeds quoteDebt terms.price
  Book.settle order fill
  let fee ← (book.parameters.swapFeeOn (proceeds - quoteDebt) : Except MathError Nat)
  let received ← compute (.difference proceeds fee)
  Book.credit account .quote received
  Book.credit .feeHolder .quote fee
  Book.debit account .base amount
  finishTrade terms account
  let kindAfter := (← readBook).kindOf account
  record (.short ⟨account, amount, proceeds, fee, kindBefore, kindAfter⟩)
  tradeOutcome account ⟨amount, proceeds⟩

/-- Buys an amount of base for at most (limit price * amount) quote. -/
def longBy (account : AccountId) (amount : Nat) (limitPrice : Q96) : PoolM V Outcome := do
  let book ← readBook
  let kindBefore ← (requireTrader book account amount : Except PoolError PositionKind)
  let baseDebt ← (book.debtOf account .base : Except PoolError Nat)
  let maximumIn ← (limitPrice.scale amount : Except MathError Nat)
  let order := SwapOrder.buyWith .quote amount maximumIn terms.route
  let fill ← swap order
  let cost := fill.amountIn
  (← readBook).requireRoom .base amount baseDebt terms.price
  Book.settle order fill
  let charged ← chargedCostBy compute cost amount baseDebt
  let fee ← (book.parameters.swapFeeOn charged : Except MathError Nat)
  Book.credit account .base amount
  let spent ← compute (.sum cost fee)
  Book.debit account .quote spent
  Book.credit .feeHolder .quote fee
  finishTrade terms account
  let kindAfter := (← readBook).kindOf account
  record (.long ⟨account, amount, cost, fee, kindBefore, kindAfter⟩)
  tradeOutcome account ⟨amount, cost⟩

/-- The trade that buys an asset. -/
def tradeForBy (account : AccountId) (amount : Nat) (limitPrice : Q96)
    : Asset → PoolM V Outcome
  | .base => longBy compute terms account amount limitPrice
  | .quote => shortBy compute terms account amount limitPrice

end Computing

/-- The part of a long's cost that pays the fee. -/
def chargedCost (cost amount debt : Nat) : Except PoolError Nat :=
  chargedCostBy Unchecked.carryOut cost amount debt

/-- Sells an amount of base for at least (limit price * amount) quote. -/
def short [Venue V] (terms : Terms) (account : AccountId) (amount : Nat) (limitPrice : Q96)
    : PoolM V Outcome :=
  shortBy Unchecked.carryOut terms account amount limitPrice

/-- Buys an amount of base for at most (limit price * amount) quote. -/
def long [Venue V] (terms : Terms) (account : AccountId) (amount : Nat) (limitPrice : Q96)
    : PoolM V Outcome :=
  longBy Unchecked.carryOut terms account amount limitPrice

/-- The trade that buys an asset. -/
def tradeFor [Venue V] (terms : Terms) (account : AccountId) (amount : Nat) (limitPrice : Q96)
    (bought : Asset)
    : PoolM V Outcome :=
  tradeForBy Unchecked.carryOut terms account amount limitPrice bought

/-- The amounts of a trade between two assets, by asset. -/
def tradedAmounts (debtAsset : Asset) (debtAmount collateralAmount : Nat) : PerAsset Nat :=
  match debtAsset with
  | .base => ⟨debtAmount, collateralAmount⟩
  | .quote => ⟨collateralAmount, debtAmount⟩

/-- The most collateral that buying a debt back may cost at a limit price. A zero limit sets none.
-/
def closingBound (debtAsset : Asset) (debt : Nat) (limitPrice : Q96) : Except MathError Nat :=
  if limitPrice.isZero then .ok Amount.max
  else
    match debtAsset with
    | .base => limitPrice.scale debt
    | .quote => limitPrice.unscale debt

/-- Buys the caller's whole debt back with its collateral. A short pays at most the limit price, a
long receives at least it.
-/
def closePosition [Venue V] (terms : Terms) (limitPrice : Q96) : PoolM V Outcome := do
  let account := terms.caller
  let book ← readBook
  let kindBefore := book.kindOf account
  let debtAsset ← (requireDebtor book account : Except PoolError Asset)
  let debt ← (book.debtOf account debtAsset : Except PoolError Nat)
  let collateral ← (book.collateralOf account debtAsset.other : Except PoolError Nat)
  let bound ← (closingBound debtAsset debt limitPrice : Except MathError Nat)
  let order := SwapOrder.buyWith debtAsset.other debt (min bound collateral) terms.route
  let fill ← swap order
  Book.settle order fill
  Book.credit account debtAsset debt
  Book.debit account debtAsset.other fill.amountIn
  finishTrade terms account
  let kindAfter := (← readBook).kindOf account
  let amounts := tradedAmounts debtAsset debt fill.amountIn
  record (.closePosition ⟨account, amounts.base, amounts.quote, 0, kindBefore, kindAfter⟩)
  tradeOutcome account amounts

/-- The least that selling collateral may bring in at a limit price. -/
def sellingFloor (debtAsset : Asset) (sold : Nat) (limitPrice : Q96) : Except MathError Nat :=
  match debtAsset with
  | .base => if limitPrice.isZero then .ok 0 else limitPrice.unscale sold
  | .quote => limitPrice.scale sold

/-- Sells up to an amount of the caller's collateral for the asset it owes, and repays debt with the
proceeds. A short pays at most the limit price, a long receives at least it.
-/
def sellCollateral [Venue V] (terms : Terms) (amount : Nat) (limitPrice : Q96)
    : PoolM V Outcome := do
  let account := terms.caller
  if amount = 0 then throw .zeroAmount
  let book ← readBook
  let kindBefore := book.kindOf account
  let debtAsset ← (requireDebtor book account : Except PoolError Asset)
  let held ← (book.collateralOf account debtAsset.other : Except PoolError Nat)
  let sold := min amount held
  if sold = 0 then throw .zeroAmount
  let floor ← (sellingFloor debtAsset sold limitPrice : Except MathError Nat)
  let order := SwapOrder.sell debtAsset.other sold floor terms.route
  let fill ← swap order
  Book.settle order fill
  Book.credit account debtAsset fill.amountOut
  Book.debit account debtAsset.other sold
  finishTrade terms account
  let kindAfter := (← readBook).kindOf account
  let amounts := tradedAmounts debtAsset fill.amountOut sold
  record (.sellCollateral ⟨account, amounts.base, amounts.quote, 0, kindBefore, kindAfter⟩)
  tradeOutcome account amounts

end MarginLending.Pool
