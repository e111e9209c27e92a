import MarginLending.Book.Balances

/-!
What positions and sides are worth. Real amounts come from the ledgers; a price turns base into
quote. Leverage is collateral over equity, unbounded where nothing is left of the equity.
-/

namespace MarginLending

/-- Collateral over what is left of it after debt. -/
def leverageOf (collateral debt : Nat) : Except PoolError Q96 := do
  if collateral ≤ debt then return .maximum
  return ← Q96.ofRatio collateral (collateral - debt)

namespace Book

/-- Real collateral of a position in an asset, net of its charge. -/
def collateralIn (book : Book) (position : Position) (asset : Asset) : Except PoolError Nat :=
  (book.ledger asset).netCollateral (position.holding asset).collateralAmount
    (position.holding asset.other).debtAmount

/-- Real debt of a position in an asset. -/
def debtIn (book : Book) (position : Position) (asset : Asset) : Except PoolError Nat :=
  (book.ledger asset).realDebt (position.holding asset).debtAmount

/-- Real collateral of an account, zero without a position. -/
def collateralOf (book : Book) (account : AccountId) (asset : Asset) : Except PoolError Nat :=
  match book.position? account with
  | some position => book.collateralIn position asset
  | none => .ok 0

/-- Real debt of an account, zero without a position. -/
def debtOf (book : Book) (account : AccountId) (asset : Asset) : Except PoolError Nat :=
  match book.position? account with
  | some position => book.debtIn position asset
  | none => .ok 0

/-- What an account holds in an asset, or owes if it owes some. -/
def realAmount (book : Book) (account : AccountId) (asset : Asset) : Except PoolError Nat :=
  match book.position? account with
  | none => .ok 0
  | some position =>
      if (position.holding asset).isDebt then book.debtIn position asset
      else book.collateralIn position asset

/-- All real collateral in an asset, net of charges. -/
def totalCollateral (book : Book) (asset : Asset) : Except PoolError Nat := do
  let ledger := book.ledger asset
  let charged ← ledger.charge (book.ledger asset.other).discountedDebt
  let real ← ledger.realCollateral ledger.discountedCollateral
  return real - charged

/-- Collateral in an asset held by the positions that owe the other one. -/
def borrowersCollateral (book : Book) (asset : Asset) : Except PoolError Nat :=
  (book.heap asset.other).toList.foldlM (fun total node =>
    match book.position? node.account with
    | some position => do return ← Amount.add total (← book.collateralIn position asset)
    | none => .ok total) 0

/-- Leverage of a position, both sides valued in quote; one if it owes nothing. -/
def positionLeverage (book : Book) (position : Position) (price : Q96) : Except PoolError Q96 :=
  match position.kind.debtAsset? with
  | none => .ok .one
  | some debtAsset => do
      let collateral ← valued debtAsset.other price (← book.collateralIn position debtAsset.other)
      let debt ← valued debtAsset price (← book.debtIn position debtAsset)
      leverageOf collateral debt

/-- Whether a position is above the leverage bound. -/
def isLiquidatable (book : Book) (position : Position) (price : Q96) : Except PoolError Bool := do
  return decide (book.parameters.leverageBound < (← book.positionLeverage position price))

/-- Fails for an account whose position is above the leverage bound. -/
def requireLeverage (book : Book) (account : AccountId) (price : Q96) : Except PoolError Unit :=
  match book.position? account with
  | none => .ok ()
  | some position => do
      if ← book.isLiquidatable position price then throw .badLeverage

/-- Leverage of the side that owes an asset, uncapped; one if the side has no collateral. -/
def systemLeverage (book : Book) (debtAsset : Asset) (price : Q96) : Except PoolError Q96 := do
  let collateral ← valued debtAsset.other price (← book.totalCollateral debtAsset.other)
  let debt ← valued debtAsset price (← (book.ledger debtAsset).totalRealDebt)
  if collateral = 0 then return .one
  leverageOf collateral debt

/-- Whether the collateral of the side that owes an asset is worth less than its debt. -/
def isInsolvent (book : Book) (debtAsset : Asset) (price : Q96) : Except PoolError Bool := do
  let collateral ← valued debtAsset.other price (← book.totalCollateral debtAsset.other)
  let debt ← valued debtAsset price (← (book.ledger debtAsset).totalRealDebt)
  return decide (collateral < debt)

/-- Stores the leverage of both sides, capped at the bound. -/
def refreshLeverage (price : Q96) : BookM Unit := do
  let book ← get
  let bound := book.parameters.leverageBound
  let short ← book.systemLeverage .base price
  let long ← book.systemLeverage .quote price
  set { book with leverage := ⟨short.min bound, long.min bound⟩ }

/-- Collateral less debt in quote, no lower than zero. -/
def netValue (book : Book) (position : Position) (price : Q96) : Except PoolError Nat := do
  let baseHeld ← valued .base price (← book.collateralIn position .base)
  let assets ← Amount.add baseHeld (← book.collateralIn position .quote)
  let baseOwed ← valued .base price (← book.debtIn position .base)
  let liabilities ← Amount.add baseOwed (← book.debtIn position .quote)
  return assets - liabilities

/-- Worth of all positions in quote, each no lower than zero; held at the largest amount. -/
def totalNetValue (book : Book) (price : Q96) : Except PoolError Nat :=
  book.positions.values.foldlM (fun total position => do
    return Amount.addSaturating total (← book.netValue position price)) 0

end Book

end MarginLending
