import MarginLending.Pool.Freeze
import MarginLending.Pool.Unchecked

/-!
Margin calls. All of a position's collateral is sold for the asset it owes; what comes in above the
debt goes to that asset's lenders. Collateral that cannot be sold is kept as it is.

Debt that stays unpaid is charged to the borrowers of the other asset: their collateral in the
unpaid asset is cut in proportion to their debt, and the kept collateral writes that debt down. If
they cannot bear it, the remaining borrowers of the same asset take it on, and if there are none the
pool freezes.
-/

namespace MarginLending

/-- What a margin call got for seized collateral, against the debt it closes. -/
structure Recovery where
  surplus : Nat
  shortfall : Nat
  /-- Seized collateral that stays in the pool unsold. -/
  kept : Nat

/-- Compares the proceeds of a sale with a debt; without a sale the collateral is kept. The
difference is computed in a given way.
-/
def Recovery.ofBy (compute : Arithmetic) (proceeds : Option Nat) (debt seized : Nat)
    : Except PoolError Recovery := do
  match proceeds with
  | some proceeds =>
      if debt ≤ proceeds then return ⟨← compute (.difference proceeds debt), 0, 0⟩
      else return ⟨0, ← compute (.difference debt proceeds), 0⟩
  | none => return ⟨0, debt, seized⟩

/-- What the comparison comes to, with differences cut off at zero. -/
def Recovery.of (proceeds : Option Nat) (debt seized : Nat) : Recovery :=
  match proceeds with
  | some proceeds => ⟨proceeds - debt, debt - proceeds, 0⟩
  | none => ⟨0, debt, seized⟩

/-- The lesser of proceeds and debt is taken from the greater, so the comparison never stops. -/
theorem Recovery.ofBy_carryOut (proceeds : Option Nat) (debt seized : Nat)
    : ofBy Unchecked.carryOut proceeds debt seized = .ok (of proceeds debt seized) := by
  unfold ofBy of
  cases proceeds with
  | none => rfl
  | some proceeds =>
      simp only
      split
      · next covers =>
          rw [Unchecked.carryOut_difference_eq_ok.mpr ⟨rfl, covers⟩, Nat.sub_eq_zero_of_le covers]
          rfl
      · next falls =>
          have less := Nat.le_of_not_le falls
          rw [Unchecked.carryOut_difference_eq_ok.mpr ⟨rfl, less⟩, Nat.sub_eq_zero_of_le less]
          rfl

namespace Book

/-- Spreads a real amount of an asset over all its lenders in proportion; without lenders it goes to
the fee holder.
-/
def shareAmongLenders (asset : Asset) (amount : Nat) : BookM Unit := do
  if amount = 0 then return
  let ledger := (← get).ledger asset
  if ledger.discountedCollateral = 0 then credit .feeHolder asset amount
  else
    modifyLedger asset fun ledger => do
      let perUnit ← Q96.ofRatio amount ledger.discountedCollateral
      return { ledger with collateralCoeff := ← ledger.collateralCoeff.add perUnit }

/-- Raises the charge coefficient of an asset so that the borrowers of the other asset, who owe the
given discounted amount, bear the shortfall.
-/
def chargeBorrowers (asset : Asset) (shortfall owed : Nat) : BookM Unit :=
  modifyLedger asset fun ledger => do
    let cut ← mulDivUp shortfall Q96.unit owed
    return { ledger with chargeCoeff := ← ledger.chargeCoeff.add ⟨cut⟩ }

/-- Writes an amount of an asset's debt off, in proportion for all who owe it. -/
def relieveDebt (asset : Asset) (amount owed : Nat) : BookM Unit := do
  if 0 < amount then
    modifyLedger asset fun ledger => do
      let perUnit ← Q96.ofRatio amount owed
      return { ledger with debtRelief := ← ledger.debtRelief.add perUnit }

/-- Raises the debt coefficient of an asset so that those who owe it take on the shortfall. -/
def raiseDebt (asset : Asset) (shortfall owed : Nat) : BookM Unit :=
  modifyLedger asset fun ledger => do
    let perUnit ← mulDivUp shortfall Q96.unit owed
    return { ledger with debtCoeff := ← ledger.debtCoeff.add ⟨perUnit⟩ }

end Book

namespace Pool

variable {V : Type}

/-- Sells seized collateral for the other asset and answers the proceeds. None when it is kept: the
pool does not hold that much, or the venue does not fill at the liquidation floor.
-/
def sellSeized [Venue V] (terms : Terms) (asset : Asset) (seized : Nat)
    : PoolM V (Option Nat) := do
  if seized = 0 then return some 0
  let book ← readBook
  if (book.ledger asset).balance < seized then return none
  let worth ← (
    match asset with
    | .quote => terms.price.unscale seized
    | .base => terms.price.scale seized : Except MathError Nat)
  let floor ← (book.parameters.liquidationFloor worth : Except MathError Nat)
  let order := SwapOrder.sell asset seized floor terms.route
  match ← attempt (swap order) with
  | .ok fill =>
      Book.settle order fill
      return some fill.amountOut
  | .error _ => return none

/-- Charges a shortfall of an asset to the remaining borrowers of the same asset, or freezes the
pool if there are none. The kept collateral goes to its lenders.
-/
def chargeSameSide (terms : Terms) (asset : Asset) (shortfall kept : Nat) : PoolM V Unit := do
  Book.shareAmongLenders asset.other kept
  let ledger := (← readBook).ledger asset
  if ledger.discountedDebt = 0 then freeze terms asset
  else
    Book.raiseDebt asset shortfall ledger.discountedDebt
    record (.deleverage ⟨asset, shortfall, .sameSide, 0, ledger.chargeCoeff⟩)

section Computing

-- What nothing checks is computed in a given way

variable [Venue V] (compute : Arithmetic) (terms : Terms)

/-- Charges a shortfall of an asset to the borrowers of the other one, and writes the kept
collateral off their debt. One unit of that debt always stays, so its coefficient stays positive.
-/
def chargeCounterpartiesBy (asset : Asset) (shortfall kept : Nat) : PoolM V Unit := do
  let other := asset.other
  let owed := ((← readBook).ledger other).discountedDebt
  Book.chargeBorrowers asset shortfall owed
  let book ← readBook
  let debt ← (book.ledger other).totalRealDebt
  let relieved := min kept (debt - 1)
  Book.relieveDebt other relieved owed
  let unrelieved ← compute (.difference kept relieved)
  Book.shareAmongLenders other unrelieved
  record (.deleverage
    ⟨asset, shortfall, .counterparties, relieved, (book.ledger asset).chargeCoeff⟩)

/-- Finds who bears a shortfall of an asset. -/
def placeShortfallBy (asset : Asset) (shortfall kept : Nat) : PoolM V Unit := do
  let book ← readBook
  let capacity ← book.borrowersCollateral asset
  if 0 < (book.ledger asset.other).discountedDebt ∧ shortfall < capacity then
    chargeCounterpartiesBy compute asset shortfall kept
  else
    chargeSameSide terms asset shortfall kept

/-- Liquidates an account's position, whatever the venue answers. -/
def marginCallBy (account : AccountId) : PoolM V Unit := do
  let book ← readBook
  let some position := book.position? account | throw (.uninitializedPosition account)
  let some debtAsset := position.kind.debtAsset? | throw .wrongPositionType
  let seized ← book.collateralIn position debtAsset.other
  let debt ← book.debtIn position debtAsset
  Book.removePosition account
  let recovery ← Recovery.ofBy compute (← sellSeized terms debtAsset.other seized) debt seized
  if 0 < recovery.surplus then Book.shareAmongLenders debtAsset recovery.surplus
  record (.marginCall
    ⟨account, position.kind, seized, debt, recovery.surplus, recovery.shortfall⟩)
  if 0 < recovery.shortfall then
    placeShortfallBy compute terms debtAsset recovery.shortfall recovery.kept

end Computing

/-- Charges a shortfall of an asset to the borrowers of the other one, and writes the kept
collateral off their debt.
-/
def chargeCounterparties (asset : Asset) (shortfall kept : Nat) : PoolM V Unit :=
  chargeCounterpartiesBy Unchecked.carryOut asset shortfall kept

/-- Finds who bears a shortfall of an asset. -/
def placeShortfall (terms : Terms) (asset : Asset) (shortfall kept : Nat) : PoolM V Unit :=
  placeShortfallBy Unchecked.carryOut terms asset shortfall kept

/-- Liquidates an account's position, whatever the venue answers. -/
def marginCall [Venue V] (terms : Terms) (account : AccountId) : PoolM V Unit :=
  marginCallBy Unchecked.carryOut terms account

-----
-- The liquidation pass
-----

/-- Whether the root of a heap is over the leverage bound, or its side as a whole is. -/
def rootIsDue (terms : Terms) (debtAsset : Asset) (root : HeapNode) (book : Book)
    : Except PoolError Bool := do
  let rootBad ←
    match book.position? root.account with
    | some position => book.isLiquidatable position terms.price
    | none => .ok false
  let system ← book.systemLeverage debtAsset terms.price
  return rootBad || decide (book.parameters.leverageBound < system)

/-- Liquidates the root of one heap while it is due, and adds the accounts to those already
liquidated. Each step takes a node out of the heap, so the fuel is the number of its nodes.
-/
def sweepHeap [Venue V] (terms : Terms) (debtAsset : Asset)
    : Nat → List AccountId → PoolM V (List AccountId)
  | 0, liquidated => return liquidated
  | fuel + 1, liquidated => do
      let book ← readBook
      if book.mode.isEmergency then return liquidated
      match (book.heap debtAsset).peek? with
      | none => return liquidated
      | some root =>
          if ← rootIsDue terms debtAsset root book then
            marginCall terms root.account
            sweepHeap terms debtAsset fuel (root.account :: liquidated)
          else
            return liquidated

/-- Sweeps one heap. -/
def sweepSide [Venue V] (terms : Terms) (debtAsset : Asset) (liquidated : List AccountId)
    : PoolM V (List AccountId) := do
  sweepHeap terms debtAsset ((← readBook).heap debtAsset).size liquidated

/-- Sweeps both heaps until a sweep liquidates nobody, because a loss on one side moves the leverage
of the other. Every sweep but the last takes a node away, so the fuel is one more than the number of
nodes.
-/
def sweepBoth [Venue V] (terms : Terms) : Nat → List AccountId → PoolM V (List AccountId)
  | 0, liquidated => return liquidated
  | fuel + 1, liquidated => do
      let swept ← sweepSide terms .base liquidated
      let swept ← sweepSide terms .quote swept
      if (← readBook).mode.isEmergency || swept.length == liquidated.length then return swept
      sweepBoth terms fuel swept

/-- Liquidates positions until both roots and both sides are within the leverage bound, and answers
the liquidated accounts, the latest first. Stops early when the pool freezes.
-/
def liquidateDue [Venue V] (terms : Terms) : PoolM V (List AccountId) := do
  let book ← readBook
  let liquidated ← sweepBoth terms ((book.heap .base).size + (book.heap .quote).size + 1) []
  if (← readBook).mode.isEmergency then return liquidated
  Book.refreshLeverage terms.price
  return liquidated

/-- Accrues up to the time of the call and liquidates whatever is due. Answers whether the caller's
own position was liquidated; it is looked at even when it is not a root.
-/
def bringUpToDate [Venue V] (terms : Terms) : PoolM V Bool := do
  let elapsed := terms.now.since (← readBook).lastAccrual
  let accrued ← (Book.accrue terms.now terms.price : BookM Bool)
  if !accrued then return false
  record (.reinit elapsed (← readBook).leverage)
  let liquidated ← liquidateDue terms
  if liquidated.contains terms.caller then return true
  let book ← readBook
  if book.mode.isEmergency then return false
  let due ← (
    match book.position? terms.caller with
    | some position =>
        if position.heapIndex ≠ 0 then book.isLiquidatable position terms.price else .ok false
    | none => .ok false : Except PoolError Bool)
  if due then
    marginCall terms terms.caller
    Book.refreshLeverage terms.price
  return due

end Pool

end MarginLending
