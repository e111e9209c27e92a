import MarginLending.Book.Basic

/-!
Booking amounts. Crediting pays an account's debt first and then adds collateral; debiting uses up
collateral first and then adds debt. Every operation of the pool is built from these two and from
the token balances that back them.
-/

namespace MarginLending.Book

/-- Books a credit of a real amount. The other holding is rebased when debt was repaid. -/
def credit (account : AccountId) (asset : Asset) (real : Nat) : BookM Unit := do
  if real = 0 then return
  let book ← get
  let position := (book.position? account).getD .empty
  let before := position.holding asset
  let (after, ledger) ← (book.ledger asset).creditHolding before real
  let after := after.normalized
  let (other, otherLedger) ← (book.ledger asset.other).rebase (position.holding asset.other)
    before.debtAmount after.debtAmount
  set (((book.setLedger asset ledger).setLedger asset.other otherLedger).putPosition account
    ((position.setHolding asset after).setHolding asset.other other))

/-- Books a debit of a real amount. The other holding is rebased when debt was added, and no account
may owe both assets.
-/
def debit (account : AccountId) (asset : Asset) (real : Nat) : BookM Unit := do
  if real = 0 then return
  let book ← get
  let position := (book.position? account).getD .empty
  let before := position.holding asset
  let charge ← (book.ledger asset).charge (position.holding asset.other).debtAmount
  let (after, ledger) ← (book.ledger asset).debitHolding before real charge
  let after := after.normalized
  let (other, otherLedger) ← (book.ledger asset.other).rebase (position.holding asset.other)
    before.debtAmount after.debtAmount
  set (((book.setLedger asset ledger).setLedger asset.other otherLedger).putPosition account
    ((position.setHolding asset after).setHolding asset.other other))
  if after.isDebt && other.isDebt then throw .badLeverage

/-- Replaces the ledger of an asset. -/
def modifyLedger (asset : Asset) (change : Ledger → Except PoolError Ledger) : BookM Unit := do
  let book ← get
  let ledger ← change (book.ledger asset)
  set (book.setLedger asset ledger)

/-- Tokens leave the pool; it must hold them. -/
def payOut (asset : Asset) (amount : Nat) : BookM Unit :=
  modifyLedger asset fun ledger =>
    if amount ≤ ledger.balance then .ok { ledger with balance := ledger.balance - amount }
    else .error .exceedsLimit

/-- Tokens enter the pool. -/
def payIn (asset : Asset) (amount : Nat) : BookM Unit :=
  modifyLedger asset fun ledger => do
    return { ledger with balance := ← Amount.add ledger.balance amount }

/-- Moves tokens the way a filled order did. -/
def settle (order : SwapOrder) (fill : Fill) : BookM Unit := do
  payOut order.tokenIn fill.amountIn
  payIn order.tokenOut fill.amountOut

/-- An amount of an asset in quote. -/
def valued (asset : Asset) (price : Q96) (amount : Nat) : Except PoolError Nat := do
  match asset with
  | .base => return ← price.scale amount
  | .quote => return amount

/-- Fails when the balance of an asset with an incoming amount would be worth more than the limit,
unless the amount does no more than repay debt.
-/
def requireRoom (book : Book) (asset : Asset) (incoming repaidDebt : Nat) (price : Q96)
    : Except PoolError Unit := do
  if incoming ≤ repaidDebt then return
  let balance ← Amount.add (book.ledger asset).balance incoming
  let value ← valued asset price balance
  if book.parameters.quoteLimit < value then throw .exceedsLimit

end MarginLending.Book
