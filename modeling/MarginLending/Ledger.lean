import MarginLending.Error
import MarginLending.Position

/-!
The books of one asset. Positions hold discounted amounts; two growing coefficients turn them into
real ones. Debt written off on behalf of borrowers is kept as a relief on the debt coefficient, and
losses that borrowers of the other asset must bear as a charge on their collateral here, per unit of
what they owe there.
-/

namespace MarginLending

/-- Coefficients, totals and token balance of one asset. -/
structure Ledger where
  collateralCoeff : Q96
  debtCoeff : Q96
  /-- Charge on a position's collateral here per discounted unit that it owes in the other asset. -/
  chargeCoeff : Q96
  /-- The part of the debt coefficient that was written off. It compounds with it. -/
  debtRelief : Q96
  discountedCollateral : Nat
  discountedDebt : Nat
  /-- Tokens that the pool holds. -/
  balance : Nat
  deriving DecidableEq, Repr

namespace Ledger

/-- The ledger of an asset that nobody holds or owes. -/
def new : Ledger where
  collateralCoeff := .one
  debtCoeff := .one
  chargeCoeff := .zero
  debtRelief := .zero
  discountedCollateral := 0
  discountedDebt := 0
  balance := 0

/-- What a discounted unit of debt amounts to, net of relief. -/
def effectiveDebtCoeff (ledger : Ledger) : Except PoolError Q96 := do
  return ← ledger.debtCoeff.sub ledger.debtRelief

/-- Real collateral before any charge. -/
def realCollateral (ledger : Ledger) (discounted : Nat) : Except PoolError Nat := do
  return ← ledger.collateralCoeff.scale discounted

/-- The charge on a position that owes discounted units of the other asset, rounded up. -/
def charge (ledger : Ledger) (otherDebt : Nat) : Except PoolError Nat := do
  if otherDebt = 0 ∨ ledger.chargeCoeff.isZero then return 0
  return ← ledger.chargeCoeff.scaleUp otherDebt

/-- Real collateral net of the charge, no lower than zero. -/
def netCollateral (ledger : Ledger) (discounted otherDebt : Nat) : Except PoolError Nat := do
  let real ← ledger.realCollateral discounted
  let charge ← ledger.charge otherDebt
  return real - charge

/-- Real debt, rounded down. -/
def realDebt (ledger : Ledger) (discounted : Nat) : Except PoolError Nat := do
  let coeff ← ledger.effectiveDebtCoeff
  return ← coeff.scale discounted

/-- All real debt. -/
def totalRealDebt (ledger : Ledger) : Except PoolError Nat :=
  ledger.realDebt ledger.discountedDebt

/-- Adds discounted collateral to the total. -/
def addCollateral (ledger : Ledger) (discounted : Nat) : Except PoolError Ledger := do
  return { ledger with
    discountedCollateral := ← Amount.add ledger.discountedCollateral discounted }

/-- Takes discounted collateral from the total. -/
def removeCollateral (ledger : Ledger) (discounted : Nat) : Except PoolError Ledger := do
  return { ledger with
    discountedCollateral := ← Amount.sub ledger.discountedCollateral discounted }

/-- Adds discounted debt to the total. -/
def addDebt (ledger : Ledger) (discounted : Nat) : Except PoolError Ledger := do
  return { ledger with discountedDebt := ← Amount.add ledger.discountedDebt discounted }

/-- Takes discounted debt from the total. -/
def removeDebt (ledger : Ledger) (discounted : Nat) : Except PoolError Ledger := do
  return { ledger with discountedDebt := ← Amount.sub ledger.discountedDebt discounted }

/-- Pays a real amount into a holding: debt is repaid first, what is left becomes collateral. A
partial repayment takes off no more discounted debt than it pays for.
-/
def creditHolding (ledger : Ledger) (holding : Holding) (real : Nat)
    : Except PoolError (Holding × Ledger) := do
  match holding with
  | .debt (debt + 1) =>
      let owed ← ledger.realDebt (debt + 1)
      if real < owed then
        let repaid ← (← ledger.effectiveDebtCoeff).unscale real
        let ledger ← ledger.removeDebt repaid
        return (.debt (← Amount.sub (debt + 1) repaid), ledger)
      let ledger ← ledger.removeDebt (debt + 1)
      let added ← ledger.collateralCoeff.unscale (real - owed)
      return (.collateral added, ← ledger.addCollateral added)
  | other =>
      let added ← ledger.collateralCoeff.unscale real
      let ledger ← ledger.addCollateral added
      return (.collateral (← Amount.add other.collateralAmount added), ledger)

/-- Takes a real amount out of a holding: collateral is used up first, the rest becomes debt. The
charge that stands against the holding counts as used up already, and partial takings round against
the holder.
-/
def debitHolding (ledger : Ledger) (holding : Holding) (real charge : Nat)
    : Except PoolError (Holding × Ledger) := do
  match holding with
  | .collateral (collateral + 1) =>
      let held := (← ledger.realCollateral (collateral + 1)) - charge
      if real < held then
        let removed := min (← ledger.collateralCoeff.unscaleUp real) (collateral + 1)
        return (.collateral (collateral + 1 - removed), ← ledger.removeCollateral removed)
      let ledger ← ledger.removeCollateral (collateral + 1)
      let added ← (← ledger.effectiveDebtCoeff).unscaleUp (real - held)
      return (.debt added, ← ledger.addDebt added)
  | other =>
      let added ← (← ledger.effectiveDebtCoeff).unscaleUp real
      let ledger ← ledger.addDebt added
      return (.debt (← Amount.add other.debtAmount added), ledger)

/-- Takes a whole holding out of the totals. -/
def release (ledger : Ledger) : Holding → Except PoolError Ledger
  | .collateral amount => ledger.removeCollateral amount
  | .debt amount => ledger.removeDebt amount

/-- Adjusts collateral held here after the same position's debt in the other asset changed, so that
a charge already taken stays taken and new debt starts uncharged.
-/
def rebase (ledger : Ledger) (holding : Holding) (debtBefore debtAfter : Nat)
    : Except PoolError (Holding × Ledger) := do
  match holding with
  | .debt amount => return (.debt amount, ledger)
  | .collateral collateral =>
      if ledger.chargeCoeff.isZero ∨ debtBefore = debtAfter then
        return (.collateral collateral, ledger)
      if debtBefore < debtAfter then
        let added ← Amount.ofWide (← mulDiv ledger.chargeCoeff.raw (debtAfter - debtBefore)
          ledger.collateralCoeff.raw)
        let ledger ← ledger.addCollateral added
        return (.collateral (← Amount.add collateral added), ledger)
      let owed ← Amount.ofWide (← mulDivUp ledger.chargeCoeff.raw (debtBefore - debtAfter)
        ledger.collateralCoeff.raw)
      let removed := min owed collateral
      return (.collateral (collateral - removed), ← ledger.removeCollateral removed)

end Ledger

end MarginLending
