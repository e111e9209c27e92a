import MarginLending.Book.Valuation
import MarginLending.Fixed.Growth

/-!
Interest and fees. Debt grows by interest and by the fee on top of it; collateral grows by the
interest alone, and the fee holder is credited with the fee. A side pays interest in proportion to
its stored leverage.
-/

namespace MarginLending

/-- The growth factor over a time, given the annual rate. -/
def growthFactor (annual : Q96) (seconds : Nat) : Except PoolError Q96 := do
  let perSecond ← annual.div (.ofNat secondsInYear)
  let step ← Q96.one.add perSecond
  return ← step.powSeries seconds

/-- The ledger after its debt grew by two factors, and the fee in real units. -/
def Ledger.grow (ledger : Ledger) (interestGrowth feeGrowth : Q96)
    : Except PoolError (Ledger × Nat) := do
  let debt ← ledger.totalRealDebt
  let interest ← (← interestGrowth.sub .one).scale debt
  let fee ← (← interestGrowth.mul (← feeGrowth.sub .one)).scale debt
  let collateralCoeff ← (
    if 0 < ledger.discountedCollateral then do
      ledger.collateralCoeff.add (← Q96.ofRatio interest ledger.discountedCollateral)
    else .ok ledger.collateralCoeff : Except MathError Q96)
  let debtCoeff ← (← ledger.debtCoeff.mul interestGrowth).mul feeGrowth
  let debtRelief ← (← ledger.debtRelief.mul interestGrowth).mul feeGrowth
  return ({ ledger with collateralCoeff, debtCoeff, debtRelief }, fee)

namespace Book

/-- Grows the debt in one asset, if there is any, and credits the fee. -/
def accrueSide (interestRate feeGrowth : Q96) (seconds : Nat) (debtAsset : Asset)
    : BookM Unit := do
  let book ← get
  let ledger := book.ledger debtAsset
  if ledger.discountedDebt = 0 then return
  let annual ← (interestRate.mul (book.leverage.get debtAsset) : Except MathError Q96)
  let interestGrowth ← growthFactor annual seconds
  let (ledger, fee) ← ledger.grow interestGrowth feeGrowth
  set (book.setLedger debtAsset ledger)
  credit .feeHolder debtAsset fee

/-- Brings the coefficients of both assets forward by a time and stores the new leverage. -/
def accrueFor (seconds : Nat) (price : Q96) : BookM Unit := do
  let parameters := (← get).parameters
  let annualFee ← (parameters.annualFee : Except MathError Q96)
  let feeGrowth ← growthFactor annualFee seconds
  let interestRate ← (parameters.annualInterest : Except MathError Q96)
  accrueSide interestRate feeGrowth seconds .base
  accrueSide interestRate feeGrowth seconds .quote
  refreshLeverage price

/-- Brings the coefficients up to a time, and answers whether any time had passed. A frozen book
does not accrue.
-/
def accrue (now : Timestamp) (price : Q96) : BookM Bool := do
  let book ← get
  if book.mode.isEmergency then return false
  let seconds := now.since book.lastAccrual
  if seconds = 0 then return false
  accrueFor seconds price
  modify fun book => { book with lastAccrual := now }
  return true

end Book

end MarginLending
