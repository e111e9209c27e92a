import MarginLending.Pool.Liquidation
import MarginLending.Proofs.Book.Consistency

/-!
What the smaller changes of a book do: payments, spreading an amount over lenders or borrowers, and
accrual. None of them changes a total but by crediting the fee holder.
-/

namespace MarginLending

namespace Book

section Changes

variable {book book' : Book} {asset : Asset}

theorem modifyLedger_ok {change : Ledger → Except PoolError Ledger}
    : modifyLedger asset change book = .ok () book'
      ↔ ∃ ledger, change (book.ledger asset) = .ok ledger
          ∧ book' = book.setLedger asset ledger := by
  simp only [modifyLedger, EStateM.bind_eq_ok, EStateM.get_eq_ok, EStateM.lift_eq_ok,
    EStateM.set_eq_ok]
  constructor
  · rintro ⟨_, _, ⟨rfl, rfl⟩, ledger, _, ⟨changed, rfl⟩, rfl⟩
    exact ⟨ledger, changed, rfl⟩
  · rintro ⟨ledger, changed, rfl⟩
    exact ⟨_, _, ⟨rfl, rfl⟩, ledger, _, ⟨changed, rfl⟩, rfl⟩

/-- Tokens that leave were there. -/
theorem payOut_ok {amount : Nat} (paid : payOut asset amount book = .ok () book')
    : amount ≤ (book.ledger asset).balance
      ∧ book' = book.setLedger asset
          { book.ledger asset with balance := (book.ledger asset).balance - amount } := by
  obtain ⟨ledger, changed, rfl⟩ := modifyLedger_ok.mp paid
  split at changed
  · next enough => exact ⟨enough, by rw [← Except.ok.inj changed]⟩
  · cases changed

/-- Tokens that are there can be paid. -/
theorem payOut_isOk {amount : Nat} (enough : amount ≤ (book.ledger asset).balance)
    : ∃ book', payOut asset amount book = .ok () book' :=
  ⟨_, modifyLedger_ok.mpr ⟨_, if_pos enough, rfl⟩⟩

theorem payIn_ok {amount : Nat} (paid : payIn asset amount book = .ok () book')
    : book' = book.setLedger asset
        { book.ledger asset with balance := (book.ledger asset).balance + amount } := by
  obtain ⟨ledger, changed, rfl⟩ := modifyLedger_ok.mp paid
  simp only [Except.bind_eq_ok, Except.pure_eq_ok, Except.liftMath_eq_ok, Amount.add_eq_ok_iff]
    at changed
  obtain ⟨_, ⟨rfl, _⟩, rfl⟩ := changed
  rfl

/-- A settled order takes its input out and brings its output in. -/
theorem settle_ok {order : SwapOrder} {fill : Fill}
    (settled : settle order fill book = .ok () book')
    : ∃ middle, payOut order.tokenIn fill.amountIn book = .ok () middle
        ∧ payIn order.tokenIn.other fill.amountOut middle = .ok () book' := by
  simp only [settle, EStateM.bind_eq_ok] at settled
  obtain ⟨_, middle, out, into⟩ := settled
  exact ⟨middle, out, into⟩

/-- The leverage of both sides is computed and stored, each capped at the bound. -/
theorem refreshLeverage_eq {price : Q96} (refreshed : refreshLeverage price book = .ok () book')
    : ∃ short long, book.systemLeverage .base price = .ok short
        ∧ book.systemLeverage .quote price = .ok long
        ∧ book' = { book with
            leverage := ⟨short.min book.parameters.leverageBound,
              long.min book.parameters.leverageBound⟩ } := by
  simp only [refreshLeverage, EStateM.bind_eq_ok, EStateM.get_eq_ok, EStateM.lift_eq_ok,
    EStateM.set_eq_ok] at refreshed
  obtain ⟨_, _, ⟨rfl, rfl⟩, short, _, ⟨knownShort, rfl⟩, long, _, ⟨knownLong, rfl⟩, rfl⟩ :=
    refreshed
  exact ⟨short, long, knownShort, knownLong, rfl⟩

theorem refreshLeverage_ok {price : Q96} (refreshed : refreshLeverage price book = .ok () book')
    : ∃ leverage, book' = { book with leverage } := by
  obtain ⟨_, _, _, _, rfl⟩ := refreshLeverage_eq refreshed
  exact ⟨_, rfl⟩

/-- An amount for all lenders is nothing, or goes to the fee holder for want of lenders, or raises
the collateral coefficient.
-/
theorem shareAmongLenders_ok {amount : Nat}
    (shared : shareAmongLenders asset amount book = .ok () book')
    : amount = 0 ∧ book' = book
      ∨ (book.ledger asset).discountedCollateral = 0
          ∧ credit .feeHolder asset amount book = .ok () book'
      ∨ ∃ perUnit coeff,
          Q96.ofRatio amount (book.ledger asset).discountedCollateral = .ok perUnit
            ∧ (book.ledger asset).collateralCoeff.add perUnit = .ok coeff
            ∧ book' = book.setLedger asset { book.ledger asset with collateralCoeff := coeff } := by
  unfold shareAmongLenders at shared
  split at shared
  · next nothing =>
      exact .inl ⟨nothing, (EStateM.pure_eq_ok.mp shared).2.symm⟩
  · simp only [EStateM.bind_eq_ok, EStateM.get_eq_ok] at shared
    obtain ⟨_, _, ⟨rfl, rfl⟩, shared⟩ := shared
    split at shared
    · next nobody => exact .inr (.inl ⟨nobody, shared⟩)
    · obtain ⟨ledger, changed, rfl⟩ := modifyLedger_ok.mp shared
      simp only [Except.bind_eq_ok, Except.pure_eq_ok, Except.liftMath_eq_ok] at changed
      obtain ⟨perUnit, ratio, coeff, sum, rfl⟩ := changed
      exact .inr (.inr ⟨perUnit, coeff, ratio, sum, rfl⟩)

theorem chargeBorrowers_ok {shortfall owed : Nat}
    (charged : chargeBorrowers asset shortfall owed book = .ok () book')
    : ∃ cut coeff, mulDivUp shortfall Q96.unit owed = .ok cut
        ∧ (book.ledger asset).chargeCoeff.add ⟨cut⟩ = .ok coeff
        ∧ book' = book.setLedger asset { book.ledger asset with chargeCoeff := coeff } := by
  obtain ⟨ledger, changed, rfl⟩ := modifyLedger_ok.mp charged
  simp only [Except.bind_eq_ok, Except.pure_eq_ok, Except.liftMath_eq_ok] at changed
  obtain ⟨cut, quotient, coeff, sum, rfl⟩ := changed
  exact ⟨cut, coeff, quotient, sum, rfl⟩

/-- A charge moves no debt. -/
theorem discountedDebt_chargeBorrowers {shortfall owed : Nat}
    (charged : chargeBorrowers asset shortfall owed book = .ok () book') (other : Asset)
    : (book'.ledger other).discountedDebt = (book.ledger other).discountedDebt := by
  obtain ⟨_, _, _, _, rfl⟩ := chargeBorrowers_ok charged
  rcases asset.eq_or_eq_other other with rfl | rfl
  · rw [ledger_setLedger_same]
  · rw [ledger_setLedger_other]

theorem relieveDebt_ok {amount owed : Nat}
    (relieved : relieveDebt asset amount owed book = .ok () book')
    : amount = 0 ∧ book' = book
      ∨ ∃ perUnit coeff, Q96.ofRatio amount owed = .ok perUnit
          ∧ (book.ledger asset).debtRelief.add perUnit = .ok coeff
          ∧ book' = book.setLedger asset { book.ledger asset with debtRelief := coeff } := by
  unfold relieveDebt at relieved
  split at relieved
  · obtain ⟨ledger, changed, rfl⟩ := modifyLedger_ok.mp relieved
    simp only [Except.bind_eq_ok, Except.pure_eq_ok, Except.liftMath_eq_ok] at changed
    obtain ⟨perUnit, ratio, coeff, sum, rfl⟩ := changed
    exact .inr ⟨perUnit, coeff, ratio, sum, rfl⟩
  · next nothing =>
      exact .inl ⟨by omega, (EStateM.pure_eq_ok.mp relieved).2.symm⟩

theorem raiseDebt_ok {shortfall owed : Nat}
    (raised : raiseDebt asset shortfall owed book = .ok () book')
    : ∃ perUnit coeff, mulDivUp shortfall Q96.unit owed = .ok perUnit
        ∧ (book.ledger asset).debtCoeff.add ⟨perUnit⟩ = .ok coeff
        ∧ book' = book.setLedger asset { book.ledger asset with debtCoeff := coeff } := by
  obtain ⟨ledger, changed, rfl⟩ := modifyLedger_ok.mp raised
  simp only [Except.bind_eq_ok, Except.pure_eq_ok, Except.liftMath_eq_ok] at changed
  obtain ⟨perUnit, quotient, coeff, sum, rfl⟩ := changed
  exact ⟨perUnit, coeff, quotient, sum, rfl⟩

end Changes

section Accrual

variable {book book' : Book}

/-- Growth changes the three coefficients that hold interest: collateral by the interest, where
there is collateral, debt and its relief by both factors. The fee comes on top.
-/
theorem grow_ok {ledger after : Ledger} {interestGrowth feeGrowth : Q96} {fee : Nat}
    (grown : ledger.grow interestGrowth feeGrowth = .ok (after, fee))
    : ∃ debt interestPart interest feePart feeGrowthPart grownDebt grownRelief,
        ledger.totalRealDebt = .ok debt
        ∧ interestGrowth.sub .one = .ok interestPart ∧ interestPart.scale debt = .ok interest
        ∧ feeGrowth.sub .one = .ok feePart ∧ interestGrowth.mul feePart = .ok feeGrowthPart
        ∧ feeGrowthPart.scale debt = .ok fee
        ∧ (ledger.discountedCollateral = 0 ∧ after.collateralCoeff = ledger.collateralCoeff
          ∨ ∃ perUnit, Q96.ofRatio interest ledger.discountedCollateral = .ok perUnit
              ∧ ledger.collateralCoeff.add perUnit = .ok after.collateralCoeff)
        ∧ ledger.debtCoeff.mul interestGrowth = .ok grownDebt
        ∧ grownDebt.mul feeGrowth = .ok after.debtCoeff
        ∧ ledger.debtRelief.mul interestGrowth = .ok grownRelief
        ∧ grownRelief.mul feeGrowth = .ok after.debtRelief
        ∧ after = { ledger with
            collateralCoeff := after.collateralCoeff
            debtCoeff := after.debtCoeff
            debtRelief := after.debtRelief } := by
  simp only [Ledger.grow, Except.bind_eq_ok, Except.liftMath_eq_ok, Except.pure_eq_ok,
    Prod.mk.injEq] at grown
  obtain ⟨debt, owed, interestPart, part, interest, scaled, feePart, partOfFee, feeGrowthPart,
    product, _, feeScaled, coeff, raised, grownDebt, debtOnce, debtCoeff, debtTwice, grownRelief,
    reliefOnce, debtRelief, reliefTwice, rfl, rfl⟩ := grown
  refine ⟨debt, interestPart, interest, feePart, feeGrowthPart, grownDebt, grownRelief, owed, part,
    scaled, partOfFee, product, feeScaled, ?_, debtOnce, debtTwice, reliefOnce, reliefTwice, rfl⟩
  split at raised
  · obtain ⟨perUnit, ratio, sum⟩ := Except.bind_eq_ok.mp raised
    exact .inr ⟨perUnit, ratio, sum⟩
  · next none => exact .inl ⟨by omega, (Except.ok.inj raised).symm⟩

/-- Growth leaves everything but those three coefficients alone. -/
theorem grow_rest {ledger after : Ledger} {interestGrowth feeGrowth : Q96} {fee : Nat}
    (grown : ledger.grow interestGrowth feeGrowth = .ok (after, fee))
    : after = { ledger with
        collateralCoeff := after.collateralCoeff
        debtCoeff := after.debtCoeff
        debtRelief := after.debtRelief } := by
  obtain ⟨_, _, _, _, _, _, _, _, _, _, _, _, _, _, _, _, _, _, rest⟩ := grow_ok grown
  exact rest

/-- A side without debt does not accrue; any other one grows and credits the fee. -/
theorem accrueSide_ok {interestRate feeGrowth : Q96} {seconds : Nat} {asset : Asset}
    (accrued : accrueSide interestRate feeGrowth seconds asset book = .ok () book')
    : (book.ledger asset).discountedDebt = 0 ∧ book' = book
      ∨ ∃ annual interestGrowth ledger fee,
          interestRate.mul (book.leverage.get asset) = .ok annual
            ∧ growthFactor annual seconds = .ok interestGrowth
            ∧ (book.ledger asset).grow interestGrowth feeGrowth = .ok (ledger, fee)
            ∧ credit .feeHolder asset fee (book.setLedger asset ledger) = .ok () book' := by
  simp only [accrueSide, EStateM.bind_eq_ok, EStateM.get_eq_ok] at accrued
  obtain ⟨_, _, ⟨rfl, rfl⟩, accrued⟩ := accrued
  split at accrued
  · next nothing => exact .inl ⟨nothing, (EStateM.pure_eq_ok.mp accrued).2.symm⟩
  · simp only [EStateM.bind_eq_ok, EStateM.lift_eq_ok, EStateM.liftMath_eq_ok, EStateM.set_eq_ok]
      at accrued
    obtain ⟨annual, _, ⟨product, rfl⟩, interestGrowth, _, ⟨factor, rfl⟩, ⟨ledger, fee⟩, _,
      ⟨grown, rfl⟩, _, _, rfl, credited⟩ := accrued
    exact .inr ⟨annual, interestGrowth, ledger, fee, product, factor, grown, credited⟩

/-- Both sides accrue by the same fee, base first, and the leverage is stored. -/
theorem accrueFor_ok {seconds : Nat} {price : Q96}
    (accrued : accrueFor seconds price book = .ok () book')
    : ∃ annualFee feeGrowth interestRate first second,
        book.parameters.annualFee = .ok annualFee ∧ growthFactor annualFee seconds = .ok feeGrowth
          ∧ book.parameters.annualInterest = .ok interestRate
          ∧ accrueSide interestRate feeGrowth seconds .base book = .ok () first
          ∧ accrueSide interestRate feeGrowth seconds .quote first = .ok () second
          ∧ refreshLeverage price second = .ok () book' := by
  simp only [accrueFor, EStateM.bind_eq_ok, EStateM.get_eq_ok, EStateM.lift_eq_ok,
    EStateM.liftMath_eq_ok] at accrued
  obtain ⟨_, _, ⟨rfl, rfl⟩, annualFee, _, ⟨fee, rfl⟩, feeGrowth, _, ⟨factor, rfl⟩, interestRate, _,
    ⟨rate, rfl⟩, _, first, base, _, second, quote, refreshed⟩ := accrued
  exact ⟨annualFee, feeGrowth, interestRate, first, second, fee, factor, rate, base, quote,
    refreshed⟩

/-- Accrual does nothing to a frozen book or at a time that is not later. -/
theorem accrue_ok {now : Timestamp} {price : Q96} {moved : Bool}
    (accrued : accrue now price book = .ok moved book')
    : moved = false ∧ book' = book
      ∨ moved = true ∧ ¬book.mode.isEmergency ∧ now.since book.lastAccrual ≠ 0
          ∧ ∃ middle, accrueFor (now.since book.lastAccrual) price book = .ok () middle
              ∧ book' = { middle with lastAccrual := now } := by
  simp only [accrue, EStateM.bind_eq_ok, EStateM.get_eq_ok] at accrued
  obtain ⟨_, _, ⟨rfl, rfl⟩, accrued⟩ := accrued
  split at accrued
  · obtain ⟨rfl, rfl⟩ := EStateM.pure_eq_ok.mp accrued
    exact .inl ⟨rfl, rfl⟩
  · next regular =>
      split at accrued
      · obtain ⟨rfl, rfl⟩ := EStateM.pure_eq_ok.mp accrued
        exact .inl ⟨rfl, rfl⟩
      · next passed =>
          simp only [EStateM.bind_eq_ok, EStateM.modify_eq_ok, EStateM.pure_eq_ok] at accrued
          obtain ⟨_, middle, grown, _, _, rfl, rfl, rfl⟩ := accrued
          exact .inr ⟨rfl, regular, passed, middle, grown, rfl⟩

/-- A frozen book does not accrue. -/
theorem accrue_of_frozen (frozen : book.mode.isEmergency = true) (now : Timestamp) (price : Q96)
    : accrue now price book = .ok false book := by
  unfold accrue
  rw [get_bind_apply, if_pos frozen]
  rfl

end Accrual

-----
-- The smaller changes keep a book consistent
-----

section Keeping

variable {book book' : Book} {stale : Option AccountId} {asset : Asset}

theorem Consistent.payOut (consistent : book.Consistent stale) {amount : Nat}
    (paid : Book.payOut asset amount book = .ok () book')
    : book'.Consistent stale := by
  obtain ⟨_, rfl⟩ := payOut_ok paid
  exact consistent.setLedger rfl rfl

theorem Consistent.payIn (consistent : book.Consistent stale) {amount : Nat}
    (paid : Book.payIn asset amount book = .ok () book')
    : book'.Consistent stale := by
  obtain rfl := payIn_ok paid
  exact consistent.setLedger rfl rfl

theorem Consistent.settle (consistent : book.Consistent stale) {order : SwapOrder} {fill : Fill}
    (settled : Book.settle order fill book = .ok () book')
    : book'.Consistent stale := by
  obtain ⟨middle, out, into⟩ := settle_ok settled
  exact (consistent.payOut out).payIn into

theorem Consistent.refreshLeverage (consistent : book.Consistent stale) {price : Q96}
    (refreshed : Book.refreshLeverage price book = .ok () book')
    : book'.Consistent stale := by
  obtain ⟨leverage, rfl⟩ := refreshLeverage_ok refreshed
  exact consistent.of_same (fun _ => rfl) rfl (fun _ => rfl) (fun _ => rfl)

theorem Consistent.shareAmongLenders (consistent : book.Consistent none) {amount : Nat}
    (shared : Book.shareAmongLenders asset amount book = .ok () book')
    : book'.Consistent none := by
  rcases shareAmongLenders_ok shared with ⟨_, rfl⟩ | ⟨_, credited⟩ | ⟨_, _, _, _, rfl⟩
  · exact consistent
  · exact consistent.credit credited (.inr rfl)
  · exact consistent.setLedger rfl rfl

theorem Consistent.chargeBorrowers (consistent : book.Consistent stale) {shortfall owed : Nat}
    (charged : Book.chargeBorrowers asset shortfall owed book = .ok () book')
    : book'.Consistent stale := by
  obtain ⟨_, _, _, _, rfl⟩ := chargeBorrowers_ok charged
  exact consistent.setLedger rfl rfl

theorem Consistent.relieveDebt (consistent : book.Consistent stale) {amount owed : Nat}
    (relieved : Book.relieveDebt asset amount owed book = .ok () book')
    : book'.Consistent stale := by
  rcases relieveDebt_ok relieved with ⟨_, rfl⟩ | ⟨_, _, _, _, rfl⟩
  · exact consistent
  · exact consistent.setLedger rfl rfl

theorem Consistent.raiseDebt (consistent : book.Consistent stale) {shortfall owed : Nat}
    (raised : Book.raiseDebt asset shortfall owed book = .ok () book')
    : book'.Consistent stale := by
  obtain ⟨_, _, _, _, rfl⟩ := raiseDebt_ok raised
  exact consistent.setLedger rfl rfl

/-- Growth moves no discounted amount; the fee is credited like any other amount. -/
theorem Consistent.accrueSide (consistent : book.Consistent none) {interestRate feeGrowth : Q96}
    {seconds : Nat}
    (accrued : Book.accrueSide interestRate feeGrowth seconds asset book = .ok () book')
    : book'.Consistent none := by
  rcases accrueSide_ok accrued with ⟨_, rfl⟩ | ⟨_, _, ledger, fee, _, _, grown, credited⟩
  · exact consistent
  · have grown := grow_rest grown
    have same : (book.setLedger asset ledger).Consistent none := by
      rw [grown]
      exact consistent.setLedger rfl rfl
    exact same.credit credited (.inr rfl)

theorem Consistent.accrue (consistent : book.Consistent none) {now : Timestamp} {price : Q96}
    {moved : Bool} (accrued : Book.accrue now price book = .ok moved book')
    : book'.Consistent none := by
  rcases accrue_ok accrued with ⟨_, rfl⟩ | ⟨_, _, _, middle, grown, rfl⟩
  · exact consistent
  · obtain ⟨_, _, _, first, second, _, _, _, base, quote, refreshed⟩ := accrueFor_ok grown
    have kept := ((consistent.accrueSide base).accrueSide quote).refreshLeverage refreshed
    exact kept.of_same (fun _ => rfl) rfl (fun _ => rfl) (fun _ => rfl)

end Keeping

end Book

end MarginLending
