import MarginLending.Proofs.Book.Leverage
import MarginLending.Proofs.Book.Surplus

/-!
What accrual pays to lenders and to the fee holder is earned by the debt. Interest and fee are
rounded down from the real debt, which is itself rounded down; only the growth of the two
coefficients that make up the debt is rounded against them.
-/

namespace MarginLending

-----
-- What a ledger earns
-----

/-- From one ledger to the next, the collateral grew by no more than an income, and the debt by as
much but for what rounding its two coefficients takes, with the fee's growth factor on the first
one. All of it is exact, in fractions of a token; the debt had a real amount.
-/
structure Ledger.Earns (ledger : Ledger) (feeGrowth : Q96) (income : Nat) (after : Ledger)
    : Prop where
  debt : after.discountedDebt = ledger.discountedDebt
  owed : ∃ real, ledger.totalRealDebt = .ok real
  grows
    : ledger.collateralCoeff.raw * ledger.discountedCollateral
      ≤ after.collateralCoeff.raw * after.discountedCollateral
  collateral
    : after.collateralCoeff.raw * after.discountedCollateral
      ≤ ledger.collateralCoeff.raw * ledger.discountedCollateral + income * Q96.unit
  earned
    : (income * Q96.unit * (Q96.unit * Q96.unit) : Int)
      ≤ (after.netDebtCoeff - ledger.netDebtCoeff) * ledger.discountedDebt * (Q96.unit * Q96.unit)
        + (Q96.unit * feeGrowth.raw + Q96.unit * Q96.unit) * ledger.discountedDebt

namespace Ledger.Earns

variable {ledger after : Ledger} {feeGrowth : Q96} {income : Nat}

/-- Real collateral grows by the income at most. -/
theorem held_le (earns : ledger.Earns feeGrowth income after) {held heldAfter : Nat}
    (holds : ledger.realCollateral ledger.discountedCollateral = .ok held)
    (holdsAfter : after.realCollateral after.discountedCollateral = .ok heldAfter)
    : heldAfter ≤ held + income := by
  have upper := (Q96.scale_ok (realCollateral_eq_ok.mp holds)).2
  have lower := (Q96.scale_ok (realCollateral_eq_ok.mp holdsAfter)).1
  have exact := earns.collateral
  have scaled : heldAfter * Q96.unit < (held + income) * Q96.unit + Q96.unit := by
    rw [Nat.add_mul]
    omega
  exact Q96.le_of_mul_unit_lt scaled

/-- What had grown to a real amount had one before. -/
theorem held_isOk (earns : ledger.Earns feeGrowth income after) {heldAfter : Nat}
    (holdsAfter : after.realCollateral after.discountedCollateral = .ok heldAfter)
    : ∃ held, ledger.realCollateral ledger.discountedCollateral = .ok held := by
  obtain ⟨held, scaled⟩ :=
    Q96.scale_ok_of_mul_le (realCollateral_eq_ok.mp holdsAfter) earns.grows
  exact ⟨held, realCollateral_eq_ok.mpr scaled⟩

/-- Real collateral grows by less than real debt, a token, and what rounding the coefficients takes.
-/
theorem increase_lt (earns : ledger.Earns feeGrowth income after)
    {held heldAfter owed owedAfter : Nat}
    (holds : ledger.realCollateral ledger.discountedCollateral = .ok held)
    (holdsAfter : after.realCollateral after.discountedCollateral = .ok heldAfter)
    (owes : ledger.totalRealDebt = .ok owed) (owesAfter : after.totalRealDebt = .ok owedAfter)
    : (heldAfter - held : ℚ) < owedAfter - owed + 1
        + (feeGrowth.toRat + 1) * ledger.discountedDebt / Q96.unit := by
  have positive : (0 : Int) < Q96.unit := by exact_mod_cast Q96.unit_pos
  have square : (0 : Int) < Q96.unit * Q96.unit := mul_pos positive positive
  have cube : (0 : Int) < Q96.unit * (Q96.unit * Q96.unit) := mul_pos positive square
  have paid : (heldAfter - held : Int) ≤ income := by
    have := earns.held_le holds holdsAfter
    omega
  have lower := (realDebt_bounds owes).1
  have upper := (realDebt_bounds owesAfter).2
  rw [earns.debt] at upper
  have growth : (after.netDebtCoeff - ledger.netDebtCoeff) * ledger.discountedDebt
      < (owedAfter - owed + 1) * Q96.unit := by
    linarith
  -- the income is earned in products of three coefficients, so that all is scaled by three units
  have exact : ((heldAfter - held) * (Q96.unit * (Q96.unit * Q96.unit)) : Int)
      < (owedAfter - owed + 1) * (Q96.unit * (Q96.unit * Q96.unit))
        + (Q96.unit * feeGrowth.raw + Q96.unit * Q96.unit) * ledger.discountedDebt := by
    calc ((heldAfter - held) * (Q96.unit * (Q96.unit * Q96.unit)) : Int)
        ≤ income * (Q96.unit * (Q96.unit * Q96.unit)) := mul_le_mul_of_nonneg_right paid cube.le
      _ = income * Q96.unit * (Q96.unit * Q96.unit) := by ring
      _ ≤ _ := earns.earned
      _ < (owedAfter - owed + 1) * Q96.unit * (Q96.unit * Q96.unit)
          + (Q96.unit * feeGrowth.raw + Q96.unit * Q96.unit) * ledger.discountedDebt := by
        have := mul_lt_mul_of_pos_right growth square
        linarith
      _ = _ := by ring
  have exact : ((heldAfter - held) * (Q96.unit * (Q96.unit * Q96.unit)) : ℚ)
      < (owedAfter - owed + 1) * (Q96.unit * (Q96.unit * Q96.unit))
        + (Q96.unit * feeGrowth.raw + Q96.unit * Q96.unit) * ledger.discountedDebt := by
    exact_mod_cast exact
  have unit : (0 : ℚ) < Q96.unit := by exact_mod_cast Q96.unit_pos
  refine lt_of_mul_lt_mul_right (lt_of_lt_of_eq exact ?_) (by positivity : (0 : ℚ)
    ≤ Q96.unit * (Q96.unit * Q96.unit))
  unfold Q96.toRat
  field_simp

end Ledger.Earns

-----
-- What a book earns
-----

namespace Book

section Accrual

variable {book book' : Book} {asset : Asset}

/-- A side that owes something earns the interest and the fee, and leaves the other ledger alone. -/
theorem earns_accrueSide (consistent : book.Consistent none) {interestRate feeGrowth : Q96}
    {seconds : Nat}
    (accrued : accrueSide interestRate feeGrowth seconds asset book = .ok () book')
    : book'.ledger asset.other = book.ledger asset.other
      ∧ ((book.ledger asset).discountedDebt ≠ 0 →
        ∃ income, (book.ledger asset).Earns feeGrowth income (book'.ledger asset)) := by
  rcases accrueSide_ok accrued with ⟨none, rfl⟩ | ⟨_, _, ledger, fee, _, _, grown, credited⟩
  · exact ⟨rfl, fun owes => absurd none owes⟩
  · -- the fee holder owes nothing, so that the fee becomes collateral and repays no debt
    have unowed : (((book.setLedger asset ledger).positionOf .feeHolder).holding asset).debtAmount
        = 0 :=
      consistent.positionOf_feeHolder asset
    obtain ⟨there, added, credit, here⟩ := credit_of_unowed credited unowed
    rw [ledger_setLedger_other] at there
    rw [ledger_setLedger_same] at credit here
    refine ⟨there, fun _ => ?_⟩
    obtain ⟨debt, _, _, _, _, _, _, owed, _⟩ := grow_ok grown
    obtain ⟨raise, interest, coeff, interestOf, earned⟩ := income_grow grown
    have rest := grow_rest grown
    have collateral : ledger.discountedCollateral = (book.ledger asset).discountedCollateral := by
      rw [rest]
    have debts : ledger.discountedDebt = (book.ledger asset).discountedDebt := by rw [rest]
    have whole : ledger.collateralCoeff.raw * (ledger.discountedCollateral + added)
        = (book.ledger asset).collateralCoeff.raw * (book.ledger asset).discountedCollateral
          + raise * (book.ledger asset).discountedCollateral
            + added * ledger.collateralCoeff.raw := by
      rw [collateral, coeff]
      ring
    rw [here]
    refine ⟨interest + fee, debts, ⟨debt, owed⟩, ?_, ?_, ?_⟩
    · simp only
      omega
    · simp only
      rw [Nat.add_mul]
      omega
    · exact_mod_cast earned

/-- Each side that owes something earns at the fee's growth factor over the time. -/
theorem earns_accrueFor (consistent : book.Consistent none) {seconds : Nat} {price : Q96}
    (accrued : accrueFor seconds price book = .ok () book')
    (owes : (book.ledger asset).discountedDebt ≠ 0)
    : ∃ annual growth income, book.parameters.annualFee = .ok annual
        ∧ growthFactor annual seconds = .ok growth
        ∧ (book.ledger asset).Earns growth income (book'.ledger asset) := by
  obtain ⟨annual, growth, _, first, second, fee, factor, _, base, quote, refreshed⟩ :=
    accrueFor_ok accrued
  obtain ⟨_, rfl⟩ := refreshLeverage_ok refreshed
  obtain ⟨untouched, earnsBase⟩ := earns_accrueSide consistent base
  obtain ⟨kept, earnsQuote⟩ := earns_accrueSide (consistent.accrueSide base) quote
  cases asset with
  | base =>
      obtain ⟨income, earns⟩ := earnsBase owes
      exact ⟨annual, growth, income, fee, factor, kept ▸ earns⟩
  | quote =>
      rw [show first.ledger .quote = book.ledger .quote from untouched] at earnsQuote
      obtain ⟨income, earns⟩ := earnsQuote owes
      exact ⟨annual, growth, income, fee, factor, earns⟩

/-- Accrual ends with real totals of collateral and debt: the leverage that it stores rests on them.
-/
theorem totals_accrueFor {seconds : Nat} {price : Q96}
    (accrued : accrueFor seconds price book = .ok () book') (asset : Asset)
    : ∃ held owed,
        (book'.ledger asset).realCollateral (book'.ledger asset).discountedCollateral = .ok held
        ∧ (book'.ledger asset).totalRealDebt = .ok owed := by
  obtain ⟨_, _, _, first, second, _, _, _, _, _, refreshed⟩ := accrueFor_ok accrued
  obtain ⟨_, _, short, long, rfl⟩ := refreshLeverage_eq refreshed
  obtain ⟨_, owedBase, _, _, totalsQuote, _, owesBase, _⟩ := systemLeverage_ok short
  obtain ⟨_, owedQuote, _, _, totalsBase, _, owesQuote, _⟩ := systemLeverage_ok long
  obtain ⟨heldQuote, _, holdsQuote, _⟩ :=
    Ledger.netCollateral_eq_ok.mp (totalCollateral_ok totalsQuote)
  obtain ⟨heldBase, _, holdsBase, _⟩ :=
    Ledger.netCollateral_eq_ok.mp (totalCollateral_ok totalsBase)
  cases asset with
  | base => exact ⟨heldBase, owedBase, holdsBase, owesBase⟩
  | quote => exact ⟨heldQuote, owedQuote, holdsQuote, owesQuote⟩

/-- Accrual makes claims that debt backs. The real collateral in an asset grows by less than its
real debt, one unit, and what rounding the debt's coefficients takes.
-/
theorem increase_accrueFor (consistent : book.Consistent none) {seconds : Nat} {price : Q96}
    (accrued : accrueFor seconds price book = .ok () book')
    (owes : 0 < (book.ledger asset).discountedDebt)
    : ∃ annual growth held heldAfter owed owedAfter,
        book.parameters.annualFee = .ok annual ∧ growthFactor annual seconds = .ok growth
        ∧ (book.ledger asset).realCollateral (book.ledger asset).discountedCollateral = .ok held
        ∧ (book'.ledger asset).realCollateral (book'.ledger asset).discountedCollateral
          = .ok heldAfter
        ∧ (book.ledger asset).totalRealDebt = .ok owed
        ∧ (book'.ledger asset).totalRealDebt = .ok owedAfter
        ∧ (heldAfter - held : ℚ) < owedAfter - owed + 1
          + (growth.toRat + 1) * (book.ledger asset).discountedDebt / Q96.unit := by
  obtain ⟨annual, growth, income, fee, factor, earns⟩ :=
    earns_accrueFor consistent accrued (Nat.ne_of_gt owes)
  obtain ⟨heldAfter, owedAfter, holdsAfter, owesAfter⟩ := totals_accrueFor accrued asset
  obtain ⟨held, holds⟩ := earns.held_isOk holdsAfter
  obtain ⟨owed, owesBefore⟩ := earns.owed
  exact ⟨annual, growth, held, heldAfter, owed, owedAfter, fee, factor, holds, holdsAfter,
    owesBefore, owesAfter, earns.increase_lt holds holdsAfter owesBefore owesAfter⟩

end Accrual

end Book

end MarginLending
