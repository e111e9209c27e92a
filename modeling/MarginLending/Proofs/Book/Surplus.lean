import MarginLending.Proofs.Book.Backing
import Mathlib.Algebra.Order.Field.Rat
import Mathlib.Tactic.FieldSimp

/-!
What backs an asset beyond all of its collateral, counting the charge that stands against it, in
exact numbers and read off the totals alone. Every booking of a loss or a gain moves it by the
amount that it books or leaves more behind: what is spread over lenders is rounded down, what is
charged is rounded up.
-/

namespace MarginLending

/-- The number itself. -/
def Q96.toRat (q : Q96) : ℚ := q.raw / Q96.unit

namespace Ledger

/-- Without debt, a credit adds collateral that is worth no more than what is paid. -/
theorem Credit.eq_of_unowed {ledger after : Ledger} {old new : Holding} {real : Nat}
    (credit : ledger.Credit real old new after) (unowed : old.debtAmount = 0)
    : ∃ added, added * ledger.collateralCoeff.raw ≤ real * Q96.unit
        ∧ after = { ledger with discountedCollateral := ledger.discountedCollateral + added } := by
  cases credit with
  | @partly debt owed _ _ owes less =>
      obtain rfl : debt = 0 := unowed
      obtain ⟨_, _, scaled⟩ := realDebt_eq_ok.mp owes
      rw [Q96.scale_zero scaled] at less
      exact absurd less (Nat.not_lt_zero _)
  | @wholly debt owed added _ _ adds _ =>
      obtain rfl : debt = 0 := unowed
      have bound := (Q96.unscale_ok adds).2.1
      exact ⟨added, Nat.le_trans bound (Nat.mul_le_mul_right _ (Nat.sub_le ..)), rfl⟩
  | @adds _ added _ adds => exact ⟨added, (Q96.unscale_ok adds).2.1, rfl⟩

end Ledger

namespace Book

/-- What backs an asset beyond its collateral, with the charge on it taken off the collateral.
Exact, in fractions of a token.
-/
def reserve (book : Book) (asset : Asset) : Int :=
  (book.ledger asset).backing
    - (book.ledger asset).collateralCoeff.raw * (book.ledger asset).discountedCollateral
    + (book.ledger asset).chargeCoeff.raw * (book.ledger asset.other).discountedDebt

/-- The reserve in tokens: the balance and all debt net of relief, less all collateral net of its
charge.
-/
def surplus (book : Book) (asset : Asset) : ℚ :=
  let ledger := book.ledger asset
  ledger.balance + (ledger.debtCoeff.toRat - ledger.debtRelief.toRat) * ledger.discountedDebt
    - ledger.collateralCoeff.toRat * ledger.discountedCollateral
    + ledger.chargeCoeff.toRat * (book.ledger asset.other).discountedDebt

theorem surplus_eq (book : Book) (asset : Asset)
    : book.surplus asset = book.reserve asset / Q96.unit := by
  have unit : (Q96.unit : ℚ) ≠ 0 := by exact_mod_cast Nat.ne_of_gt Q96.unit_pos
  unfold surplus reserve Ledger.backing Ledger.netDebtCoeff Q96.toRat
  push_cast
  field_simp

/-- A reserve that falls by less than a token is a surplus that does. -/
theorem surplus_lt_of_reserve {book book' : Book} {asset : Asset}
    (less : book.reserve asset < book'.reserve asset + Q96.unit)
    : book.surplus asset - 1 < book'.surplus asset := by
  have unit : (0 : ℚ) < Q96.unit := by exact_mod_cast Q96.unit_pos
  have less : (book.reserve asset : ℚ) < book'.reserve asset + Q96.unit := by exact_mod_cast less
  rw [surplus_eq, surplus_eq, sub_lt_iff_lt_add, div_add_one unit.ne']
  exact div_lt_div_of_pos_right less unit

section Reserves

variable {book book' : Book} {account : AccountId} {asset : Asset}

theorem reserve_setLedger_same (book : Book) (asset : Asset) (ledger : Ledger)
    : (book.setLedger asset ledger).reserve asset
      = ledger.backing - ledger.collateralCoeff.raw * ledger.discountedCollateral
        + ledger.chargeCoeff.raw * (book.ledger asset.other).discountedDebt := by
  unfold reserve
  rw [ledger_setLedger_same, ledger_setLedger_other]

/-- A ledger of the same debt leaves the reserve of the other asset alone. -/
theorem reserve_setLedger_other {ledger : Ledger}
    (debt : ledger.discountedDebt = (book.ledger asset).discountedDebt)
    : (book.setLedger asset ledger).reserve asset.other = book.reserve asset.other := by
  unfold reserve
  rw [ledger_setLedger_other, Asset.other_other, ledger_setLedger_same, debt]

-----
-- Payments
-----

theorem reserve_payIn {amount : Nat} (paid : payIn asset amount book = .ok () book')
    : book'.reserve asset = book.reserve asset + amount * Q96.unit
      ∧ book'.reserve asset.other = book.reserve asset.other := by
  obtain rfl := payIn_ok paid
  refine ⟨?_, reserve_setLedger_other rfl⟩
  rw [reserve_setLedger_same]
  unfold reserve Ledger.backing Ledger.netDebtCoeff
  push_cast
  ring

theorem reserve_payOut {amount : Nat} (paid : payOut asset amount book = .ok () book')
    : book'.reserve asset = book.reserve asset - amount * Q96.unit
      ∧ book'.reserve asset.other = book.reserve asset.other := by
  obtain ⟨enough, rfl⟩ := payOut_ok paid
  refine ⟨?_, reserve_setLedger_other rfl⟩
  rw [reserve_setLedger_same]
  unfold reserve Ledger.backing Ledger.netDebtCoeff
  push_cast [enough]
  ring

/-- A filled order moves what it took and what it gave. -/
theorem reserve_settle {order : SwapOrder} {fill : Fill}
    (settled : settle order fill book = .ok () book')
    : book'.reserve order.tokenIn = book.reserve order.tokenIn - fill.amountIn * Q96.unit
      ∧ book'.reserve order.tokenIn.other
        = book.reserve order.tokenIn.other + fill.amountOut * Q96.unit := by
  obtain ⟨middle, out, into⟩ := settle_ok settled
  obtain ⟨outHere, outThere⟩ := reserve_payOut out
  obtain ⟨intoThere, intoHere⟩ := reserve_payIn into
  rw [Asset.other_other] at intoHere
  exact ⟨intoHere.trans outHere, by rw [intoThere, outThere]⟩

-----
-- Positions leave
-----

/-- A position that leaves takes its debt out of the reserve and puts its collateral net of its
charge back in.
-/
theorem Removed.reserve {position : Position} (gone : book.Removed account position book')
    (asset : Asset)
    : book'.reserve asset
        + (book.ledger asset).netDebtCoeff * (position.holding asset).debtAmount
        + (book.ledger asset).chargeCoeff.raw * (position.holding asset.other).debtAmount
      = book.reserve asset
        + (book.ledger asset).collateralCoeff.raw * (position.holding asset).collateralAmount := by
  have here := gone.exchanged asset
  have collateral : ((book'.ledger asset).discountedCollateral
      + (position.holding asset).collateralAmount : Int)
        = (book.ledger asset).discountedCollateral := by
    exact_mod_cast here.collateral
  have otherDebt : ((book'.ledger asset.other).discountedDebt
      + (position.holding asset.other).debtAmount : Int)
        = (book.ledger asset.other).discountedDebt := by
    exact_mod_cast (gone.exchanged asset.other).debt
  have backing := here.backing_eq
  rw [show Holding.empty.debtAmount = 0 from rfl] at backing
  have collateralCoeff : (book'.ledger asset).collateralCoeff
      = (book.ledger asset).collateralCoeff := by rw [here.rest]
  have chargeCoeff : (book'.ledger asset).chargeCoeff = (book.ledger asset).chargeCoeff := by
    rw [here.rest]
  unfold Book.reserve
  rw [collateralCoeff, chargeCoeff]
  linear_combination backing - (book.ledger asset).collateralCoeff.raw * collateral
    + (book.ledger asset).chargeCoeff.raw * otherDebt

-----
-- Gains and losses that are shared out
-----

/-- An account without debt in an asset is credited collateral worth no more than the amount, and
the other ledger stays as it is: with no debt repaid, nothing is rebased.
-/
theorem credit_of_unowed {real : Nat} (credited : credit account asset real book = .ok () book')
    (unowed : ((book.positionOf account).holding asset).debtAmount = 0)
    : book'.ledger asset.other = book.ledger asset.other
      ∧ ∃ added, added * (book.ledger asset).collateralCoeff.raw ≤ real * Q96.unit
          ∧ book'.ledger asset = { book.ledger asset with
              discountedCollateral := (book.ledger asset).discountedCollateral + added } := by
  rcases credit_ok credited with
      ⟨_, rfl⟩ | ⟨_, after, ledger, other, otherLedger, paid, rebased, rfl⟩
  · exact ⟨rfl, 0, by omega, rfl⟩
  · have unowedAfter := paid.debtAmount_le
    rw [unowed, Nat.le_zero] at unowedAfter
    rw [unowed, unowedAfter] at rebased
    obtain ⟨added, bound, grown⟩ := paid.eq_of_unowed unowed
    refine ⟨?_, added, bound, ?_⟩
    · rw [ledger_rebook_other, rebased.unmoved.2]
    · rw [ledger_rebook_same, grown]

/-- What is spread over the lenders takes no more than the amount from the reserve, whether they
have it or the fee holder.
-/
theorem reserve_shareAmongLenders (consistent : book.Consistent none) {amount : Nat}
    (shared : shareAmongLenders asset amount book = .ok () book')
    : book.reserve asset ≤ book'.reserve asset + amount * Q96.unit
      ∧ book'.reserve asset.other = book.reserve asset.other := by
  rcases shareAmongLenders_ok shared with
    ⟨rfl, rfl⟩ | ⟨_, credited⟩ | ⟨perUnit, coeff, ratio, raised, rfl⟩
  · exact ⟨by omega, rfl⟩
  · obtain ⟨there, added, bound, here⟩ :=
      credit_of_unowed credited (consistent.positionOf_feeHolder asset)
    have bound : (added * (book.ledger asset).collateralCoeff.raw : Int) ≤ amount * Q96.unit := by
      exact_mod_cast bound
    constructor
    · unfold reserve
      rw [here, there]
      unfold Ledger.backing Ledger.netDebtCoeff
      push_cast
      linarith
    · unfold reserve
      rw [there, Asset.other_other, here]
  · refine ⟨?_, reserve_setLedger_other rfl⟩
    have bound : (perUnit.raw * (book.ledger asset).discountedCollateral : Int)
        ≤ amount * Q96.unit := by
      exact_mod_cast (Q96.ofRatio_ok ratio).2.1
    have sum : (coeff.raw : Int) = (book.ledger asset).collateralCoeff.raw + perUnit.raw := by
      exact_mod_cast (Q96.add_eq_ok.mp raised).2
    rw [reserve_setLedger_same]
    unfold reserve Ledger.backing Ledger.netDebtCoeff
    rw [sum]
    linarith

/-- A charge to borrowers adds at least the shortfall that it is raised for. -/
theorem reserve_chargeBorrowers {shortfall : Nat}
    (charged : chargeBorrowers asset shortfall (book.ledger asset.other).discountedDebt book
      = .ok () book')
    : book.reserve asset + shortfall * Q96.unit ≤ book'.reserve asset
      ∧ book'.reserve asset.other = book.reserve asset.other := by
  obtain ⟨cut, coeff, quotient, raised, rfl⟩ := chargeBorrowers_ok charged
  refine ⟨?_, reserve_setLedger_other rfl⟩
  have bound : (shortfall * Q96.unit : Int) ≤ cut * (book.ledger asset.other).discountedDebt := by
    exact_mod_cast (mulDivUp_ok quotient).2.1
  have sum : (coeff.raw : Int) = (book.ledger asset).chargeCoeff.raw + cut := by
    exact_mod_cast (Q96.add_eq_ok.mp raised).2
  rw [reserve_setLedger_same]
  unfold reserve Ledger.backing Ledger.netDebtCoeff
  rw [sum]
  linarith

/-- Debt that is written off takes no more than the amount from the reserve. -/
theorem reserve_relieveDebt {amount : Nat}
    (relieved : relieveDebt asset amount (book.ledger asset).discountedDebt book = .ok () book')
    : book.reserve asset ≤ book'.reserve asset + amount * Q96.unit
      ∧ book'.reserve asset.other = book.reserve asset.other := by
  rcases relieveDebt_ok relieved with ⟨rfl, rfl⟩ | ⟨perUnit, coeff, ratio, raised, rfl⟩
  · exact ⟨by omega, rfl⟩
  · refine ⟨?_, reserve_setLedger_other rfl⟩
    have bound : (perUnit.raw * (book.ledger asset).discountedDebt : Int) ≤ amount * Q96.unit := by
      exact_mod_cast (Q96.ofRatio_ok ratio).2.1
    have sum : (coeff.raw : Int) = (book.ledger asset).debtRelief.raw + perUnit.raw := by
      exact_mod_cast (Q96.add_eq_ok.mp raised).2
    rw [reserve_setLedger_same]
    unfold reserve Ledger.backing Ledger.netDebtCoeff
    rw [sum]
    linarith

/-- Debt that is raised adds at least the shortfall that it is raised for. -/
theorem reserve_raiseDebt {shortfall : Nat}
    (raised : raiseDebt asset shortfall (book.ledger asset).discountedDebt book = .ok () book')
    : book.reserve asset + shortfall * Q96.unit ≤ book'.reserve asset
      ∧ book'.reserve asset.other = book.reserve asset.other := by
  obtain ⟨perUnit, coeff, quotient, added, rfl⟩ := raiseDebt_ok raised
  refine ⟨?_, reserve_setLedger_other rfl⟩
  have bound : (shortfall * Q96.unit : Int) ≤ perUnit * (book.ledger asset).discountedDebt := by
    exact_mod_cast (mulDivUp_ok quotient).2.1
  have sum : (coeff.raw : Int) = (book.ledger asset).debtCoeff.raw + perUnit := by
    exact_mod_cast (Q96.add_eq_ok.mp added).2
  rw [reserve_setLedger_same]
  unfold reserve Ledger.backing Ledger.netDebtCoeff
  rw [sum]
  linarith

end Reserves

end Book

end MarginLending
