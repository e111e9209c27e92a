import MarginLending.Proofs.Book.Changes
import MarginLending.Proofs.Claims
import Mathlib.Tactic.LinearCombination
import Mathlib.Tactic.Ring

/-!
How far the claims on an asset exceed what backs them. Bookings and payments move both sides by the
same amount but for what they round off, which is less than one token each in one asset and nothing
in the other.
-/

namespace MarginLending

theorem Ledger.Exchanges.claim_eq {before after : Ledger} {old new : Holding}
    (exchanges : before.Exchanges after old new)
    : after.claim = before.claim := by
  rw [exchanges.rest]
  rfl

/-- An exchange of holdings changes the backing by the debt that comes and goes. -/
theorem Ledger.Exchanges.backing_eq {before after : Ledger} {old new : Holding}
    (exchanges : before.Exchanges after old new)
    : after.backing + before.netDebtCoeff * old.debtAmount
      = before.backing + before.netDebtCoeff * new.debtAmount := by
  have debt : (after.discountedDebt + old.debtAmount : Int)
      = before.discountedDebt + new.debtAmount := by
    exact_mod_cast exchanges.debt
  have coeff : after.netDebtCoeff = before.netDebtCoeff := by
    rw [exchanges.rest]
    rfl
  have balance : after.balance = before.balance := by
    rw [exchanges.rest]
  unfold Ledger.backing
  rw [coeff, balance]
  linear_combination before.netDebtCoeff * debt

namespace Book

/-- Exact net collateral of all positions in an asset. -/
def claims (book : Book) (asset : Asset) : Nat :=
  book.positions.sumOf fun position =>
    (book.ledger asset).claim (position.holding asset).collateralAmount
      (position.holding asset.other).debtAmount

/-- How far the claims on an asset exceed what backs them, exactly. -/
def gap (book : Book) (asset : Asset) : Int := book.claims asset - (book.ledger asset).backing

/-- The exact worth of a position in an asset. -/
def worthIn (book : Book) (position : Position) (asset : Asset) : Int :=
  (book.ledger asset).worth (position.holding asset) (position.holding asset.other).debtAmount

section Backing

variable {book book' : Book} {account : AccountId} {asset : Asset} {real : Nat}

/-- Claims depend on the claims of the ledger and on the positions only. -/
theorem claims_congr (claim : (book'.ledger asset).claim = (book.ledger asset).claim)
    (positions : book'.positions = book.positions)
    : book'.claims asset = book.claims asset := by
  unfold claims
  rw [claim, positions]

theorem gap_congr (ledger : book'.ledger asset = book.ledger asset)
    (positions : book'.positions = book.positions)
    : book'.gap asset = book.gap asset := by
  unfold gap
  rw [claims_congr (congrArg Ledger.claim ledger) positions, ledger]

/-- Replacing a ledger leaves the other asset alone. -/
theorem gap_setLedger_other (book : Book) (asset : Asset) (ledger : Ledger)
    : (book.setLedger asset ledger).gap asset.other = book.gap asset.other :=
  gap_congr (ledger_setLedger_other _ _ _) rfl

theorem claims_setLedger_other (book : Book) (asset : Asset) (ledger : Ledger)
    : (book.setLedger asset ledger).claims asset.other = book.claims asset.other :=
  claims_congr (congrArg Ledger.claim (ledger_setLedger_other _ _ _)) rfl

/-- Seats are worth nothing. -/
theorem Reranked.gap (reranked : book.Reranked book') (asset : Asset)
    : book'.gap asset = book.gap asset := by
  have claims : book'.claims asset = book.claims asset := by
    unfold Book.claims
    rw [reranked.ledger]
    exact reranked.sums fun holdings =>
      (book.ledger asset).claim (holdings.get asset).collateralAmount
        (holdings.get asset.other).debtAmount
  unfold Book.gap
  rw [claims, reranked.ledger]

-----
-- Bookings and payments move both sides of a gap
-----

theorem Rebooked.claims {after : Position} (rebooked : book.Rebooked account after book')
    (asset : Asset)
    : book'.claims asset + (book.ledger asset).claim
          ((book.positionOf account).holding asset).collateralAmount
          ((book.positionOf account).holding asset.other).debtAmount
      = book.claims asset + (book.ledger asset).claim (after.holding asset).collateralAmount
          (after.holding asset.other).debtAmount := by
  unfold Book.claims
  rw [(rebooked.booked asset).claim_eq, rebooked.positions,
    ← measureAt_positions (fun position => (book.ledger asset).claim
      (position.holding asset).collateralAmount (position.holding asset.other).debtAmount)
      (by cases asset <;> exact Ledger.claim_zero _ _) book account]
  exact book.positions.sumOf_insert _ account after

/-- A booking moves the gap by what the position gains in worth. -/
theorem Rebooked.gap {after : Position} (rebooked : book.Rebooked account after book')
    (asset : Asset)
    : book'.gap asset + book.worthIn (book.positionOf account) asset
      = book.gap asset + book.worthIn after asset := by
  have claims := rebooked.claims asset
  have backing := (rebooked.booked asset).backing_eq
  unfold Book.gap worthIn Ledger.worth
  omega

/-- A credit opens the gap by what is paid and less than a token more, and the other one not at all.
-/
theorem gap_credit (credited : credit account asset real book = .ok () book')
    : book'.gap asset ≤ book.gap asset + (real + 1) * Q96.unit
      ∧ book'.gap asset.other ≤ book.gap asset.other := by
  rcases credit_ok credited with
      ⟨rfl, rfl⟩ | ⟨_, after, ledger, other, otherLedger, paid, rebased, rfl⟩
  · have := Q96.unit_pos
    constructor
    · push_cast
      omega
    · exact le_refl _
  · have rebooked := rebooked_rebook paid.exchanges.normalized rebased.exchanges
    have here := rebooked.gap asset
    have there := rebooked.gap asset.other
    have worth := paid.worth_le ((book.positionOf account).holding asset.other).debtAmount
    have otherWorth := rebased.worth_le
    simp only [worthIn, holding_rebook_other, Position.holding_setHolding_same,
      Asset.other_other, Ledger.worth_normalized, Holding.debtAmount_normalized,
      rebased.debtAmount_eq] at here there
    constructor
    · linarith
    · linarith

/-- A debit closes the gap by at least what is debited, and leaves the other one no wider. -/
theorem gap_debit (debited : debit account asset real book = .ok () book')
    : book'.gap asset ≤ book.gap asset - real * Q96.unit
      ∧ book'.gap asset.other ≤ book.gap asset.other := by
  rcases debit_ok debited with
    ⟨rfl, rfl⟩ | ⟨_, charge, after, ledger, other, otherLedger, charged, taken, rebased, _, rfl⟩
  · simp
  · have rebooked := rebooked_rebook taken.exchanges.normalized rebased.exchanges
    have here := rebooked.gap asset
    have there := rebooked.gap asset.other
    have worth := taken.worth_le charged
    have otherWorth := rebased.worth_le
    simp only [worthIn, holding_rebook_other, Position.holding_setHolding_same,
      Asset.other_other, Ledger.worth_normalized, Holding.debtAmount_normalized,
      rebased.debtAmount_eq] at here there
    constructor
    · linarith
    · linarith

/-- A ledger with the same coefficients on collateral leaves all claims alone. -/
theorem claims_setLedger {ledger : Ledger} (claim : ledger.claim = (book.ledger asset).claim)
    (side : Asset)
    : (book.setLedger asset ledger).claims side = book.claims side := by
  rcases asset.eq_or_eq_other side with rfl | rfl
  · exact claims_congr (by rw [ledger_setLedger_same, claim]) rfl
  · exact claims_setLedger_other _ _ _

/-- A ledger with the same claims moves the gap by what its backing gains. -/
theorem gap_setLedger_same {ledger : Ledger} (claim : ledger.claim = (book.ledger asset).claim)
    : (book.setLedger asset ledger).gap asset
      = book.gap asset + (book.ledger asset).backing - ledger.backing := by
  unfold gap
  rw [claims_setLedger claim, ledger_setLedger_same]
  omega

theorem gap_payIn {amount : Nat} (paid : payIn asset amount book = .ok () book')
    : book'.gap asset = book.gap asset - amount * Q96.unit
      ∧ book'.gap asset.other = book.gap asset.other := by
  obtain rfl := payIn_ok paid
  refine ⟨?_, gap_setLedger_other _ _ _⟩
  rw [gap_setLedger_same]
  · unfold Ledger.backing Ledger.netDebtCoeff
    push_cast
    ring
  · rfl

theorem gap_payOut {amount : Nat} (paid : payOut asset amount book = .ok () book')
    : book'.gap asset = book.gap asset + amount * Q96.unit
      ∧ book'.gap asset.other = book.gap asset.other := by
  obtain ⟨enough, rfl⟩ := payOut_ok paid
  refine ⟨?_, gap_setLedger_other _ _ _⟩
  rw [gap_setLedger_same]
  · unfold Ledger.backing Ledger.netDebtCoeff
    push_cast [enough]
    ring
  · rfl

/-- A filled order takes its input from the backing of one asset and adds its output to the other.
-/
theorem gap_settle {order : SwapOrder} {fill : Fill}
    (settled : settle order fill book = .ok () book')
    : book'.gap order.tokenIn = book.gap order.tokenIn + fill.amountIn * Q96.unit
      ∧ book'.gap order.tokenIn.other
        = book.gap order.tokenIn.other - fill.amountOut * Q96.unit := by
  obtain ⟨middle, out, into⟩ := settle_ok settled
  obtain ⟨outHere, outThere⟩ := gap_payOut out
  obtain ⟨intoThere, intoHere⟩ := gap_payIn into
  rw [Asset.other_other] at intoHere
  constructor
  · rw [intoHere, outHere]
  · rw [intoThere, outThere]

/-- Tokens that come and go are no claims. -/
theorem claims_settle {order : SwapOrder} {fill : Fill}
    (settled : settle order fill book = .ok () book') (side : Asset)
    : book'.claims side = book.claims side := by
  obtain ⟨middle, out, into⟩ := settle_ok settled
  have spent : middle.claims side = book.claims side := by
    obtain ⟨_, rfl⟩ := payOut_ok out
    rw [claims_setLedger]
    exact Ledger.claim_congr rfl rfl
  have gained : book'.claims side = middle.claims side := by
    obtain rfl := payIn_ok into
    rw [claims_setLedger]
    exact Ledger.claim_congr rfl rfl
  exact gained.trans spent

/-- What a filled order takes was there, and what it brings in fits in with what was. -/
theorem settle_fits {order : SwapOrder} {fill : Fill}
    (settled : settle order fill book = .ok () book')
    : fill.amountIn ≤ (book.ledger order.tokenIn).balance
      ∧ (book.ledger order.tokenIn.other).balance + fill.amountOut < amountLimit := by
  obtain ⟨middle, out, into⟩ := settle_ok settled
  obtain ⟨enough, rfl⟩ := payOut_ok out
  refine ⟨enough, ?_⟩
  obtain ⟨_, changed, _⟩ := modifyLedger_ok.mp into
  simp only [Except.bind_eq_ok, Except.liftMath_eq_ok, Amount.add_eq_ok_iff, ledger_setLedger_other]
    at changed
  obtain ⟨_, ⟨_, inRange⟩, _⟩ := changed
  exact inRange

/-- What a filled order brings in is an amount. -/
theorem settle_amountOut_lt {order : SwapOrder} {fill : Fill}
    (settled : settle order fill book = .ok () book')
    : fill.amountOut < amountLimit :=
  Nat.lt_of_le_of_lt (Nat.le_add_left ..) (settle_fits settled).2

theorem gap_refreshLeverage {price : Q96} (refreshed : refreshLeverage price book = .ok () book')
    : book'.gap asset = book.gap asset := by
  obtain ⟨leverage, rfl⟩ := refreshLeverage_ok refreshed
  exact gap_congr rfl rfl

-----
-- Positions leave with what they claim and owe
-----

section Removal

variable {position : Position}

theorem Removed.claims (gone : book.Removed account position book') (asset : Asset)
    : book'.claims asset + (book.ledger asset).claim (position.holding asset).collateralAmount
          (position.holding asset.other).debtAmount
      = book.claims asset := by
  unfold Book.claims
  rw [(gone.exchanged asset).claim_eq]
  exact gone.sums fun holdings =>
    (book.ledger asset).claim (holdings.get asset).collateralAmount
      (holdings.get asset.other).debtAmount

/-- A position that leaves takes its worth with it. -/
theorem Removed.gap (gone : book.Removed account position book') (asset : Asset)
    : book'.gap asset + book.worthIn position asset = book.gap asset := by
  have claims := gone.claims asset
  have backing := (gone.exchanged asset).backing_eq
  have nothing : Holding.empty.debtAmount = 0 := rfl
  rw [nothing] at backing
  unfold Book.gap worthIn Ledger.worth
  omega

/-- A position that has not started is worth nothing. -/
theorem worthIn_of_uninitialized (book : Book) (asset : Asset)
    (unstarted : position.kind = .uninitialized)
    : book.worthIn position asset = 0 := by
  obtain ⟨noCollateral, noDebt⟩ := amounts_of_uninitialized unstarted asset
  simp [worthIn, Ledger.worth, noCollateral, noDebt]

theorem gap_dropIfEmpty (dropped : dropIfEmpty account book = .ok () book')
    : book'.gap asset = book.gap asset := by
  rcases dropIfEmpty_ok dropped with rfl | ⟨unstarted, removed⟩
  · rfl
  · rcases removed_of_removePosition removed with ⟨_, rfl⟩ | ⟨position, found, gone⟩
    · rfl
    · have worth := worthIn_of_uninitialized book asset (kind_of_unstarted unstarted found)
      have gap := gone.gap asset
      omega

/-- Seating an account anew, dropping it if it is empty and storing the leverage moves no gap. -/
theorem gap_finish {dropped : Book} {price : Q96}
    (drops : dropIfEmpty account (book.reseat account) = .ok () dropped)
    (refreshes : refreshLeverage price dropped = .ok () book')
    : book'.gap asset = book.gap asset := by
  rw [gap_refreshLeverage refreshes, gap_dropIfEmpty drops, (book.reranked_reseat account).gap]

theorem gap_handOver {bad : Position} {badAccount receiver : AccountId} {debtAsset : Asset}
    (found : book.position? badAccount = some bad) (owes : bad.kind.debtAsset? = some debtAsset)
    (unstarted : book.kindOf receiver = .uninitialized)
    : (book.handOver bad badAccount receiver).gap asset = book.gap asset := by
  have claims : (book.handOver bad badAccount receiver).claims asset = book.claims asset := by
    unfold claims
    rw [ledger_handOver]
    apply sumOf_handOver found owes unstarted
    intro position empty
    rw [(amounts_of_uninitialized empty asset).1, Ledger.claim_zero]
  unfold gap
  rw [claims, ledger_handOver]

end Removal

-----
-- Losses and gains of a margin call
-----

/-- What is spread over the lenders opens the gap by less than a token more. -/
theorem gap_shareAmongLenders (consistent : book.Consistent none) {amount : Nat}
    (shared : shareAmongLenders asset amount book = .ok () book')
    : book'.gap asset ≤ book.gap asset + (amount + 1) * Q96.unit
      ∧ book'.gap asset.other ≤ book.gap asset.other := by
  rcases shareAmongLenders_ok shared with
    ⟨rfl, rfl⟩ | ⟨_, credited⟩ | ⟨perUnit, coeff, ratio, raised, rfl⟩
  · have := Q96.unit_pos
    constructor
    · push_cast
      omega
    · exact le_refl _
  · exact gap_credit credited
  · refine ⟨?_, (gap_setLedger_other _ _ _).le⟩
    have bound := (Q96.ofRatio_ok ratio).2.1
    rw [consistent.collateralTallied] at bound
    have sum := (Q96.add_eq_ok.mp raised).2
    have grown : (book.setLedger asset
        { book.ledger asset with collateralCoeff := coeff }).claims asset
          ≤ book.claims asset + perUnit.raw * book.collateralSum asset := by
      unfold claims
      rw [ledger_setLedger_same]
      apply AccountTable.sumOf_le_add_mul _
      intro position
      simp only [Ledger.claim, sum, Nat.add_mul]
      omega
    unfold gap
    rw [ledger_setLedger_same]
    have : ({ book.ledger asset with collateralCoeff := coeff } : Ledger).backing
        = (book.ledger asset).backing := rfl
    rw [this]
    have wide : (book.claims asset + perUnit.raw * book.collateralSum asset : Int)
        ≤ book.claims asset + amount * Q96.unit := by
      exact_mod_cast Nat.add_le_add_left bound _
    have := Q96.unit_pos
    push_cast
    zify at grown
    linarith

/-- What is spread over the lenders of one asset leaves the claims on the other one alone: the fee
holder, who may get it, owes nothing.
-/
theorem claims_shareAmongLenders_other (consistent : book.Consistent none) {amount : Nat}
    (shared : shareAmongLenders asset amount book = .ok () book')
    : book'.claims asset.other = book.claims asset.other := by
  rcases shareAmongLenders_ok shared with ⟨_, rfl⟩ | ⟨_, credited⟩ | ⟨_, _, _, _, rfl⟩
  · rfl
  · rcases credit_ok credited with
      ⟨_, rfl⟩ | ⟨_, after, ledger, other, otherLedger, paid, rebased, rfl⟩
    · rfl
    · have noDebt := consistent.positionOf_feeHolder asset
      have noDebtAfter := paid.debtAmount_le
      have unmoved : after.debtAmount
          = ((book.positionOf .feeHolder).holding asset).debtAmount := by
        omega
      have claims :=
        (rebooked_rebook paid.exchanges.normalized rebased.exchanges).claims asset.other
      rw [unmoved] at rebased
      obtain ⟨rfl, _⟩ := rebased.unmoved
      simp only [Position.holding_setHolding_same, Asset.other_other, holding_rebook_other,
        Holding.debtAmount_normalized, unmoved] at claims
      omega
  · exact claims_setLedger_other _ _ _

/-- A charge to borrowers lowers claims and leaves the backing alone. -/
theorem gap_chargeBorrowers {shortfall owed : Nat}
    (charged : chargeBorrowers asset shortfall owed book = .ok () book')
    : book'.gap asset = book.gap asset + book'.claims asset - book.claims asset
      ∧ book'.gap asset.other = book.gap asset.other := by
  obtain ⟨_, coeff, _, _, rfl⟩ := chargeBorrowers_ok charged
  refine ⟨?_, gap_setLedger_other _ _ _⟩
  have backing : ({ book.ledger asset with chargeCoeff := coeff } : Ledger).backing
      = (book.ledger asset).backing := rfl
  unfold gap
  rw [ledger_setLedger_same, backing]
  omega

theorem ledger_chargeBorrowers_other {shortfall owed : Nat}
    (charged : chargeBorrowers asset shortfall owed book = .ok () book')
    : book'.ledger asset.other = book.ledger asset.other := by
  obtain ⟨_, _, _, _, rfl⟩ := chargeBorrowers_ok charged
  exact ledger_setLedger_other _ _ _

/-- Debt that is written off was no claim. -/
theorem claims_relieveDebt {amount owed : Nat}
    (relieved : relieveDebt asset amount owed book = .ok () book') (side : Asset)
    : book'.claims side = book.claims side := by
  rcases relieveDebt_ok relieved with ⟨_, rfl⟩ | ⟨_, coeff, _, _, rfl⟩
  · rfl
  · rw [claims_setLedger]
    exact Ledger.claim_congr rfl rfl

/-- Debt that is written off no longer backs anything. -/
theorem gap_relieveDebt {amount : Nat}
    (relieved : relieveDebt asset amount (book.ledger asset).discountedDebt book = .ok () book')
    : book'.gap asset ≤ book.gap asset + amount * Q96.unit
      ∧ book'.gap asset.other = book.gap asset.other := by
  rcases relieveDebt_ok relieved with ⟨rfl, rfl⟩ | ⟨perUnit, coeff, ratio, raised, rfl⟩
  · simp
  · refine ⟨?_, gap_setLedger_other _ _ _⟩
    have bound : (perUnit.raw * (book.ledger asset).discountedDebt : Int) ≤ amount * Q96.unit := by
      exact_mod_cast (Q96.ofRatio_ok ratio).2.1
    have sum : (coeff.raw : Int) = (book.ledger asset).debtRelief.raw + perUnit.raw := by
      exact_mod_cast (Q96.add_eq_ok.mp raised).2
    rw [gap_setLedger_same]
    · unfold Ledger.backing Ledger.netDebtCoeff
      rw [sum]
      linarith
    · rfl

/-- Debt that is raised backs at least the shortfall it was raised for. -/
theorem gap_raiseDebt {shortfall : Nat}
    (raised : raiseDebt asset shortfall (book.ledger asset).discountedDebt book = .ok () book')
    : book'.gap asset ≤ book.gap asset - shortfall * Q96.unit
      ∧ book'.gap asset.other = book.gap asset.other := by
  obtain ⟨perUnit, coeff, quotient, added, rfl⟩ := raiseDebt_ok raised
  refine ⟨?_, gap_setLedger_other _ _ _⟩
  have bound : (shortfall * Q96.unit : Int) ≤ perUnit * (book.ledger asset).discountedDebt := by
    exact_mod_cast (mulDivUp_ok quotient).2.1
  have sum : (coeff.raw : Int) = (book.ledger asset).debtCoeff.raw + perUnit := by
    exact_mod_cast (Q96.add_eq_ok.mp added).2
  rw [gap_setLedger_same]
  · unfold Ledger.backing Ledger.netDebtCoeff
    rw [sum]
    linarith
  · rfl

end Backing

-----
-- Accrual grows debt by what lenders and the fee holder get
-----

/-- Interest and fee, both rounded down, come to no more than the exact growth of the debt. The
letters count in fractions of a token: the unit, both growth factors, the share of the fee in the
growth, and the exact debt.
-/
theorem growth_of_debt {unit interestGrowth feeGrowth share debt : Int} {real interest fee : Int}
    (interestUp : unit ≤ interestGrowth) (feeUp : unit ≤ feeGrowth) (positive : 0 ≤ unit)
    (owed : 0 ≤ real) (realDebt : real * unit ≤ debt)
    (interestOf : interest * unit ≤ (interestGrowth - unit) * real)
    (shareOf : share * unit ≤ interestGrowth * (feeGrowth - unit))
    (feeOf : fee * unit ≤ share * real)
    : (interest + fee) * unit * (unit * unit)
      ≤ debt * (interestGrowth * feeGrowth - unit * unit) := by
  have square : 0 ≤ unit * unit := mul_nonneg positive positive
  have ofInterest : interest * unit * (unit * unit) ≤ (interestGrowth - unit) * unit * debt :=
    calc interest * unit * (unit * unit)
        ≤ (interestGrowth - unit) * real * (unit * unit) :=
          mul_le_mul_of_nonneg_right interestOf square
      _ = (interestGrowth - unit) * unit * (real * unit) := by ring
      _ ≤ (interestGrowth - unit) * unit * debt :=
          mul_le_mul_of_nonneg_left realDebt (mul_nonneg (by linarith) positive)
  have ofFee : fee * unit * (unit * unit) ≤ interestGrowth * (feeGrowth - unit) * debt :=
    calc fee * unit * (unit * unit)
        ≤ share * real * (unit * unit) := mul_le_mul_of_nonneg_right feeOf square
      _ = share * unit * (real * unit) := by ring
      _ ≤ interestGrowth * (feeGrowth - unit) * (real * unit) :=
          mul_le_mul_of_nonneg_right shareOf (mul_nonneg owed positive)
      _ ≤ interestGrowth * (feeGrowth - unit) * debt :=
          mul_le_mul_of_nonneg_left realDebt (mul_nonneg (by linarith) (by linarith))
  linarith

/-- Growing a coefficient by two factors, each time rounded down, loses less than one unit for each
factor, the first one grown by the second factor.
-/
theorem growth_of_coeff {unit first second coeff once twice : Int} (positive : 0 ≤ unit)
    (secondUp : 0 ≤ second) (onceOf : coeff * first ≤ once * unit + unit)
    (twiceOf : once * second ≤ twice * unit + unit)
    : coeff * first * second ≤ twice * (unit * unit) + unit * second + unit * unit := by
  have step := mul_le_mul_of_nonneg_right onceOf secondUp
  have stepTwice := mul_le_mul_of_nonneg_right twiceOf positive
  linarith

/-- A coefficient that was grown by two factors, each time rounded down, did not grow by more. -/
theorem coeff_of_growth {unit first second coeff once twice : Int} (positive : 0 ≤ unit)
    (secondUp : 0 ≤ second) (onceOf : once * unit ≤ coeff * first)
    (twiceOf : twice * unit ≤ once * second)
    : twice * (unit * unit) ≤ coeff * first * second := by
  have step := mul_le_mul_of_nonneg_right onceOf secondUp
  have stepTwice := mul_le_mul_of_nonneg_right twiceOf positive
  linarith

section Accrual

variable {book book' : Book} {asset : Asset}

/-- The net debt coefficient grows by both factors, but for what rounding takes. -/
theorem netDebtCoeff_grow {ledger after : Ledger}
    {interestGrowth feeGrowth grownDebt grownRelief : Q96}
    (debtOnce : ledger.debtCoeff.mul interestGrowth = .ok grownDebt)
    (debtTwice : grownDebt.mul feeGrowth = .ok after.debtCoeff)
    (reliefOnce : ledger.debtRelief.mul interestGrowth = .ok grownRelief)
    (reliefTwice : grownRelief.mul feeGrowth = .ok after.debtRelief)
    : ledger.netDebtCoeff * (interestGrowth.raw * feeGrowth.raw)
      ≤ after.netDebtCoeff * (Q96.unit * Q96.unit) + Q96.unit * feeGrowth.raw
        + Q96.unit * Q96.unit := by
  have debtOnce : (ledger.debtCoeff.raw * interestGrowth.raw : Int)
      ≤ grownDebt.raw * Q96.unit + Q96.unit := by
    exact_mod_cast (Q96.mul_ok debtOnce).2.le
  have debtTwice : (grownDebt.raw * feeGrowth.raw : Int)
      ≤ after.debtCoeff.raw * Q96.unit + Q96.unit := by
    exact_mod_cast (Q96.mul_ok debtTwice).2.le
  have reliefOnce : (grownRelief.raw * Q96.unit : Int)
      ≤ ledger.debtRelief.raw * interestGrowth.raw := by
    exact_mod_cast (Q96.mul_ok reliefOnce).1
  have reliefTwice : (after.debtRelief.raw * Q96.unit : Int)
      ≤ grownRelief.raw * feeGrowth.raw := by
    exact_mod_cast (Q96.mul_ok reliefTwice).1
  have debt := growth_of_coeff (Int.natCast_nonneg _) (Int.natCast_nonneg _) debtOnce debtTwice
  have relief := coeff_of_growth (Int.natCast_nonneg _) (Int.natCast_nonneg _) reliefOnce
    reliefTwice
  unfold Ledger.netDebtCoeff
  linarith

/-- What rounding the growth of all debt takes is less than two tokens. -/
theorem rounding_le {debt growth : Nat} (small : debt < Nat.pow 2 94)
    (slow : growth < 4 * Q96.unit)
    : ((Q96.unit * growth + Q96.unit * Q96.unit) * debt : Int)
      ≤ 2 * Q96.unit * (Q96.unit * Q96.unit) := by
  have few : 5 * debt ≤ 2 * Q96.unit := by
    have quarter : 4 * Nat.pow 2 94 = Q96.unit := by decide
    omega
  have each : Q96.unit * growth + Q96.unit * Q96.unit ≤ 5 * (Q96.unit * Q96.unit) := by
    have := Nat.mul_le_mul_left Q96.unit (Nat.le_of_lt slow)
    linarith
  exact_mod_cast calc (Q96.unit * growth + Q96.unit * Q96.unit) * debt
      ≤ 5 * (Q96.unit * Q96.unit) * debt := Nat.mul_le_mul_right _ each
    _ = 5 * debt * (Q96.unit * Q96.unit) := by ring
    _ ≤ 2 * Q96.unit * (Q96.unit * Q96.unit) := Nat.mul_le_mul_right _ few

/-- Growth raises the collateral coefficient by the interest at most, and all debt by interest and
fee but for what rounding its two coefficients takes. What is compared is exact, in fractions of a
token.
-/
theorem income_grow {ledger after : Ledger} {interestGrowth feeGrowth : Q96} {fee : Nat}
    (grown : ledger.grow interestGrowth feeGrowth = .ok (after, fee))
    : ∃ raise interest : Nat,
        after.collateralCoeff.raw = ledger.collateralCoeff.raw + raise
        ∧ raise * ledger.discountedCollateral ≤ interest * Q96.unit
        ∧ ((interest + fee) * Q96.unit * (Q96.unit * Q96.unit) : Int)
          ≤ (after.netDebtCoeff - ledger.netDebtCoeff) * ledger.discountedDebt
              * (Q96.unit * Q96.unit)
            + (Q96.unit * feeGrowth.raw + Q96.unit * Q96.unit) * ledger.discountedDebt := by
  obtain ⟨debt, interestPart, interest, feePart, feeGrowthPart, grownDebt, grownRelief, owed, part,
    scaled, partOfFee, product, feeScaled, raised, debtOnce, debtTwice, reliefOnce, reliefTwice,
    _⟩ := grow_ok grown
  obtain ⟨interestUp, interestPart_eq⟩ := Q96.sub_eq_ok.mp part
  obtain ⟨feeUp, feePart_eq⟩ := Q96.sub_eq_ok.mp partOfFee
  have interestOf : (interest * Q96.unit : Int) ≤ (interestGrowth.raw - Q96.unit) * debt := by
    have := (Q96.scale_ok scaled).1
    rw [interestPart_eq] at this
    zify [interestUp] at this
    exact this
  have shareOf : (feeGrowthPart.raw * Q96.unit : Int)
      ≤ interestGrowth.raw * (feeGrowth.raw - Q96.unit) := by
    have := (Q96.mul_ok product).1
    rw [feePart_eq] at this
    zify [feeUp] at this
    exact this
  have feeOf : (fee * Q96.unit : Int) ≤ feeGrowthPart.raw * debt := by
    exact_mod_cast (Q96.scale_ok feeScaled).1
  have income := growth_of_debt (by exact_mod_cast interestUp) (by exact_mod_cast feeUp)
    (Int.natCast_nonneg _) (Int.natCast_nonneg _) (Ledger.realDebt_bounds owed).1 interestOf shareOf
    feeOf
  have growth := mul_le_mul_of_nonneg_right
    (netDebtCoeff_grow debtOnce debtTwice reliefOnce reliefTwice)
    (Int.natCast_nonneg ledger.discountedDebt)
  have earned : ((interest + fee) * Q96.unit * (Q96.unit * Q96.unit) : Int)
      ≤ (after.netDebtCoeff - ledger.netDebtCoeff) * ledger.discountedDebt * (Q96.unit * Q96.unit)
        + (Q96.unit * feeGrowth.raw + Q96.unit * Q96.unit) * ledger.discountedDebt := by
    linarith
  rcases raised with ⟨_, same⟩ | ⟨perUnit, ratio, sum⟩
  · exact ⟨0, interest, by rw [same, Nat.add_zero], by omega, earned⟩
  · exact ⟨perUnit.raw, interest, (Q96.add_eq_ok.mp sum).2, (Q96.ofRatio_ok ratio).2.1, earned⟩

/-- Growth raises claims by the interest at most, and backing by interest and fee, but for two
tokens of rounding while discounted debt and the fee's growth factor stay moderate.
-/
theorem backing_grow {ledger after : Ledger} {interestGrowth feeGrowth : Q96} {fee : Nat}
    (grown : ledger.grow interestGrowth feeGrowth = .ok (after, fee))
    (small : ledger.discountedDebt < Nat.pow 2 94) (slow : feeGrowth.raw < 4 * Q96.unit)
    : ∃ raise,
        (∀ discounted otherDebt, after.claim discounted otherDebt
          ≤ ledger.claim discounted otherDebt + raise * discounted)
        ∧ (raise * ledger.discountedCollateral + fee * Q96.unit : Int) + ledger.backing
          ≤ after.backing + 2 * Q96.unit := by
  have rest := grow_rest grown
  obtain ⟨raise, interest, coeff, bound, income⟩ := income_grow grown
  have positive : (0 : Int) < Q96.unit := by exact_mod_cast Q96.unit_pos
  have square : (0 : Int) < Q96.unit * Q96.unit := mul_pos positive positive
  have rounding := rounding_le small slow
  have earned : ((interest + fee) * Q96.unit : Int)
      ≤ (after.netDebtCoeff - ledger.netDebtCoeff) * ledger.discountedDebt + 2 * Q96.unit := by
    refine le_of_mul_le_mul_right ?_ square
    linarith
  refine ⟨raise, ?_, ?_⟩
  · intro discounted otherDebt
    have charge : after.chargeCoeff = ledger.chargeCoeff := by rw [rest]
    unfold Ledger.claim
    rw [coeff, charge, Nat.add_mul]
    omega
  · have balance : after.balance = ledger.balance := by rw [rest]
    have debts : after.discountedDebt = ledger.discountedDebt := by rw [rest]
    have bound : (raise * ledger.discountedCollateral : Int) ≤ interest * Q96.unit := by
      exact_mod_cast bound
    unfold Ledger.backing
    rw [balance, debts]
    linarith

/-- Accrual on one side opens its gap by three tokens at most. -/
theorem gap_accrueSide (consistent : book.Consistent none) {interestRate feeGrowth : Q96}
    {seconds : Nat}
    (accrued : accrueSide interestRate feeGrowth seconds asset book = .ok () book')
    (small : (book.ledger asset).discountedDebt < Nat.pow 2 94)
    (slow : feeGrowth.raw < 4 * Q96.unit)
    : book'.gap asset ≤ book.gap asset + 3 * Q96.unit := by
  rcases accrueSide_ok accrued with ⟨_, rfl⟩ | ⟨_, _, ledger, fee, _, _, grown, credited⟩
  · have := Q96.unit_pos
    omega
  · obtain ⟨raise, claim, backing⟩ := backing_grow grown small slow
    have paid := (gap_credit credited).1
    rw [consistent.collateralTallied] at backing
    have claims : (book.setLedger asset ledger).claims asset
        ≤ book.claims asset + raise * book.collateralSum asset := by
      unfold claims
      rw [ledger_setLedger_same]
      exact AccountTable.sumOf_le_add_mul _ fun position => claim _ _
    have opened : (book.setLedger asset ledger).gap asset + fee * Q96.unit
        ≤ book.gap asset + 2 * Q96.unit := by
      unfold gap
      rw [ledger_setLedger_same]
      zify at claims
      linarith
    linarith

/-- Accrual on one side does not open the gap of the other. -/
theorem gap_accrueSide_other {interestRate feeGrowth : Q96} {seconds : Nat}
    (accrued : accrueSide interestRate feeGrowth seconds asset book = .ok () book')
    : book'.gap asset.other ≤ book.gap asset.other := by
  rcases accrueSide_ok accrued with ⟨_, rfl⟩ | ⟨_, _, ledger, _, _, _, _, credited⟩
  · exact le_refl _
  · have paid := (gap_credit credited).2
    rwa [gap_setLedger_other] at paid

/-- A credit in one asset leaves the debt in the other one alone. -/
theorem discountedDebt_credit_other {account : AccountId} {real : Nat}
    (credited : credit account asset real book = .ok () book')
    : (book'.ledger asset.other).discountedDebt = (book.ledger asset.other).discountedDebt := by
  rcases credit_ok credited with ⟨_, rfl⟩ | ⟨_, after, ledger, other, otherLedger, _, rebased, rfl⟩
  · rfl
  · have debt := rebased.exchanges.debt
    rw [rebased.debtAmount_eq] at debt
    rw [ledger_rebook_other]
    omega

theorem discountedDebt_accrueSide_other {interestRate feeGrowth : Q96} {seconds : Nat}
    (accrued : accrueSide interestRate feeGrowth seconds asset book = .ok () book')
    : (book'.ledger asset.other).discountedDebt = (book.ledger asset.other).discountedDebt := by
  rcases accrueSide_ok accrued with ⟨_, rfl⟩ | ⟨_, _, _, _, _, _, _, credited⟩
  · rfl
  · rw [discountedDebt_credit_other credited, ledger_setLedger_other]

/-- Accrual opens the gap of an asset by three tokens at most, on whichever side it comes first. -/
theorem gap_accrue (consistent : book.Consistent none) {now : Timestamp} {price : Q96}
    {moved : Bool} (accrued : accrue now price book = .ok moved book')
    (small : (book.ledger asset).discountedDebt < Nat.pow 2 94)
    (slow : ∀ annual growth, book.parameters.annualFee = .ok annual →
      growthFactor annual (now.since book.lastAccrual) = .ok growth → growth.raw < 4 * Q96.unit)
    : book'.gap asset ≤ book.gap asset + 3 * Q96.unit := by
  rcases accrue_ok accrued with ⟨_, rfl⟩ | ⟨_, _, _, middle, grown, rfl⟩
  · have := Q96.unit_pos
    omega
  · obtain ⟨annual, growth, _, first, second, fee, factor, _, base, quote, refreshed⟩ :=
      accrueFor_ok grown
    have slow := slow annual growth fee factor
    have stored : ({ middle with lastAccrual := now } : Book).gap asset = middle.gap asset :=
      gap_congr rfl rfl
    rw [stored, gap_refreshLeverage refreshed]
    cases asset with
    | base =>
        have there := gap_accrueSide_other quote
        have here := gap_accrueSide consistent base small slow
        exact there.trans here
    | quote =>
        have there := gap_accrueSide_other base
        have same := discountedDebt_accrueSide_other base
        simp only [Asset.other] at there same
        rw [← same] at small
        have here := gap_accrueSide (consistent.accrueSide base) quote small slow
        exact here.trans (Int.add_le_add_right there _)

end Accrual

section Amounts

variable {book : Book} {asset : Asset}

theorem gap_new (parameters : Parameters) (start : Timestamp) (asset : Asset)
    : (Book.new parameters start).gap asset = 0 := by
  have ledger : (Book.new parameters start).ledger asset = .new := PerAsset.get_both _ _
  unfold gap claims
  rw [ledger]
  rfl

/-- Real collateral adds up to no more than what positions claim, by induction on the positions. -/
theorem sum_collateralIn_le_claims {amounts : List Nat}
    (known : book.positions.values.mapM (fun position => book.collateralIn position asset)
      = .ok amounts)
    : amounts.sum * Q96.unit ≤ book.claims asset := by
  unfold claims AccountTable.sumOf
  generalize book.positions.values = positions at known ⊢
  induction positions generalizing amounts with
  | nil =>
      obtain rfl := Except.pure_eq_ok.mp known
      simp
  | cons position rest ih =>
      simp only [List.mapM_cons, Except.bind_eq_ok, Except.pure_eq_ok] at known
      obtain ⟨amount, holds, others, known, rfl⟩ := known
      have head := Ledger.netCollateral_le_claim holds
      have tail := ih known
      simp only [List.map_cons, List.sum_cons, Nat.add_mul]
      omega

/-- Where a gap is within so many tokens, real collateral exceeds the tokens and the real debt by no
more than as many.
-/
theorem sum_collateralIn_le {amounts : List Nat} {debt allowance : Nat}
    (within : book.gap asset ≤ allowance * Q96.unit)
    (known : book.positions.values.mapM (fun position => book.collateralIn position asset)
      = .ok amounts)
    (owed : (book.ledger asset).totalRealDebt = .ok debt)
    : amounts.sum ≤ (book.ledger asset).balance + debt + allowance := by
  have claimed : (amounts.sum * Q96.unit : Int) ≤ book.claims asset := by
    exact_mod_cast sum_collateralIn_le_claims known
  have bound := (Ledger.realDebt_bounds owed).2
  unfold gap Ledger.backing at within
  have total : (amounts.sum * Q96.unit : Int)
      < ((book.ledger asset).balance + debt + allowance + 1) * Q96.unit := by
    linarith
  have positive : (0 : Int) < Q96.unit := by exact_mod_cast Q96.unit_pos
  have sum := lt_of_mul_lt_mul_right total positive.le
  omega

end Amounts

end Book

end MarginLending
