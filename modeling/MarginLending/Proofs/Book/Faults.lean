import MarginLending.Proofs.Book.Exits
import MarginLending.Proofs.Book.Growth
import MarginLending.Proofs.Book.Writes
import MarginLending.Proofs.Faults

/-!
A book meets no fault of arithmetic. What is taken from a total was counted in it, the relief stays
below the debt coefficient, coefficients are one at least, and the fractions among the parameters
are fractions: where this holds of a book, no action divides by zero or takes away more than there
is, and it holds again after the action.
-/

namespace MarginLending

-----
-- One ledger
-----

namespace Ledger

section Ledgers

variable {ledger : Ledger} {holding : Holding} {discounted : Nat}

theorem Indexed.collateral_ne_zero (indexed : ledger.Indexed) : ledger.collateralCoeff.raw ≠ 0 :=
  Nat.ne_of_gt (Nat.lt_of_lt_of_le Q96.unit_pos indexed.collateral)

theorem Indexed.effective_ne_zero (indexed : ledger.Indexed) {coeff : Q96}
    (effective : ledger.effectiveDebtCoeff = .ok coeff)
    : coeff.raw ≠ 0 := by
  obtain ⟨_, known, positive⟩ := indexed.effectiveDebtCoeff
  obtain rfl := Except.ok.inj (known.symm.trans effective)
  exact Nat.ne_of_gt positive

theorem Indexed.faultless_effectiveDebtCoeff (indexed : ledger.Indexed)
    : Faultless ledger.effectiveDebtCoeff := by
  obtain ⟨_, known, _⟩ := indexed.effectiveDebtCoeff
  exact .of_ok known

theorem faultless_realCollateral (ledger : Ledger) (discounted : Nat)
    : Faultless (ledger.realCollateral discounted) :=
  .lift (Q96.faultless_scale ..)

theorem faultless_charge (ledger : Ledger) (otherDebt : Nat)
    : Faultless (ledger.charge otherDebt) := by
  unfold charge
  split
  · exact .pure _
  · exact .lift (Q96.faultless_scaleUp ..)

theorem faultless_netCollateral (ledger : Ledger) (discounted otherDebt : Nat)
    : Faultless (ledger.netCollateral discounted otherDebt) :=
  .bind (faultless_realCollateral ..) fun _ _ => .bind (faultless_charge ..) fun _ _ => .pure _

theorem Indexed.faultless_realDebt (indexed : ledger.Indexed) (discounted : Nat)
    : Faultless (ledger.realDebt discounted) :=
  .bind indexed.faultless_effectiveDebtCoeff fun _ _ => .lift (Q96.faultless_scale ..)

theorem faultless_addCollateral (ledger : Ledger) (discounted : Nat)
    : Faultless (ledger.addCollateral discounted) :=
  .lift_bind (faultless_add ..) fun _ _ => .pure _

theorem faultless_addDebt (ledger : Ledger) (discounted : Nat)
    : Faultless (ledger.addDebt discounted) :=
  .lift_bind (faultless_add ..) fun _ _ => .pure _

theorem faultless_removeCollateral (booked : discounted ≤ ledger.discountedCollateral)
    : Faultless (ledger.removeCollateral discounted) :=
  .of_ok (removeCollateral_eq_ok.mpr ⟨booked, rfl⟩)

theorem faultless_removeDebt (booked : discounted ≤ ledger.discountedDebt)
    : Faultless (ledger.removeDebt discounted) :=
  .of_ok (removeDebt_eq_ok.mpr ⟨booked, rfl⟩)

/-- What pays for less than a debt repays less of it than there is. -/
theorem repaid_le {debt owed real repaid : Nat} {coeff : Q96}
    (owes : ledger.realDebt debt = .ok owed) (less : real < owed)
    (effective : ledger.effectiveDebtCoeff = .ok coeff) (repays : coeff.unscale real = .ok repaid)
    : repaid ≤ debt := by
  obtain ⟨_, effective', scaled⟩ := realDebt_eq_ok.mp owes
  obtain rfl := Except.ok.inj (effective.symm.trans effective')
  obtain ⟨positive, paid, _⟩ := Q96.unscale_ok repays
  have short : real * Q96.unit ≤ owed * Q96.unit := Nat.mul_le_mul_right _ (Nat.le_of_lt less)
  have covered : coeff.raw * repaid ≤ coeff.raw * debt := by
    rw [Nat.mul_comm coeff.raw repaid]
    exact Nat.le_trans paid (Nat.le_trans short (Q96.scale_ok scaled).1)
  exact Nat.le_of_mul_le_mul_left covered positive

theorem Indexed.faultless_creditHolding (indexed : ledger.Indexed)
    (booked : holding.debtAmount ≤ ledger.discountedDebt) (real : Nat)
    : Faultless (ledger.creditHolding holding real) := by
  unfold creditHolding
  split
  · refine .bind (indexed.faultless_realDebt _) fun owed owes => ?_
    split
    · next less =>
        refine .bind indexed.faultless_effectiveDebtCoeff fun coeff effective =>
          .lift_bind (Q96.faultless_unscale (indexed.effective_ne_zero effective) _)
            fun repaid repays => ?_
        have held := repaid_le owes less effective repays
        exact .bind (faultless_removeDebt (Nat.le_trans held booked)) fun _ _ =>
          .lift_bind (faultless_sub held) fun _ _ => .pure _
    · refine .bind (faultless_removeDebt booked) fun rest removed => ?_
      obtain ⟨_, rfl⟩ := removeDebt_eq_ok.mp removed
      exact .lift_bind (Q96.faultless_unscale indexed.collateral_ne_zero _) fun _ _ =>
        .bind (faultless_addCollateral ..) fun _ _ => .pure _
  · exact .lift_bind (Q96.faultless_unscale indexed.collateral_ne_zero _) fun _ _ =>
      .bind (faultless_addCollateral ..) fun _ _ => .lift_bind (faultless_add ..) fun _ _ => .pure _

theorem Indexed.faultless_debitHolding (indexed : ledger.Indexed)
    (booked : holding.collateralAmount ≤ ledger.discountedCollateral) (real charge : Nat)
    : Faultless (ledger.debitHolding holding real charge) := by
  unfold debitHolding
  split
  · refine .bind (faultless_realCollateral ..) fun _ _ => ?_
    simp only
    split
    · exact .lift_bind (Q96.faultless_unscaleUp indexed.collateral_ne_zero _) fun _ _ =>
        .bind (faultless_removeCollateral (Nat.le_trans (Nat.min_le_right ..) booked))
          fun _ _ => .pure _
    · refine .bind (faultless_removeCollateral booked) fun rest removed => ?_
      obtain ⟨_, rfl⟩ := removeCollateral_eq_ok.mp removed
      exact .bind indexed.faultless_effectiveDebtCoeff fun _ effective =>
        .lift_bind (Q96.faultless_unscaleUp (indexed.effective_ne_zero effective) _) fun _ _ =>
          .bind (faultless_addDebt ..) fun _ _ => .pure _
  · exact .bind indexed.faultless_effectiveDebtCoeff fun _ effective =>
      .lift_bind (Q96.faultless_unscaleUp (indexed.effective_ne_zero effective) _) fun _ _ =>
        .bind (faultless_addDebt ..) fun _ _ => .lift_bind (faultless_add ..) fun _ _ => .pure _

theorem Indexed.faultless_rebase (indexed : ledger.Indexed)
    (booked : holding.collateralAmount ≤ ledger.discountedCollateral) (debtBefore debtAfter : Nat)
    : Faultless (ledger.rebase holding debtBefore debtAfter) := by
  unfold rebase
  split
  · exact .pure _
  · split
    · exact .pure _
    · split
      · exact .lift_bind (faultless_mulDiv _ _ indexed.collateral_ne_zero) fun _ _ =>
          .lift_bind (faultless_ofWide _) fun _ _ => .bind (faultless_addCollateral ..) fun _ _ =>
            .lift_bind (faultless_add ..) fun _ _ => .pure _
      · exact .lift_bind (faultless_mulDivUp _ _ indexed.collateral_ne_zero) fun _ _ =>
          .lift_bind (faultless_ofWide _) fun _ _ =>
            .bind (faultless_removeCollateral (Nat.le_trans (Nat.min_le_right ..) booked))
              fun _ _ => .pure _

/-- Debt grows without faults by factors of one at least. -/
theorem Indexed.faultless_grow (indexed : ledger.Indexed) {interestGrowth feeGrowth : Q96}
    (interestUp : Q96.one ≤ interestGrowth) (feeUp : Q96.one ≤ feeGrowth)
    : Faultless (ledger.grow interestGrowth feeGrowth) := by
  unfold grow
  refine .bind (indexed.faultless_realDebt _) fun debt _ => ?_
  refine .lift_bind (Q96.faultless_sub interestUp) fun _ _ => ?_
  refine .lift_bind (Q96.faultless_scale ..) fun _ _ => ?_
  refine .lift_bind (Q96.faultless_sub feeUp) fun _ _ => ?_
  refine .lift_bind (Q96.faultless_mul ..) fun _ _ => ?_
  refine .lift_bind (Q96.faultless_scale ..) fun _ _ => ?_
  refine .lift_bind ?_ fun _ _ => ?_
  · split
    · next some =>
        exact .bind (Q96.faultless_ofRatio _ (Nat.ne_of_gt some)) fun _ _ => Q96.faultless_add ..
    · exact .of_ok rfl
  · exact .lift_bind (Q96.faultless_mul ..) fun _ _ => .lift_bind (Q96.faultless_mul ..) fun _ _ =>
      .lift_bind (Q96.faultless_mul ..) fun _ _ => .lift_bind (Q96.faultless_mul ..) fun _ _ =>
        .pure _

end Ledgers

end Ledger

-----
-- What positions and sides are worth
-----

theorem faultless_leverageOf (collateral debt : Nat) : Faultless (leverageOf collateral debt) := by
  unfold leverageOf
  split
  · exact .pure _
  · exact .lift (Q96.faultless_ofRatio _ (by omega))

namespace Book

section Values

variable {book : Book} {asset : Asset} {price : Q96} {amount : Nat}

theorem faultless_valued (asset : Asset) (price : Q96) (amount : Nat)
    : Faultless (valued asset price amount) := by
  unfold valued
  cases asset with
  | base => exact .lift (Q96.faultless_scale ..)
  | quote => exact .pure _

theorem faultless_requireRoom (book : Book) (asset : Asset) (incoming repaidDebt : Nat)
    (price : Q96)
    : Faultless (book.requireRoom asset incoming repaidDebt price) := by
  unfold requireRoom
  split
  · exact .pure _
  · refine .lift_bind (faultless_add ..) fun _ _ => .bind (faultless_valued ..) fun _ _ => ?_
    split
    · exact .throw rfl
    · exact .pure _

theorem faultless_collateralIn (book : Book) (position : Position) (asset : Asset)
    : Faultless (book.collateralIn position asset) :=
  Ledger.faultless_netCollateral ..

theorem faultless_collateralOf (book : Book) (account : AccountId) (asset : Asset)
    : Faultless (book.collateralOf account asset) := by
  unfold collateralOf
  split
  · exact faultless_collateralIn ..
  · exact .of_ok rfl

theorem faultless_totalCollateral (book : Book) (asset : Asset)
    : Faultless (book.totalCollateral asset) :=
  .bind (Ledger.faultless_charge ..) fun _ _ =>
    .bind (Ledger.faultless_realCollateral ..) fun _ _ => .pure _

theorem faultless_borrowersCollateral (book : Book) (asset : Asset)
    : Faultless (book.borrowersCollateral asset) := by
  refine .foldlM (fun total node _ => ?_) 0
  split
  · exact .bind (faultless_collateralIn ..) fun _ _ => .lift (faultless_add ..)
  · exact .of_ok rfl

theorem Indexed.faultless_debtIn (indexed : book.Indexed) (position : Position) (asset : Asset)
    : Faultless (book.debtIn position asset) :=
  (indexed asset).faultless_realDebt _

theorem Indexed.faultless_debtOf (indexed : book.Indexed) (account : AccountId) (asset : Asset)
    : Faultless (book.debtOf account asset) := by
  unfold debtOf
  split
  · exact indexed.faultless_debtIn ..
  · exact .of_ok rfl

theorem Indexed.faultless_positionLeverage (indexed : book.Indexed) (position : Position)
    (price : Q96)
    : Faultless (book.positionLeverage position price) := by
  unfold positionLeverage
  split
  · exact .of_ok rfl
  · exact .bind (faultless_collateralIn ..) fun _ _ => .bind (faultless_valued ..) fun _ _ =>
      .bind (indexed.faultless_debtIn ..) fun _ _ => .bind (faultless_valued ..) fun _ _ =>
        faultless_leverageOf ..

theorem Indexed.faultless_isLiquidatable (indexed : book.Indexed) (position : Position)
    (price : Q96)
    : Faultless (book.isLiquidatable position price) :=
  .bind (indexed.faultless_positionLeverage ..) fun _ _ => .pure _

theorem Indexed.faultless_requireLeverage (indexed : book.Indexed) (account : AccountId)
    (price : Q96)
    : Faultless (book.requireLeverage account price) := by
  unfold requireLeverage
  split
  · exact .of_ok rfl
  · refine .bind (indexed.faultless_isLiquidatable ..) fun _ _ => ?_
    split
    · exact .throw rfl
    · exact .pure _

theorem Indexed.faultless_systemLeverage (indexed : book.Indexed) (debtAsset : Asset) (price : Q96)
    : Faultless (book.systemLeverage debtAsset price) := by
  refine .bind (faultless_totalCollateral ..) fun _ _ => .bind (faultless_valued ..) fun _ _ =>
    .bind ((indexed debtAsset).faultless_realDebt _) fun _ _ =>
      .bind (faultless_valued ..) fun _ _ => ?_
  split
  · exact .pure _
  · exact faultless_leverageOf ..

theorem Indexed.faultless_isInsolvent (indexed : book.Indexed) (debtAsset : Asset) (price : Q96)
    : Faultless (book.isInsolvent debtAsset price) :=
  .bind (faultless_totalCollateral ..) fun _ _ => .bind (faultless_valued ..) fun _ _ =>
    .bind ((indexed debtAsset).faultless_realDebt _) fun _ _ =>
      .bind (faultless_valued ..) fun _ _ => .pure _

theorem Indexed.faultless_netValue (indexed : book.Indexed) (position : Position) (price : Q96)
    : Faultless (book.netValue position price) :=
  .bind (faultless_collateralIn ..) fun _ _ => .bind (faultless_valued ..) fun _ _ =>
    .bind (faultless_collateralIn ..) fun _ _ => .lift_bind (faultless_add ..) fun _ _ =>
      .bind (indexed.faultless_debtIn ..) fun _ _ => .bind (faultless_valued ..) fun _ _ =>
        .bind (indexed.faultless_debtIn ..) fun _ _ => .lift_bind (faultless_add ..) fun _ _ =>
          .pure _

theorem Indexed.faultless_totalNetValue (indexed : book.Indexed) (price : Q96)
    : Faultless (book.totalNetValue price) :=
  .foldlM (fun _ _ _ => .bind (indexed.faultless_netValue ..) fun _ _ => .pure _) 0

end Values

-----
-- Sturdy books
-----

/-- Totals fit the positions, coefficients are in range, and the parameters are valid; the rank of
one account may be stale.
-/
structure Sturdy (book : Book) (stale : Option AccountId) : Prop where
  consistent : book.Consistent stale
  indexed : book.Indexed
  valid : book.parameters.violation? = none

section Keeping

variable {book book' : Book} {stale stale' : Option AccountId} {account : AccountId} {asset : Asset}
  {real amount : Nat}

/-- Writes that let no coefficient fall leave a book sturdy as long as it is consistent. -/
theorem Sturdy.follow (sturdy : book.Sturdy stale) (consistent : book'.Consistent stale')
    (rises : book.Rises book') (written : book.Writes book')
    : book'.Sturdy stale' :=
  ⟨consistent, rises.indexed sturdy.indexed, written.valid sturdy.valid⟩

theorem Sturdy.loosen (sturdy : book.Sturdy none) (account : AccountId)
    : book.Sturdy (some account) :=
  { sturdy with consistent := sturdy.consistent.loosen account }

theorem Sturdy.credit (sturdy : book.Sturdy stale)
    (credited : Book.credit account asset real book = .ok () book')
    (unranked : stale = some account ∨ account = .feeHolder)
    : book'.Sturdy stale :=
  sturdy.follow (sturdy.consistent.credit credited unranked) (rises_credit credited)
    ((steps_credit ..).of_ok credited)

theorem Sturdy.debit (sturdy : book.Sturdy (some account))
    (debited : Book.debit account asset real book = .ok () book')
    (feeBound : account = .feeHolder →
      ∃ available, book.collateralOf account asset = .ok available ∧ real ≤ available)
    : book'.Sturdy (some account) :=
  sturdy.follow (sturdy.consistent.debit debited feeBound) (rises_debit debited)
    ((steps_debit ..).of_ok debited)

theorem Sturdy.payOut (sturdy : book.Sturdy stale)
    (paid : Book.payOut asset amount book = .ok () book')
    : book'.Sturdy stale :=
  sturdy.follow (sturdy.consistent.payOut paid) (rises_payOut paid) ((steps_payOut ..).of_ok paid)

theorem Sturdy.payIn (sturdy : book.Sturdy stale)
    (paid : Book.payIn asset amount book = .ok () book')
    : book'.Sturdy stale :=
  sturdy.follow (sturdy.consistent.payIn paid) (rises_payIn paid) ((steps_payIn ..).of_ok paid)

theorem Sturdy.settle (sturdy : book.Sturdy stale) {order : SwapOrder} {fill : Fill}
    (settled : Book.settle order fill book = .ok () book')
    : book'.Sturdy stale := by
  obtain ⟨middle, out, into⟩ := settle_ok settled
  exact (sturdy.payOut out).payIn into

theorem Sturdy.reseat (sturdy : book.Sturdy (some account)) : (book.reseat account).Sturdy none :=
  sturdy.follow sturdy.consistent.reseat (rises_of_ledger (book.reranked_reseat account).ledger)
    (book.writes_reseat account)

theorem Sturdy.handOver (sturdy : book.Sturdy none) {bad : Position}
    {badAccount receiver : AccountId} (found : book.position? badAccount = some bad)
    (owes : bad.kind.debtAsset? = some asset) (unstarted : book.kindOf receiver = .uninitialized)
    (notFee : receiver ≠ .feeHolder)
    : (book.handOver bad badAccount receiver).Sturdy none :=
  sturdy.follow (sturdy.consistent.handOver found owes unstarted notFee)
    (rises_of_ledger fun asset => ledger_handOver asset) (writes_handOver ..)

theorem Sturdy.removePosition (sturdy : book.Sturdy none)
    (removed : Book.removePosition account book = .ok () book')
    : book'.Sturdy none :=
  sturdy.follow (sturdy.consistent.removePosition removed) (rises_removePosition removed)
    ((steps_removePosition ..).of_ok removed)

theorem Sturdy.dropIfEmpty (sturdy : book.Sturdy none)
    (dropped : Book.dropIfEmpty account book = .ok () book')
    : book'.Sturdy none := by
  rcases dropIfEmpty_ok dropped with rfl | ⟨_, removed⟩
  · exact sturdy
  · exact sturdy.removePosition removed

theorem Sturdy.shareAmongLenders (sturdy : book.Sturdy none)
    (shared : Book.shareAmongLenders asset amount book = .ok () book')
    : book'.Sturdy none :=
  sturdy.follow (sturdy.consistent.shareAmongLenders shared) (rises_shareAmongLenders shared)
    ((steps_shareAmongLenders ..).of_ok shared)

theorem Sturdy.accrueSide (sturdy : book.Sturdy none) {interestRate feeGrowth : Q96} {seconds : Nat}
    (accrued : Book.accrueSide interestRate feeGrowth seconds asset book = .ok () book')
    : book'.Sturdy none :=
  sturdy.follow (sturdy.consistent.accrueSide accrued) (rises_accrueSide accrued)
    ((steps_accrueSide ..).of_ok accrued)

theorem Sturdy.accrue (sturdy : book.Sturdy none) {now : Timestamp} {price : Q96} {moved : Bool}
    (accrued : Book.accrue now price book = .ok moved book')
    : book'.Sturdy none := by
  have deeds : book.Deeds .feeHolder .feeHolder book' := Deeds.accrue accrued
  exact sturdy.follow (sturdy.consistent.accrue accrued) deeds.rises
    ((steps_accrue ..).of_ok accrued)

end Keeping

-----
-- Actions on a sturdy book
-----

section Acting

variable {book : Book} {stale : Option AccountId} {account : AccountId}

/-- What an account holds was counted in the total. -/
theorem Consistent.collateralAmount_le (consistent : book.Consistent stale) (account : AccountId)
    (asset : Asset)
    : ((book.positionOf account).holding asset).collateralAmount
      ≤ (book.ledger asset).discountedCollateral := by
  rcases book.positionOf_cases account with found | ⟨_, empty⟩
  · rw [consistent.collateralTallied]
    exact le_sumOf found fun position => (position.holding asset).collateralAmount
  · rw [empty]
    cases asset <;> exact Nat.zero_le _

/-- What an account owes was counted in the total. -/
theorem Consistent.debtAmount_le (consistent : book.Consistent stale) (account : AccountId)
    (asset : Asset)
    : ((book.positionOf account).holding asset).debtAmount
      ≤ (book.ledger asset).discountedDebt := by
  rcases book.positionOf_cases account with found | ⟨_, empty⟩
  · rw [consistent.debtTallied]
    exact le_sumOf found fun position => (position.holding asset).debtAmount
  · rw [empty]
    cases asset <;> exact Nat.zero_le _

theorem faultless_modifyLedger {asset : Asset} {change : Ledger → Except PoolError Ledger}
    (changes : Faultless (change (book.ledger asset)))
    : FaultlessFrom (modifyLedger asset change) book :=
  .get_bind (.lift_bind changes fun _ _ => .set _)

theorem Sturdy.faultless_credit (sturdy : book.Sturdy stale) (account : AccountId) (asset : Asset)
    (real : Nat)
    : FaultlessFrom (Book.credit account asset real) book := by
  unfold Book.credit
  split
  · exact .pure _
  · have paid := (sturdy.indexed asset).faultless_creditHolding
      (sturdy.consistent.debtAmount_le account asset) real
    have rebased := (sturdy.indexed asset.other).faultless_rebase
      (sturdy.consistent.collateralAmount_le account asset.other)
    exact .get_bind (.lift_bind paid fun _ _ => .lift_bind (rebased ..) fun _ _ => .set _)

theorem Sturdy.faultless_debit (sturdy : book.Sturdy stale) (account : AccountId) (asset : Asset)
    (real : Nat)
    : FaultlessFrom (Book.debit account asset real) book := by
  unfold Book.debit
  split
  · exact .pure _
  · have taken := (sturdy.indexed asset).faultless_debitHolding
      (sturdy.consistent.collateralAmount_le account asset) real
    have rebased := (sturdy.indexed asset.other).faultless_rebase
      (sturdy.consistent.collateralAmount_le account asset.other)
    refine .get_bind (.lift_bind (Ledger.faultless_charge ..) fun _ _ =>
      .lift_bind (taken ..) fun _ _ => .lift_bind (rebased ..) fun _ _ => .bind (.set _) ?_)
    intro _ _ _
    split
    · exact .throw rfl
    · exact .pure _

theorem faultless_payOut (book : Book) (asset : Asset) (amount : Nat)
    : FaultlessFrom (payOut asset amount) book := by
  refine faultless_modifyLedger ?_
  split
  · exact .of_ok rfl
  · exact .throw rfl

theorem faultless_payIn (book : Book) (asset : Asset) (amount : Nat)
    : FaultlessFrom (payIn asset amount) book :=
  faultless_modifyLedger (.lift_bind (faultless_add ..) fun _ _ => .pure _)

theorem faultless_settle (book : Book) (order : SwapOrder) (fill : Fill)
    : FaultlessFrom (settle order fill) book :=
  .bind (faultless_payOut ..) fun _ _ _ => faultless_payIn ..

theorem Sturdy.faultless_removePosition (sturdy : book.Sturdy none) (account : AccountId)
    : FaultlessFrom (Book.removePosition account) book := by
  cases found : book.position? account with
  | none =>
      unfold Book.removePosition
      refine .get_bind ?_
      simp only [found]
      exact .pure _
  | some position =>
      obtain ⟨_, removed⟩ := sturdy.consistent.removePosition_isOk found
      exact .of_ok removed

theorem Sturdy.faultless_dropIfEmpty (sturdy : book.Sturdy none) (account : AccountId)
    : FaultlessFrom (Book.dropIfEmpty account) book := by
  unfold Book.dropIfEmpty
  refine .get_bind ?_
  split
  · exact sturdy.faultless_removePosition account
  · exact .pure _

theorem Indexed.faultless_refreshLeverage (indexed : book.Indexed) (price : Q96)
    : FaultlessFrom (refreshLeverage price) book :=
  .get_bind (.lift_bind (indexed.faultless_systemLeverage ..) fun _ _ =>
    .lift_bind (indexed.faultless_systemLeverage ..) fun _ _ => .set _)

theorem Sturdy.faultless_shareAmongLenders (sturdy : book.Sturdy none) (asset : Asset)
    (amount : Nat)
    : FaultlessFrom (Book.shareAmongLenders asset amount) book := by
  unfold Book.shareAmongLenders
  split
  · exact .pure _
  · refine .get_bind ?_
    simp only
    split
    · exact sturdy.faultless_credit ..
    · next some =>
        exact faultless_modifyLedger (.lift_bind (Q96.faultless_ofRatio _ some) fun _ _ =>
          .lift_bind (Q96.faultless_add ..) fun _ _ => .pure _)

theorem faultless_chargeBorrowers {owed : Nat} (owes : owed ≠ 0) (book : Book) (asset : Asset)
    (shortfall : Nat)
    : FaultlessFrom (chargeBorrowers asset shortfall owed) book :=
  faultless_modifyLedger (.lift_bind (faultless_mulDivUp _ _ owes) fun _ _ =>
    .lift_bind (Q96.faultless_add ..) fun _ _ => .pure _)

theorem faultless_relieveDebt {owed : Nat} (owes : owed ≠ 0) (book : Book) (asset : Asset)
    (amount : Nat)
    : FaultlessFrom (relieveDebt asset amount owed) book := by
  unfold relieveDebt
  split
  · exact faultless_modifyLedger (.lift_bind (Q96.faultless_ofRatio _ owes) fun _ _ =>
      .lift_bind (Q96.faultless_add ..) fun _ _ => .pure _)
  · exact .pure _

theorem faultless_raiseDebt {owed : Nat} (owes : owed ≠ 0) (book : Book) (asset : Asset)
    (shortfall : Nat)
    : FaultlessFrom (raiseDebt asset shortfall owed) book :=
  faultless_modifyLedger (.lift_bind (faultless_mulDivUp _ _ owes) fun _ _ =>
    .lift_bind (Q96.faultless_add ..) fun _ _ => .pure _)

-----
-- Accrual
-----

/-- A side grows without faults, and the fee is credited to a book as sturdy as before. -/
theorem Sturdy.faultless_accrueSide (sturdy : book.Sturdy none) {feeGrowth : Q96}
    (feeUp : Q96.one ≤ feeGrowth) (interestRate : Q96) (seconds : Nat) (asset : Asset)
    : FaultlessFrom (Book.accrueSide interestRate feeGrowth seconds asset) book := by
  unfold Book.accrueSide
  refine .get_bind ?_
  simp only
  split
  · exact .pure _
  · refine .liftMath_bind (Q96.faultless_mul ..) fun annual _ =>
      .lift_bind (faultless_growthFactor ..) fun interestGrowth grows => ?_
    refine .lift_bind ((sturdy.indexed asset).faultless_grow (one_le_growthFactor grows) feeUp)
      fun ⟨ledger, fee⟩ grown => ?_
    have kept := grow_rest grown
    have consistent : (book.setLedger asset ledger).Consistent none := by
      rw [kept]
      exact sturdy.consistent.setLedger rfl rfl
    have grownSturdy : (book.setLedger asset ledger).Sturdy none :=
      sturdy.follow consistent (rises_setLedger (Ledger.rises_grow grown)) (.single (.ledger ..))
    refine .bind (.set _) fun _ _ went => ?_
    obtain rfl := EStateM.set_eq_ok.mp went
    exact grownSturdy.faultless_credit ..

theorem Sturdy.faultless_accrueFor (sturdy : book.Sturdy none) (seconds : Nat) (price : Q96)
    : FaultlessFrom (accrueFor seconds price) book := by
  have fractions := Parameters.isFraction_of_valid sturdy.valid
  have interest := isNegative_of_isFraction
    (fractions ("interest_rate", book.parameters.interestRate) (by simp [Parameters.fractions]))
  have fee := isNegative_of_isFraction
    (fractions ("fee", book.parameters.fee) (by simp [Parameters.fractions]))
  unfold accrueFor
  refine .get_bind (.liftMath_bind (faultless_ofDecimal fee) fun _ _ =>
    .lift_bind (faultless_growthFactor ..) fun feeGrowth grows =>
      .liftMath_bind (faultless_ofDecimal interest) fun _ _ => ?_)
  have feeUp := one_le_growthFactor grows
  refine .bind (sturdy.faultless_accrueSide feeUp ..) fun _ first base => ?_
  have atBase := sturdy.accrueSide base
  refine .bind (atBase.faultless_accrueSide feeUp ..) fun _ second quote => ?_
  exact (atBase.accrueSide quote).indexed.faultless_refreshLeverage price

theorem Sturdy.faultless_accrue (sturdy : book.Sturdy none) (now : Timestamp) (price : Q96)
    : FaultlessFrom (Book.accrue now price) book := by
  unfold Book.accrue
  refine .get_bind ?_
  simp only
  split
  · exact .pure _
  · split
    · exact .pure _
    · exact .bind (sturdy.faultless_accrueFor ..) fun _ _ _ => .bind (.modify _)
        fun _ _ _ => .pure _

end Acting

end Book

end MarginLending
