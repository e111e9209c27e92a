import MarginLending.Proofs.Book.Faults
import MarginLending.Proofs.Pool.Growth
import MarginLending.Proofs.Pool.Runs

/-!
No call meets a fault of arithmetic. The book of a reachable pool is sturdy, and every step of every
call leaves it sturdy for the next one; what a call divides by on its own account is the price, a
limit that it has found not to be zero, a traded amount above a debt, or a total that it has found
not to be zero.
-/

namespace MarginLending

namespace Pool

-----
-- Steps of a call
-----

section Steps

variable {V α β : Type} {pool : Pool V}

/-- An unfilled order is no fault. -/
theorem faultless_swap [Venue V] (order : SwapOrder) : FaultlessFrom (swap order) pool := by
  unfold swap
  refine .get_bind ?_
  simp only
  refine .bind (.set _) fun _ _ _ => ?_
  split
  · exact .throw rfl
  · exact .throw rfl
  · exact .throw rfl
  · split
    · exact .pure _
    · exact .throw rfl

/-- An order leaves the book alone. -/
theorem faultless_swap_bind [Venue V] {order : SwapOrder} {f : Fill → PoolM V β}
    (second : ∀ fill venue, FaultlessFrom (f fill) (pool.withVenue venue))
    : FaultlessFrom (swap order >>= f) pool := by
  refine .bind (faultless_swap order) fun fill pool' swapped => ?_
  obtain ⟨_, venue, rfl⟩ := swap_ok swapped
  exact second fill venue

theorem faultless_attempt {x : PoolM V α} : FaultlessFrom (attempt x) pool := by
  cases result : x pool with
  | ok a pool' => exact .of_ok (show attempt x pool = .ok (.ok a) pool' by simp [attempt, result])
  | error error pool' =>
      exact .of_ok (show attempt x pool = .ok (.error error) pool' by simp [attempt, result])

end Steps

-----
-- Operations
-----

section Operations

variable {V : Type} {pool : Pool V} {terms : Terms} {account : AccountId} {asset : Asset}

theorem faultless_requireTrader (book : Book) (account : AccountId) (amount : Nat)
    : Faultless (requireTrader book account amount) := by
  unfold requireTrader
  simp only
  split
  · exact .throw rfl
  · split
    · exact .throw rfl
    · exact .pure _

theorem faultless_requireDebtor (book : Book) (account : AccountId)
    : Faultless (requireDebtor book account) := by
  unfold requireDebtor
  split
  · exact .of_ok rfl
  · exact .of_ok rfl
  · exact .throw rfl
  · exact .throw rfl

theorem faultless_requireHolder (book : Book) (account : AccountId) (asset : Asset)
    : Faultless (requireHolder book account asset) := by
  unfold requireHolder
  split
  · exact .throw rfl
  · split
    · exact .throw rfl
    · exact .of_ok rfl

theorem faultless_depositOwner (caller : AccountId) (leveraged : Nat) (owner : Option AccountId)
    : Faultless (depositOwner caller leveraged owner) := by
  unfold depositOwner
  simp only
  split
  · exact .throw rfl
  · exact .pure _

theorem faultless_swapFeeOn {parameters : Parameters} (valid : parameters.violation? = none)
    (quote : Nat)
    : Faultless (parameters.swapFeeOn quote) :=
  faultless_fractionOf (isNegative_of_isFraction (Parameters.isFraction_of_valid valid
    ("swap_fee", parameters.swapFee) (by simp [Parameters.fractions]))) quote

/-- Where it stops, unchecked arithmetic meets no fault of its own. -/
theorem faultless_carryOut (computation : Unchecked) : Faultless computation.carryOut := by
  cases computation with
  | sum | difference =>
      simp only [Unchecked.carryOut]
      split
      · exact .pure _
      · exact .throw rfl
  | low => exact .pure _

theorem faultless_chargedCost (cost amount debt : Nat)
    : Faultless (chargedCost cost amount debt) := by
  unfold chargedCost chargedCostBy
  split
  · next more =>
      exact .bind (faultless_carryOut _) fun _ _ =>
        .lift_bind (faultless_mulDiv _ _ (by omega)) fun _ _ => faultless_carryOut _
  · exact .pure _

theorem raw_ne_zero_of_not {q : Q96} (some : ¬q.isZero) : q.raw ≠ 0 := by
  simpa [Q96.isZero] using some

theorem faultless_closingBound (debtAsset : Asset) (debt : Nat) (limitPrice : Q96)
    : Faultless (closingBound debtAsset debt limitPrice) := by
  unfold closingBound
  split
  · exact .of_ok rfl
  · next limited =>
      cases debtAsset with
      | base => exact Q96.faultless_scale ..
      | quote => exact Q96.faultless_unscale (raw_ne_zero_of_not limited) _

theorem faultless_sellingFloor (debtAsset : Asset) (sold : Nat) (limitPrice : Q96)
    : Faultless (sellingFloor debtAsset sold limitPrice) := by
  unfold sellingFloor
  cases debtAsset with
  | base =>
      simp only
      split
      · exact .of_ok rfl
      · next limited => exact Q96.faultless_unscale (raw_ne_zero_of_not limited) _
  | quote => exact Q96.faultless_scale ..

theorem faultless_tradeOutcome (amounts : PerAsset Nat)
    : FaultlessFrom (tradeOutcome account amounts) pool :=
  .readBook_bind (.pure _)

theorem faultless_finishTrade (sturdy : pool.book.Sturdy (some account))
    : FaultlessFrom (finishTrade terms account) pool := by
  unfold finishTrade
  refine .liftBook_bind (.modify _) fun _ seated seats => ?_
  obtain rfl := EStateM.modify_eq_ok.mp seats
  have atSeated := sturdy.reseat
  refine .readBook_bind (.lift_bind (atSeated.indexed.faultless_requireLeverage ..)
    fun _ _ => ?_)
  refine .liftBook_bind (atSeated.faultless_dropIfEmpty account) fun _ dropped drops => ?_
  exact .liftBook ((atSeated.dropIfEmpty drops).indexed.faultless_refreshLeverage _)

theorem faultless_tradeEnd (sturdy : pool.book.Sturdy (some account))
    (payload : Book → EventPayload) (amounts : PerAsset Nat)
    : FaultlessFrom (tradeEnd terms account payload amounts) pool :=
  .bind (faultless_finishTrade sturdy) fun _ _ _ => .readBook_bind
    (.record_bind (faultless_tradeOutcome _))

section Trades

variable [Venue V]

theorem faultless_short (sturdy : pool.book.Sturdy none) (notFee : account ≠ .feeHolder)
    (amount : Nat) (limitPrice : Q96)
    : FaultlessFrom (short terms account amount limitPrice) pool := by
  unfold short shortBy
  refine .readBook_bind (.lift_bind (faultless_requireTrader ..) fun _ _ => ?_)
  refine .lift_bind (sturdy.indexed.faultless_debtOf ..) fun _ _ => ?_
  refine .liftMath_bind (Q96.faultless_scale ..) fun _ _ => faultless_swap_bind fun fill venue => ?_
  refine .readBook_bind (.lift_bind (Book.faultless_requireRoom ..) fun _ _ => ?_)
  refine .liftBook_bind (Book.faultless_settle ..) fun _ settled settles => ?_
  have atSettled := (sturdy.settle settles).loosen account
  refine .liftMath_bind (faultless_swapFeeOn sturdy.valid _) fun _ _ => ?_
  refine .lift_bind (faultless_carryOut _) fun _ _ => ?_
  refine .liftBook_bind (atSettled.faultless_credit ..) fun _ credited credits => ?_
  have atCredited := atSettled.credit credits (.inl rfl)
  refine .liftBook_bind (atCredited.faultless_credit ..) fun _ paid pays => ?_
  have atPaid := atCredited.credit pays (.inr rfl)
  refine .liftBook_bind (atPaid.faultless_debit ..) fun _ debited debits => ?_
  have atDebited := atPaid.debit debits fun isFee => absurd isFee notFee
  exact faultless_tradeEnd atDebited ..

theorem faultless_long (sturdy : pool.book.Sturdy none) (notFee : account ≠ .feeHolder)
    (amount : Nat) (limitPrice : Q96)
    : FaultlessFrom (long terms account amount limitPrice) pool := by
  unfold long longBy
  refine .readBook_bind (.lift_bind (faultless_requireTrader ..) fun _ _ => ?_)
  refine .lift_bind (sturdy.indexed.faultless_debtOf ..) fun _ _ => ?_
  refine .liftMath_bind (Q96.faultless_scale ..) fun _ _ => faultless_swap_bind fun fill venue => ?_
  refine .readBook_bind (.lift_bind (Book.faultless_requireRoom ..) fun _ _ => ?_)
  refine .liftBook_bind (Book.faultless_settle ..) fun _ settled settles => ?_
  have atSettled := (sturdy.settle settles).loosen account
  refine .lift_bind (faultless_chargedCost ..) fun _ _ => ?_
  refine .liftMath_bind (faultless_swapFeeOn sturdy.valid _) fun _ _ => ?_
  refine .liftBook_bind (atSettled.faultless_credit ..) fun _ credited credits => ?_
  have atCredited := atSettled.credit credits (.inl rfl)
  refine .lift_bind (faultless_carryOut _) fun _ _ => ?_
  refine .liftBook_bind (atCredited.faultless_debit ..) fun _ debited debits => ?_
  have atDebited := atCredited.debit debits fun isFee => absurd isFee notFee
  refine .liftBook_bind (atDebited.faultless_credit ..) fun _ paid pays => ?_
  have atPaid := atDebited.credit pays (.inr rfl)
  exact faultless_tradeEnd atPaid ..

theorem faultless_repayment (sturdy : pool.book.Sturdy none) (notFee : account ≠ .feeHolder)
    (order : SwapOrder) (repaidIn paidIn : Asset) (repaid paid : Fill → Nat)
    (payload : Fill → Book → EventPayload) (amounts : Fill → PerAsset Nat)
    : FaultlessFrom (repayment terms account order repaidIn paidIn repaid paid payload amounts)
        pool := by
  unfold repayment
  refine faultless_swap_bind fun fill venue => ?_
  refine .liftBook_bind (Book.faultless_settle ..) fun _ settled settles => ?_
  have atSettled := (sturdy.settle settles).loosen account
  refine .liftBook_bind (atSettled.faultless_credit ..) fun _ credited credits => ?_
  have atCredited := atSettled.credit credits (.inl rfl)
  refine .liftBook_bind (atCredited.faultless_debit ..) fun _ debited debits => ?_
  have atDebited := atCredited.debit debits fun isFee => absurd isFee notFee
  exact faultless_tradeEnd atDebited ..

theorem faultless_closePosition (sturdy : pool.book.Sturdy none) (limitPrice : Q96)
    : FaultlessFrom (closePosition terms limitPrice) pool := by
  unfold closePosition
  refine .readBook_bind (.lift_bind (faultless_requireDebtor ..) fun _ debtor => ?_)
  have notFee := ne_feeHolder_of_debtor sturdy.consistent debtor
  refine .lift_bind (sturdy.indexed.faultless_debtOf ..) fun _ _ => ?_
  refine .lift_bind (Book.faultless_collateralOf ..) fun _ _ => ?_
  refine .liftMath_bind (faultless_closingBound ..) fun _ _ => ?_
  exact faultless_repayment sturdy notFee ..

theorem faultless_sellCollateral (sturdy : pool.book.Sturdy none) (amount : Nat) (limitPrice : Q96)
    : FaultlessFrom (sellCollateral terms amount limitPrice) pool := by
  unfold sellCollateral
  simp only
  split
  · exact .throw rfl
  · refine .readBook_bind (.lift_bind (faultless_requireDebtor ..) fun _ debtor => ?_)
    have notFee := ne_feeHolder_of_debtor sturdy.consistent debtor
    refine .lift_bind (Book.faultless_collateralOf ..) fun _ _ => ?_
    split
    · exact .throw rfl
    · refine .liftMath_bind (faultless_sellingFloor ..) fun _ _ => ?_
      exact faultless_repayment sturdy notFee ..

end Trades

theorem faultless_bookDeposit (sturdy : pool.book.Sturdy none) (amount : Nat)
    : FaultlessFrom (bookDeposit terms asset amount account) pool := by
  unfold bookDeposit
  refine .readBook_bind ?_
  simp only
  split
  · exact .throw rfl
  · refine .lift_bind (sturdy.indexed.faultless_debtOf ..) fun _ _ => ?_
    refine .lift_bind (Book.faultless_requireRoom ..) fun _ _ => ?_
    refine .liftBook_bind (Book.faultless_payIn ..) fun _ paid pays => ?_
    have atPaid := (sturdy.payIn pays).loosen account
    refine .liftBook_bind (atPaid.faultless_credit ..) fun _ credited credits => ?_
    exact .liftBook_bind (.modify _) fun _ _ _ => .readBook_bind
      (.record _)

/-- Between a deposit and the trade behind it the book is sturdy. -/
theorem sturdy_bookDeposit {pool' : Pool V} (sturdy : pool.book.Sturdy none) {amount : Nat}
    (booked : bookDeposit terms asset amount account pool = .ok () pool')
    : pool'.book.Sturdy none := by
  obtain ⟨paid, credited, _, pays, credits, rfl⟩ := bookDeposit_ok booked
  exact (((sturdy.payIn pays).loosen account).credit credits (.inl rfl)).reseat

theorem faultless_deposit [Venue V] (sturdy : pool.book.Sturdy none) {amount leveraged : Nat}
    {limitPrice : Q96} {owner : Option AccountId}
    (notFee : leveraged ≠ 0 → terms.caller ≠ .feeHolder)
    : FaultlessFrom (deposit terms asset amount leveraged limitPrice owner) pool := by
  unfold deposit depositBy
  simp only
  split
  · exact .throw rfl
  · refine .lift_bind (faultless_depositOwner ..) fun account owned => ?_
    refine .bind (faultless_bookDeposit sturdy _) fun _ middle booked => ?_
    have atMiddle := sturdy_bookDeposit sturdy booked
    split
    · next opens =>
        have notFee : account ≠ .feeHolder := depositOwner_ok owned opens ▸ notFee opens
        refine .bind ?_ fun _ _ _ => .lift_bind (faultless_carryOut _) fun _ _ =>
          .lift_bind (faultless_carryOut _) fun _ _ => .pure _
        cases asset with
        | base => exact faultless_long atMiddle notFee ..
        | quote => exact faultless_short atMiddle notFee ..
    · exact .readBook_bind (.pure _)

theorem faultless_withdraw (sturdy : pool.book.Sturdy none) (amount : Nat)
    : FaultlessFrom (withdraw terms asset amount) pool := by
  unfold withdraw withdrawBy
  simp only
  split
  · exact .throw rfl
  · refine .readBook_bind (.lift_bind (faultless_requireHolder ..) fun _ _ => ?_)
    refine .lift_bind (Book.faultless_collateralOf ..) fun available known => ?_
    split
    · exact .throw rfl
    · next within =>
        generalize real_eq : (if amount = Amount.max then available else amount) = real
        have enough : real ≤ available := by grind
        refine .lift_bind (faultless_carryOut _) fun _ _ => ?_
        split
        · exact .throw rfl
        · have atStart := sturdy.loosen terms.caller
          refine .liftBook_bind (atStart.faultless_debit ..) fun _ debited debits => ?_
          have atDebited := atStart.debit debits fun _ => ⟨available, known, enough⟩
          refine .liftBook_bind (Book.faultless_payOut ..) fun _ paid pays => ?_
          refine .liftBook_bind (.modify _) fun _ seated seats => ?_
          obtain rfl := EStateM.modify_eq_ok.mp seats
          have atSeated := (atDebited.payOut pays).reseat
          refine .readBook_bind (.lift_bind
            (atSeated.indexed.faultless_requireLeverage ..) fun _ _ => ?_)
          exact .liftBook_bind (atSeated.faultless_dropIfEmpty _) fun _ _ _ =>
            .lift_bind (faultless_carryOut _) fun _ _ =>
              .record_bind (.readBook_bind (.pure _))

theorem faultless_requireLiquidatable {book : Book} (indexed : book.Indexed) (account : AccountId)
    (price : Q96)
    : Faultless (requireLiquidatable book account price) := by
  unfold requireLiquidatable
  split
  · split
    · exact .throw rfl
    · refine .bind (indexed.faultless_isLiquidatable ..) fun _ _ => ?_
      split
      · exact .throw rfl
      · exact .pure _
  · exact .throw rfl

theorem faultless_takeOver (sturdy : pool.book.Sturdy none) (notFee : terms.caller ≠ .feeHolder)
    (badAccount : AccountId) (quoteAmount baseAmount : Nat)
    : FaultlessFrom (takeOver terms badAccount quoteAmount baseAmount) pool := by
  unfold takeOver
  refine .readBook_bind ?_
  simp only
  split
  · exact .throw rfl
  · next unstarted =>
      refine .lift_bind (faultless_requireLiquidatable sturdy.indexed ..) fun bad liquidatable => ?_
      obtain ⟨found, debtAsset, owes⟩ := requireLiquidatable_ok liquidatable
      refine .liftBook_bind (.modify _) fun _ handed hands => ?_
      obtain rfl := EStateM.modify_eq_ok.mp hands
      have atHanded := sturdy.handOver found owes (Decidable.not_not.mp unstarted) notFee
      refine .liftBook_bind (Book.faultless_payIn ..) fun _ _ paysQuote => ?_
      refine .liftBook_bind (Book.faultless_payIn ..) fun _ _ paysBase => ?_
      have atPaid := ((atHanded.payIn paysQuote).payIn paysBase).loosen terms.caller
      refine .liftBook_bind (atPaid.faultless_credit ..) fun _ _ creditsQuote => ?_
      have atQuote := atPaid.credit creditsQuote (.inl rfl)
      refine .liftBook_bind (atQuote.faultless_credit ..) fun _ _ creditsBase => ?_
      have atBase := atQuote.credit creditsBase (.inl rfl)
      refine .liftBook_bind (.modify _) fun _ seated seats => ?_
      obtain rfl := EStateM.modify_eq_ok.mp seats
      have indexed := atBase.reseat.indexed
      refine .readBook_bind (.lift_bind (indexed.faultless_requireLeverage ..)
        fun _ _ => ?_)
      exact .liftBook_bind (indexed.faultless_refreshLeverage _) fun _ _ _ =>
        .readBook_bind (.record_bind (.readBook_bind (.pure _)))

theorem faultless_freeze (sturdy : pool.book.Sturdy none)
    : FaultlessFrom (freeze terms asset) pool := by
  unfold freeze
  exact .readBook_bind (.lift_bind (sturdy.indexed.faultless_totalNetValue _) fun _ _ =>
    .record_bind (.liftBook (.modify _)))

/-- Shares are parts of a total that is not zero. -/
theorem faultless_shareOf (snapshot : Snapshot) (netValue : Nat)
    : Faultless (snapshot.shareOf netValue) := by
  unfold Snapshot.shareOf
  split
  · exact .of_ok rfl
  · next worthy =>
      have some : snapshot.totalNetValue ≠ 0 := (not_or.mp worthy).1
      have portion : ∀ asset, Faultless (snapshot.portion asset netValue) := fun asset =>
        .bind (faultless_mulDiv _ _ some) fun _ _ => faultless_ofWide _
      exact .bind (portion .base) fun _ _ => .bind (portion .quote) fun _ _ => .pure _

theorem faultless_emergencyWithdraw (sturdy : pool.book.Sturdy none)
    : FaultlessFrom (emergencyWithdraw account) pool := by
  unfold emergencyWithdraw
  refine .readBook_bind ?_
  split
  · split
    · refine .lift_bind (sturdy.indexed.faultless_netValue ..) fun _ _ => ?_
      refine .liftMath_bind (faultless_shareOf ..) fun _ _ => ?_
      refine .liftBook_bind (sturdy.faultless_removePosition _) fun _ _ _ => ?_
      refine .liftBook_bind (Book.faultless_payOut ..) fun _ _ _ => ?_
      exact .liftBook_bind (Book.faultless_payOut ..) fun _ _ _ =>
        .record_bind (.pure _)
    · exact .throw rfl
  · exact .throw rfl

end Operations

-----
-- Liquidations
-----

section Liquidations

variable {V : Type} {pool pool' : Pool V} {terms : Terms} {account : AccountId} {asset : Asset}
  {shortfall kept : Nat}

/-- What is relieved never reaches the whole debt, so the counterparties' coefficient stays positive
for what comes after.
-/
theorem faultless_chargeCounterparties (sturdy : pool.book.Sturdy none)
    (owes : (pool.book.ledger asset.other).discountedDebt ≠ 0)
    : FaultlessFrom (chargeCounterparties asset shortfall kept) pool := by
  unfold chargeCounterparties chargeCounterpartiesBy
  refine .readBook_bind ?_
  simp only
  refine .liftBook_bind (Book.faultless_chargeBorrowers owes ..) fun _ raised raises => ?_
  have atRaised : raised.Sturdy none := sturdy.follow (sturdy.consistent.chargeBorrowers raises)
    (Book.rises_chargeBorrowers raises) ((Book.steps_chargeBorrowers ..).of_ok raises)
  refine .readBook_bind (.lift_bind ((atRaised.indexed _).faultless_realDebt _)
    fun debt known => ?_)
  refine .liftBook_bind (Book.faultless_relieveDebt owes ..) fun _ relieved relieves => ?_
  have written := (Book.steps_relieveDebt ..).of_ok relieves
  rw [← Book.discountedDebt_chargeBorrowers raises] at relieves
  have atRelieved : relieved.Sturdy none :=
    atRaised.follow (atRaised.consistent.relieveDebt relieves)
    (Book.rises_relieveDebt known (Nat.min_le_right ..) relieves) written
  exact .lift_bind (faultless_carryOut _) fun _ _ =>
    .liftBook_bind (atRelieved.faultless_shareAmongLenders ..) fun _ _ _ => .record _

theorem faultless_chargeSameSide (sturdy : pool.book.Sturdy none)
    : FaultlessFrom (chargeSameSide terms asset shortfall kept) pool := by
  unfold chargeSameSide
  refine .liftBook_bind (sturdy.faultless_shareAmongLenders ..) fun _ shared shares => ?_
  have atShared : (pool.withBook shared).book.Sturdy none := sturdy.shareAmongLenders shares
  refine .readBook_bind ?_
  simp only
  split
  · exact faultless_freeze atShared
  · next owes =>
      exact .liftBook_bind (Book.faultless_raiseDebt owes ..) fun _ _ _ => .record _

theorem faultless_placeShortfall (sturdy : pool.book.Sturdy none)
    : FaultlessFrom (placeShortfall terms asset shortfall kept) pool := by
  unfold placeShortfall placeShortfallBy
  refine .readBook_bind (.lift_bind (Book.faultless_borrowersCollateral ..) fun _ _ => ?_)
  split
  · next charged => exact faultless_chargeCounterparties sturdy (Nat.ne_of_gt charged.1)
  · exact faultless_chargeSameSide sturdy

theorem faultless_liquidationFloor {parameters : Parameters}
    (valid : parameters.violation? = none) (worth : Nat)
    : Faultless (parameters.liquidationFloor worth) := by
  unfold Parameters.liquidationFloor
  split
  · next kept difference =>
      have fraction := Parameters.isFraction_of_valid valid
        ("mc_slippage", parameters.liquidationSlippage) (by simp [Parameters.fractions])
      exact faultless_fractionOf (isNegative_of_sub fraction difference) worth
  · exact .throw rfl

variable [Venue V]

theorem faultless_sellSeized (sturdy : pool.book.Sturdy none) (priced : terms.price.raw ≠ 0)
    (seized : Nat)
    : FaultlessFrom (sellSeized terms asset seized) pool := by
  unfold sellSeized
  simp only
  split
  · exact .pure _
  · refine .readBook_bind ?_
    split
    · exact .pure _
    · refine .liftMath_bind ?_ fun _ _ => .liftMath_bind (faultless_liquidationFloor sturdy.valid _)
        fun _ _ => ?_
      · cases asset with
        | base => exact Q96.faultless_scale ..
        | quote => exact Q96.faultless_unscale priced _
      · refine .bind faultless_attempt fun answer _ _ => ?_
        cases answer with
        | ok fill => exact .liftBook_bind (Book.faultless_settle ..) fun _ _ _ => .pure _
        | error error => exact .pure _

theorem sturdy_sellSeized (sturdy : pool.book.Sturdy none) {seized : Nat} {proceeds : Option Nat}
    (sold : sellSeized terms asset seized pool = .ok proceeds pool')
    : pool'.book.Sturdy none := by
  rcases sellSeized_ok sold with
    ⟨_, _, rfl⟩ | ⟨_, venue, rfl⟩ | ⟨_, _, _, settled, _, settles, _, rfl⟩
  · exact sturdy
  · exact sturdy
  · exact sturdy.settle settles

theorem faultless_marginCall (sturdy : pool.book.Sturdy none) (priced : terms.price.raw ≠ 0)
    (account : AccountId)
    : FaultlessFrom (marginCall terms account) pool := by
  unfold marginCall marginCallBy
  refine .readBook_bind ?_
  split
  · split
    · refine .lift_bind (Book.faultless_collateralIn ..) fun _ _ => ?_
      refine .lift_bind (sturdy.indexed.faultless_debtIn ..) fun _ _ => ?_
      refine .liftBook_bind (sturdy.faultless_removePosition _) fun _ removed removes => ?_
      have atRemoved := sturdy.removePosition removes
      refine .bind (faultless_sellSeized (by exact atRemoved) priced _) fun _ sold sells => ?_
      have atSold : sold.book.Sturdy none := sturdy_sellSeized (by exact atRemoved) sells
      refine .lift_bind (.of_ok (Recovery.ofBy_carryOut ..)) fun _ _ => ?_
      simp only
      split
      · refine .liftBook_bind (atSold.faultless_shareAmongLenders ..) fun _ shared shares => ?_
        have atShared := atSold.shareAmongLenders shares
        refine .record_bind ?_
        split
        · exact faultless_placeShortfall (by exact atShared)
        · exact .pure _
      · refine .record_bind ?_
        split
        · exact faultless_placeShortfall (by exact atSold)
        · exact .pure _
    · exact .throw rfl
  · exact .throw rfl

theorem sturdy_marginCall (sturdy : pool.book.Sturdy none)
    (called : marginCall terms account pool = .ok () pool')
    : pool'.book.Sturdy none := by
  have changes : pool.book.Changes .feeHolder .feeHolder pool'.book := changes_marginCall called
  exact sturdy.follow (consistent_marginCall sturdy.consistent called) changes.rises
    (Writes.book ((steps_marginCall ..).of_ok called))

/-- A chain of margin calls leaves the book sturdy. -/
theorem Liquidation.sturdy {calls : List (Pool V × Pool V)}
    (chain : Liquidation terms pool calls pool') (sturdy : pool.book.Sturdy none)
    : pool'.book.Sturdy none := by
  have changes : pool.book.Changes .feeHolder .feeHolder pool'.book := chain.changes
  exact sturdy.follow (chain.consistent sturdy.consistent) changes.rises chain.writes.book

theorem Updates.sturdy {calls : List (Pool V × Pool V)} (updates : Updates terms pool calls pool')
    (sturdy : pool.book.Sturdy none)
    : pool'.book.Sturdy none := by
  cases updates with
  | current => exact sturdy
  | accrued accrues chain => exact chain.sturdy (sturdy.accrue accrues)

theorem faultless_rootIsDue {book : Book} (indexed : book.Indexed) (debtAsset : Asset)
    (root : HeapNode)
    : Faultless (rootIsDue terms debtAsset root book) := by
  unfold rootIsDue
  simp only
  split
  · exact .bind (indexed.faultless_isLiquidatable ..) fun _ _ =>
      .bind (indexed.faultless_systemLeverage ..) fun _ _ => .pure _
  · exact .bind (.of_ok rfl) fun _ _ =>
      .bind (indexed.faultless_systemLeverage ..) fun _ _ => .pure _

/-- Sweeping a heap meets no fault, by induction on the fuel: each margin call leaves the book
sturdy for the next one.
-/
theorem faultless_sweepHeap (sturdy : pool.book.Sturdy none) (priced : terms.price.raw ≠ 0)
    (fuel : Nat) (liquidated : List AccountId)
    : FaultlessFrom (sweepHeap terms asset fuel liquidated) pool := by
  induction fuel generalizing pool liquidated with
  | zero => exact .pure _
  | succ fuel ih =>
      unfold sweepHeap
      refine .readBook_bind ?_
      split
      · exact .pure _
      · split
        · exact .pure _
        · refine .lift_bind (faultless_rootIsDue sturdy.indexed ..) fun _ _ => ?_
          split
          · exact .bind (faultless_marginCall sturdy priced _) fun _ _ called =>
              ih (sturdy_marginCall sturdy called) _
          · exact .pure _

theorem faultless_sweepSide (sturdy : pool.book.Sturdy none) (priced : terms.price.raw ≠ 0)
    (liquidated : List AccountId)
    : FaultlessFrom (sweepSide terms asset liquidated) pool :=
  .readBook_bind (faultless_sweepHeap sturdy priced ..)

/-- Sweeping both heaps meets no fault, by induction on the fuel. -/
theorem faultless_sweepBoth (sturdy : pool.book.Sturdy none) (priced : terms.price.raw ≠ 0)
    (fuel : Nat) (liquidated : List AccountId)
    : FaultlessFrom (sweepBoth terms fuel liquidated) pool := by
  induction fuel generalizing pool liquidated with
  | zero => exact .pure _
  | succ fuel ih =>
      unfold sweepBoth
      refine .bind (faultless_sweepSide sturdy priced _) fun _ _ base => ?_
      obtain ⟨_, baseChain⟩ := sweepSide_ok base
      have atBase := baseChain.sturdy sturdy
      refine .bind (faultless_sweepSide atBase priced _) fun _ _ quote => ?_
      obtain ⟨_, quoteChain⟩ := sweepSide_ok quote
      refine .readBook_bind ?_
      split
      · exact .pure _
      · exact ih (quoteChain.sturdy atBase) _

theorem faultless_liquidateDue (sturdy : pool.book.Sturdy none) (priced : terms.price.raw ≠ 0)
    : FaultlessFrom (liquidateDue terms) pool := by
  unfold liquidateDue
  refine .readBook_bind (.bind (faultless_sweepBoth sturdy priced ..) fun _ _ sweeps => ?_)
  obtain ⟨_, chain⟩ := sweepBoth_ok sweeps
  refine .readBook_bind ?_
  split
  · exact .pure _
  · exact .liftBook_bind ((chain.sturdy sturdy).indexed.faultless_refreshLeverage _)
      fun _ _ _ => .pure _

theorem faultless_bringUpToDate (sturdy : pool.book.Sturdy none) (priced : terms.price.raw ≠ 0)
    : FaultlessFrom (bringUpToDate terms) pool := by
  unfold bringUpToDate
  refine .readBook_bind ?_
  refine .liftBook_bind (sturdy.faultless_accrue ..) fun moved accrued accrues => ?_
  have atAccrued := sturdy.accrue accrues
  split
  · exact .pure _
  · refine .readBook_bind (.record_bind ?_)
    refine .bind (faultless_liquidateDue (by exact atAccrued) priced) fun _ _ liquidates => ?_
    obtain ⟨_, chain⟩ := liquidateDue_ok liquidates
    have atLiquidated := chain.sturdy atAccrued
    split
    · exact .pure _
    · refine .readBook_bind ?_
      split
      · exact .pure _
      · refine .lift_bind ?_ fun _ _ => ?_
        · split
          · split
            · exact atLiquidated.indexed.faultless_isLiquidatable ..
            · exact .of_ok rfl
          · exact .of_ok rfl
        · split
          · refine .bind (faultless_marginCall atLiquidated priced _) fun _ _ called => ?_
            have indexed := (sturdy_marginCall atLiquidated called).indexed
            exact .liftBook_bind (indexed.faultless_refreshLeverage _) fun _ _ _ => .pure _
          · exact .pure _

end Liquidations

-----
-- Entry points
-----

section Entries

variable {V : Type} [Venue V] {pool : Pool V} {terms : Terms} {caller : AccountId}

/-- No operation meets a fault; the fee holder may only ask for those that move collateral. -/
theorem faultless_operate (sturdy : pool.book.Sturdy none) {call : Call}
    (allowed : terms.caller = .feeHolder → call.allowedForFeeHolder)
    : FaultlessFrom (operate terms call) pool := by
  cases call with
  | depositBase amount longAmount limitPrice owner =>
      exact faultless_deposit sturdy fun opens isFee => opens (beq_iff_eq.mp (allowed isFee))
  | depositQuote amount shortAmount limitPrice owner =>
      exact faultless_deposit sturdy fun opens isFee => opens (beq_iff_eq.mp (allowed isFee))
  | withdrawBase amount unwrap => exact faultless_withdraw sturdy amount
  | withdrawQuote amount unwrap => exact faultless_withdraw sturdy amount
  | short amount limitPrice =>
      exact faultless_short sturdy (fun isFee => nomatch allowed isFee) ..
  | long amount limitPrice =>
      exact faultless_long sturdy (fun isFee => nomatch allowed isFee) ..
  | closePosition limitPrice => exact faultless_closePosition sturdy limitPrice
  | sellCollateral amount limitPrice => exact faultless_sellCollateral sturdy ..
  | reinit => exact .readBook_bind (.pure _)
  | receivePosition badAccount quoteAmount baseAmount =>
      exact faultless_takeOver sturdy (fun isFee => nomatch allowed isFee) ..
  | emergencyWithdraw unwrap => exact .throw rfl

/-- The venue quotes no price of zero. -/
def Priced (pool : Pool V) : Prop :=
  ∀ price, Venue.basePrice pool.venue = .ok price → price.raw ≠ 0

theorem faultless_price (pool : Pool V) : Faultless pool.price := by
  unfold Pool.price
  cases quoted : Venue.basePrice pool.venue with
  | ok price => exact .of_ok rfl
  | error error => exact .throw rfl

theorem Priced.price (priced : pool.Priced) {price : Q96} (quoted : pool.price = .ok price)
    : price.raw ≠ 0 := by
  refine priced price ?_
  unfold Pool.price at quoted
  cases known : Venue.basePrice pool.venue with
  | ok found =>
      rw [known] at quoted
      exact congrArg Except.ok (Except.ok.inj quoted)
  | error error =>
      rw [known] at quoted
      cases quoted

theorem faultless_readPrice_bind {β : Type} {f : Q96 → PoolM V β}
    (second : ∀ price, FaultlessFrom (f price) pool)
    : FaultlessFrom (readPrice >>= f) pool := by
  refine .bind (.get_bind (.lift (faultless_price _))) fun price _ read => ?_
  simp only [readPrice, EStateM.bind_eq_ok, EStateM.get_eq_ok, EStateM.lift_eq_ok] at read
  obtain ⟨_, _, ⟨rfl, rfl⟩, _, rfl⟩ := read
  exact second price

theorem faultless_startTerms {route : Nat} : FaultlessFrom (startTerms caller route) pool :=
  faultless_readPrice_bind fun _ => .get_bind (.pure _)

theorem faultless_runRegular (sturdy : pool.book.Sturdy none) (priced : pool.Priced) {call : Call}
    {route : Nat} (allowed : caller = .feeHolder → call.allowedForFeeHolder)
    : FaultlessFrom (runRegular caller call route) pool := by
  unfold runRegular
  refine .bind faultless_startTerms fun terms _ started => ?_
  obtain ⟨rfl, rfl, quoted, _⟩ := startTerms_ok started
  refine .bind (faultless_bringUpToDate sturdy (priced.price quoted)) fun _ _ updated => ?_
  obtain ⟨_, updates⟩ := bringUpToDate_ok updated
  refine .readBook_bind ?_
  split
  · exact .pure _
  · exact faultless_operate (updates.sturdy sturdy) allowed

theorem faultless_dispatch (sturdy : pool.book.Sturdy none) (priced : pool.Priced) (call : Call)
    (route : Nat)
    : FaultlessFrom (dispatch caller call route) pool := by
  unfold dispatch
  simp only
  split
  · exact .throw rfl
  · next allowed =>
      refine .readBook_bind ?_
      split
      · cases call with
        | emergencyWithdraw unwrap => exact faultless_emergencyWithdraw sturdy
        | _ => exact .throw rfl
      · refine faultless_runRegular sturdy priced ?_
        rintro rfl
        simpa [AccountId.isFeeHolder] using allowed

omit [Venue V] in
theorem faultless_atomically {α : Type} {action : PoolM V α}
    (acts : FaultlessFrom action (pool.withBook pool.book.openJournal))
    : FaultlessFrom (atomically action) pool := by
  constructor
  intro error pool' failed
  obtain ⟨acted, fails, _⟩ := atomically_eq_error.mp failed
  exact acts.within _ _ fails

theorem faultless_insolventSide {book : Book} (indexed : book.Indexed) (price : Q96)
    : Faultless (insolventSide? book price) :=
  .bind (indexed.faultless_isInsolvent ..) fun _ _ =>
    .bind (indexed.faultless_isInsolvent ..) fun _ _ => .pure _

omit [Venue V] in
/-- With open journals the book is as sturdy as before. -/
theorem sturdy_openJournal (sturdy : pool.book.Sturdy none)
    : (pool.withBook pool.book.openJournal).book.Sturdy none :=
  ⟨sturdy.consistent.openJournal, sturdy.indexed, sturdy.valid⟩

theorem faultless_executeRouted (sturdy : pool.book.Sturdy none) (priced : pool.Priced)
    (call : Call) (route : Nat)
    : FaultlessFrom (executeRouted caller call route) pool :=
  faultless_atomically (faultless_dispatch (sturdy_openJournal sturdy) (by exact priced) ..)

theorem faultless_execute (sturdy : pool.book.Sturdy none) (priced : pool.Priced)
    (request : Request)
    : FaultlessFrom (execute caller request) pool := by
  refine .lift_bind ?_ fun _ _ => faultless_executeRouted sturdy priced ..
  unfold Call.ofRequest
  simp only
  split
  · exact .throw rfl
  · split
    · exact .throw rfl
    · split
      case h_10 => split <;> first | exact .of_ok rfl | exact .throw rfl
      all_goals exact .of_ok rfl

theorem faultless_setParameters (sturdy : pool.book.Sturdy none) (parameters : Parameters)
    : FaultlessFrom (setParameters caller parameters) pool := by
  unfold setParameters
  refine .get_bind ?_
  simp only
  split
  · exact .throw rfl
  · split
    · exact .throw rfl
    · refine faultless_atomically (.readBook_bind ?_)
      split
      · have opened := sturdy_openJournal sturdy
        exact faultless_readPrice_bind fun _ => .get_bind
          (.liftBook_bind (opened.faultless_accrue ..) fun _ _ _ =>
            .liftBook_bind (.modify _) fun _ _ _ => .record _)
      · exact .liftBook_bind (.modify _) fun _ _ _ => .record _

theorem faultless_shutDown (sturdy : pool.book.Sturdy none) (priced : pool.Priced)
    : FaultlessFrom (shutDown caller) pool := by
  refine faultless_atomically (.readBook_bind ?_)
  simp only
  split
  · exact .throw rfl
  · refine .bind faultless_startTerms fun terms _ started => ?_
    obtain ⟨rfl, _, quoted, _⟩ := startTerms_ok started
    have opened := sturdy_openJournal sturdy
    have priced : (pool.withBook pool.book.openJournal).Priced := priced
    refine .bind (faultless_bringUpToDate opened (priced.price quoted)) fun _ _ updated => ?_
    obtain ⟨_, updates⟩ := bringUpToDate_ok updated
    have atUpdated := updates.sturdy opened
    refine .readBook_bind ?_
    split
    · exact .pure _
    · refine .lift_bind (faultless_insolventSide atUpdated.indexed _) fun side _ => ?_
      cases side with
      | none => exact .throw rfl
      | some debtAsset =>
          exact .bind (faultless_freeze atUpdated) fun _ _ _ => .readBook_bind (.pure _)

/-- The book of a reachable pool is sturdy. -/
theorem Reachable.sturdy (reachable : Reachable pool) : pool.book.Sturdy none :=
  ⟨reachable.sound.consistent, reachable.indexed, reachable.sound.valid⟩

/-- No command meets a fault. -/
theorem faultless_run (sturdy : pool.book.Sturdy none) (priced : pool.Priced)
    (command : Command V)
    : FaultlessFrom command.run pool := by
  cases command with
  | execute caller request =>
      exact .bind (faultless_execute sturdy priced request) fun _ _ _ => .pure _
  | executeCall caller call =>
      exact .bind (faultless_executeRouted sturdy priced ..) fun _ _ _ => .pure _
  | setParameters caller parameters => exact faultless_setParameters sturdy parameters
  | shutDown caller => exact .bind (faultless_shutDown sturdy priced) fun _ _ _ => .pure _
  | setTime time => exact .modify _
  | changeVenue venue => exact .modify _

/-- On a reachable pool whose venue quotes no price of zero, no command fails for a difference below
zero, a division by zero or a negative amount.
-/
theorem run_meets_no_fault (reachable : Reachable pool)
    (priced : ∀ price, Venue.basePrice pool.venue = .ok price → price.raw ≠ 0)
    {command : Command V} {error : PoolError} {pool' : Pool V}
    (failed : command.run pool = .error error pool')
    : error ≠ .math .underflow ∧ error ≠ .math .divisionByZero ∧ error ≠ .math .negative := by
  have harmless := (faultless_run reachable.sturdy priced command).within error pool' failed
  refine ⟨?_, ?_, ?_⟩
  · rintro rfl
    cases harmless
  · rintro rfl
    cases harmless
  · rintro rfl
    cases harmless

end Entries

/-- The largest sale at a limit price of two fails for its size, and for no fault. -/
theorem run_meets_no_fault_sample
    : ∃ error pool',
        Command.run (.executeCall ⟨20⟩ (.short Amount.max (.ofNat 2))) (sample.after sampleTrades)
            = .error error pool'
          ∧ error = .math .overflow ∧ error ≠ .math .underflow ∧ error ≠ .math .divisionByZero
          ∧ error ≠ .math .negative := by
  have priced : ∀ price, Venue.basePrice (sample.after sampleTrades).venue = .ok price →
      price.raw ≠ 0 := by
    have quotes : Venue.basePrice (sample.after sampleTrades).venue = .ok .one := by decide +kernel
    rintro _ quoted
    obtain rfl := Except.ok.inj (quotes.symm.trans quoted)
    exact Q96.unit_ne_zero
  have failed : Command.run (.executeCall ⟨20⟩ (.short Amount.max (.ofNat 2)))
    (sample.after sampleTrades)
      = .error (.math .overflow) (endState (Command.run
          (.executeCall ⟨20⟩ (.short Amount.max (.ofNat 2))) (sample.after sampleTrades))) := by
    decide +kernel
  exact ⟨_, _, failed, rfl,
    run_meets_no_fault (reachable_sample.after sampleTrades) priced failed⟩

end Pool

end MarginLending
