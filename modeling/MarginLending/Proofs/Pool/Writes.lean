import MarginLending.Proofs.Book.Writes

/-!
Every action of a pool is a sequence of writes to its book, changes of its venue, and recorded
events, however it ends.
-/

namespace MarginLending

namespace Pool

variable {V : Type}

/-- One change of a pool within a call. -/
inductive Write : Pool V → Pool V → Prop
  | book (pool : Pool V) {book : Book} (written : pool.book.Write book)
    : Write pool (pool.withBook book)
  | venue (pool : Pool V) (venue : V) : Write pool (pool.withVenue venue)
  | event (pool : Pool V) (payload : EventPayload) : Write pool (pool.recording payload)

/-- A sequence of changes within a call. -/
abbrev Writes : Pool V → Pool V → Prop := Relation.ReflTransGen Write

theorem Writes.of_book (pool : Pool V) {book : Book} (written : pool.book.Writes book)
    : Writes pool (pool.withBook book) := by
  induction written with
  | refl => exact .refl
  | @tail middle last _ write ih => exact .tail ih (.book (pool.withBook middle) write)

section Sequences

variable {pool pool' : Pool V}

/-- Within a call only book, venue and pending events change, by induction on the sequence. -/
theorem Writes.frame (written : Writes pool pool')
    : pool' = { pool with
        book := pool'.book, venue := pool'.venue, pending := pool'.pending } := by
  induction written with
  | refl => rfl
  | tail _ last ih =>
      cases last with
      | book written => rw [ih]; rfl
      | venue venue => rw [ih]; rfl
      | event payload => rw [ih]; rfl

/-- Within a call the book changes by writes, by induction on the sequence. -/
theorem Writes.book (written : Writes pool pool') : pool.book.Writes pool'.book := by
  induction written with
  | refl => exact .refl
  | tail _ last ih =>
      cases last with
      | book written => exact .tail ih written
      | venue venue => exact ih
      | event payload => exact ih

end Sequences

section Steps

variable {α β : Type} {pool : Pool V}

/-- An action on the book that leads on by writes is one on the pool that does. -/
theorem steps_liftBook {x : BookM α} (steps : Steps Book.Write x pool.book)
    : Steps Write (liftM x : PoolM V α) pool := by
  have written := Writes.of_book pool steps
  unfold MarginLending.Steps
  simp only [liftM, monadLift, MonadLift.monadLift]
  cases result : x pool.book with
  | ok a book =>
      rw [result] at written
      exact written
  | error e book =>
      rw [result] at written
      exact written

theorem steps_liftBook_bind {x : BookM α} {f : α → PoolM V β}
    (steps : Steps Book.Write x pool.book)
    (second : ∀ a pool', Steps Write (f a) pool')
    : Steps Write ((liftM x : PoolM V α) >>= f) pool :=
  .bind (steps_liftBook steps) fun a pool' _ => second a pool'

theorem steps_readBook_bind {f : Book → PoolM V β} (second : Steps Write (f pool.book) pool)
    : Steps Write (readBook >>= f) pool :=
  second

theorem steps_record (payload : EventPayload)
    : Steps Write (record payload : PoolM V Unit) pool :=
  .of_modify (.single (.event pool payload))

theorem steps_record_bind {payload : EventPayload} {f : Unit → PoolM V β}
    (second : ∀ pool', Steps Write (f ()) pool')
    : Steps Write (record payload >>= f) pool :=
  .bind (steps_record payload) fun _ pool' _ => second pool'

end Steps

section Venues

variable (pool : Pool V)

theorem steps_swap [Venue V] (order : SwapOrder) : Steps Write (swap order) pool := by
  unfold swap
  refine .get_bind ?_
  simp only
  refine .bind (.of_set (.venue pool _)) fun _ _ _ => ?_
  split
  · exact .of_throw _
  · exact .of_throw _
  · exact .of_throw _
  · split
    · exact .of_pure _
    · exact .of_throw _

theorem steps_attempt {α : Type} {x : PoolM V α} (steps : Steps Write x pool)
    : Steps Write (attempt x) pool := by
  unfold MarginLending.Steps attempt at *
  cases result : x pool with
  | ok a pool' =>
      rw [result] at steps
      exact steps
  | error e pool' =>
      rw [result] at steps
      exact steps

end Venues

-----
-- Operations write by bookings, payments and seats
-----

section Operations

variable (pool : Pool V) (terms : Terms) (account : AccountId) (asset : Asset)

theorem steps_finishTrade : Steps Write (finishTrade terms account) pool := by
  unfold finishTrade
  exact steps_liftBook_bind (Book.steps_reseatM ..) fun _ _ => steps_readBook_bind
    (.lift_bind fun _ _ => steps_liftBook_bind (Book.steps_dropIfEmpty ..) fun _ _ =>
      steps_liftBook (Book.steps_refreshLeverage ..))

theorem steps_tradeOutcome (amounts : PerAsset Nat)
    : Steps Write (tradeOutcome account amounts) pool :=
  steps_readBook_bind (.of_pure _)

/-- What every trade ends with: the account is ranked again, its leverage checked, and the trade
reported.
-/
def tradeEnd (payload : Book → EventPayload) (amounts : PerAsset Nat) : PoolM V Outcome := do
  finishTrade terms account
  let book ← readBook
  record (payload book)
  tradeOutcome account amounts

theorem steps_tradeEnd (payload : Book → EventPayload) (amounts : PerAsset Nat)
    : Steps Write (tradeEnd terms account payload amounts) pool :=
  .bind (steps_finishTrade ..) fun _ _ _ => steps_readBook_bind
    (steps_record_bind fun _ => steps_tradeOutcome ..)

/-- An order that collateral pays for, and whose proceeds repay debt. -/
def repayment [Venue V] (order : SwapOrder) (repaidIn paidIn : Asset) (repaid paid : Fill → Nat)
    (payload : Fill → Book → EventPayload) (amounts : Fill → PerAsset Nat)
    : PoolM V Outcome := do
  let fill ← swap order
  Book.settle order fill
  Book.credit account repaidIn (repaid fill)
  Book.debit account paidIn (paid fill)
  tradeEnd terms account (payload fill) (amounts fill)

theorem steps_repayment [Venue V] (order : SwapOrder) (repaidIn paidIn : Asset)
    (repaid paid : Fill → Nat) (payload : Fill → Book → EventPayload)
    (amounts : Fill → PerAsset Nat)
    : Steps Write (repayment terms account order repaidIn paidIn repaid paid payload amounts)
      pool := by
  unfold repayment
  refine .bind (steps_swap ..) fun _ _ _ => ?_
  refine steps_liftBook_bind (Book.steps_settle ..) fun _ _ => ?_
  refine steps_liftBook_bind (Book.steps_credit ..) fun _ _ => ?_
  exact steps_liftBook_bind (Book.steps_debit ..) fun _ _ => steps_tradeEnd ..

theorem steps_short [Venue V] (amount : Nat) (limitPrice : Q96)
    : Steps Write (short terms account amount limitPrice) pool := by
  unfold short shortBy
  refine steps_readBook_bind (.lift_bind fun _ _ => .lift_bind fun _ _ => .liftMath_bind fun _ =>
    .bind (steps_swap ..) fun _ _ _ => steps_readBook_bind (.lift_bind fun _ _ => ?_))
  refine steps_liftBook_bind (Book.steps_settle ..) fun _ _ => .liftMath_bind fun _ =>
    .lift_bind fun _ _ => ?_
  refine steps_liftBook_bind (Book.steps_credit ..) fun _ _ => ?_
  refine steps_liftBook_bind (Book.steps_credit ..) fun _ _ => ?_
  refine steps_liftBook_bind (Book.steps_debit ..) fun _ _ => ?_
  exact steps_tradeEnd ..

theorem steps_long [Venue V] (amount : Nat) (limitPrice : Q96)
    : Steps Write (long terms account amount limitPrice) pool := by
  unfold long longBy
  refine steps_readBook_bind (.lift_bind fun _ _ => .lift_bind fun _ _ => .liftMath_bind fun _ =>
    .bind (steps_swap ..) fun _ _ _ => steps_readBook_bind (.lift_bind fun _ _ => ?_))
  refine steps_liftBook_bind (Book.steps_settle ..) fun _ _ => .lift_bind fun _ _ =>
    .liftMath_bind fun _ => ?_
  refine steps_liftBook_bind (Book.steps_credit ..) fun _ _ => .lift_bind fun _ _ => ?_
  refine steps_liftBook_bind (Book.steps_debit ..) fun _ _ => ?_
  refine steps_liftBook_bind (Book.steps_credit ..) fun _ _ => ?_
  exact steps_tradeEnd ..

theorem steps_closePosition [Venue V] (limitPrice : Q96)
    : Steps Write (closePosition terms limitPrice) pool := by
  unfold closePosition
  exact steps_readBook_bind (.lift_bind fun _ _ => .lift_bind fun _ _ => .lift_bind fun _ _ =>
    .liftMath_bind fun _ => steps_repayment ..)

theorem steps_sellCollateral [Venue V] (amount : Nat) (limitPrice : Q96)
    : Steps Write (sellCollateral terms amount limitPrice) pool := by
  unfold sellCollateral
  simp only
  split
  · exact .of_throw _
  · refine steps_readBook_bind (.lift_bind fun _ _ => .lift_bind fun _ _ => ?_)
    split
    · exact .of_throw _
    · exact .liftMath_bind fun _ => steps_repayment ..

theorem steps_bookDeposit (amount : Nat)
    : Steps Write (bookDeposit terms asset amount account) pool := by
  unfold bookDeposit
  refine steps_readBook_bind ?_
  simp only
  split
  · exact .of_throw _
  · refine .lift_bind fun _ _ => .lift_bind fun _ _ => ?_
    refine steps_liftBook_bind (Book.steps_payIn ..) fun _ _ => ?_
    refine steps_liftBook_bind (Book.steps_credit ..) fun _ _ => ?_
    exact steps_liftBook_bind (Book.steps_reseatM ..) fun _ _ => steps_readBook_bind
      (steps_record _)

theorem steps_deposit [Venue V] (amount leveraged : Nat) (limitPrice : Q96)
    (owner : Option AccountId)
    : Steps Write (deposit terms asset amount leveraged limitPrice owner) pool := by
  unfold deposit depositBy
  simp only
  split
  · exact .of_throw _
  · refine .lift_bind fun _ _ => .bind (steps_bookDeposit ..) fun _ _ _ => ?_
    split
    · refine .bind ?_ fun _ _ _ => .lift_bind fun _ _ => .lift_bind fun _ _ => .of_pure _
      cases asset with
      | base => exact steps_long ..
      | quote => exact steps_short ..
    · exact steps_readBook_bind (.of_pure _)

theorem steps_withdraw (amount : Nat) : Steps Write (withdraw terms asset amount) pool := by
  unfold withdraw withdrawBy
  simp only
  split
  · exact .of_throw _
  · refine steps_readBook_bind (.lift_bind fun _ _ => .lift_bind fun available _ => ?_)
    split
    · exact .of_throw _
    · refine .lift_bind fun _ _ => ?_
      generalize (if amount = Amount.max then available else amount) = real
      split
      · exact .of_throw _
      · refine steps_liftBook_bind (Book.steps_debit ..) fun _ _ => ?_
        refine steps_liftBook_bind (Book.steps_payOut ..) fun _ _ => ?_
        refine steps_liftBook_bind (Book.steps_reseatM ..) fun _ _ => ?_
        refine steps_readBook_bind (.lift_bind fun _ _ => ?_)
        exact steps_liftBook_bind (Book.steps_dropIfEmpty ..) fun _ _ => .lift_bind fun _ _ =>
          steps_record_bind fun _ => steps_readBook_bind (.of_pure _)

theorem steps_takeOver (badAccount : AccountId) (quoteAmount baseAmount : Nat)
    : Steps Write (takeOver terms badAccount quoteAmount baseAmount) pool := by
  unfold takeOver
  refine steps_readBook_bind ?_
  simp only
  split
  · exact .of_throw _
  · refine .lift_bind fun _ _ => steps_liftBook_bind (.of_modify (Book.writes_handOver ..))
      fun _ _ => ?_
    refine steps_liftBook_bind (Book.steps_payIn ..) fun _ _ => ?_
    refine steps_liftBook_bind (Book.steps_payIn ..) fun _ _ => ?_
    refine steps_liftBook_bind (Book.steps_credit ..) fun _ _ => ?_
    refine steps_liftBook_bind (Book.steps_credit ..) fun _ _ => ?_
    refine steps_liftBook_bind (Book.steps_reseatM ..) fun _ _ => ?_
    refine steps_readBook_bind (.lift_bind fun _ _ => ?_)
    exact steps_liftBook_bind (Book.steps_refreshLeverage ..) fun _ _ => steps_readBook_bind
      (steps_record_bind fun _ => steps_readBook_bind (.of_pure _))

theorem steps_freeze : Steps Write (freeze terms asset) pool := by
  unfold freeze
  exact steps_readBook_bind (.lift_bind fun _ _ => steps_record_bind fun _ =>
    steps_liftBook (.of_modify (.single (.frozen ..))))

theorem steps_emergencyWithdraw : Steps Write (emergencyWithdraw account) pool := by
  unfold emergencyWithdraw
  refine steps_readBook_bind ?_
  split
  · split
    · refine .lift_bind fun _ _ => .liftMath_bind fun _ => ?_
      refine steps_liftBook_bind (Book.steps_removePosition ..) fun _ _ => ?_
      refine steps_liftBook_bind (Book.steps_payOut ..) fun _ _ => ?_
      exact steps_liftBook_bind (Book.steps_payOut ..) fun _ _ => steps_record_bind fun _ =>
        .of_pure _
    · exact .of_throw _
  · exact .of_throw _

end Operations

-----
-- Liquidations write by removals and coefficients
-----

section Liquidations

variable (pool : Pool V) (terms : Terms) (asset : Asset) (shortfall kept : Nat)

theorem steps_chargeCounterparties
    : Steps Write (chargeCounterparties asset shortfall kept) pool := by
  unfold chargeCounterparties chargeCounterpartiesBy
  refine steps_readBook_bind ?_
  refine steps_liftBook_bind (Book.steps_chargeBorrowers ..) fun _ _ => ?_
  refine steps_readBook_bind (.lift_bind fun _ _ => ?_)
  refine steps_liftBook_bind (Book.steps_relieveDebt ..) fun _ _ => .lift_bind fun _ _ => ?_
  exact steps_liftBook_bind (Book.steps_shareAmongLenders ..) fun _ _ => steps_record _

theorem steps_chargeSameSide
    : Steps Write (chargeSameSide terms asset shortfall kept) pool := by
  unfold chargeSameSide
  refine steps_liftBook_bind (Book.steps_shareAmongLenders ..) fun _ _ => steps_readBook_bind ?_
  simp only
  split
  · exact steps_freeze ..
  · exact steps_liftBook_bind (Book.steps_raiseDebt ..) fun _ _ => steps_record _

theorem steps_placeShortfall
    : Steps Write (placeShortfall terms asset shortfall kept) pool := by
  unfold placeShortfall placeShortfallBy
  refine steps_readBook_bind (.lift_bind fun _ _ => ?_)
  split
  · exact steps_chargeCounterparties ..
  · exact steps_chargeSameSide ..

variable [Venue V]

theorem steps_sellSeized (seized : Nat) : Steps Write (sellSeized terms asset seized) pool := by
  unfold sellSeized
  simp only
  split
  · exact .of_pure _
  · refine steps_readBook_bind ?_
    split
    · exact .of_pure _
    · refine .liftMath_bind fun _ => .liftMath_bind fun _ =>
        .bind (steps_attempt _ (steps_swap ..)) fun answer _ _ => ?_
      cases answer with
      | ok fill => exact steps_liftBook_bind (Book.steps_settle ..) fun _ _ => .of_pure _
      | error error => exact .of_pure _

theorem steps_marginCall (account : AccountId)
    : Steps Write (marginCall terms account) pool := by
  unfold marginCall marginCallBy
  refine steps_readBook_bind ?_
  split
  · split
    · refine .lift_bind fun _ _ => .lift_bind fun _ _ => ?_
      refine steps_liftBook_bind (Book.steps_removePosition ..) fun _ _ => ?_
      refine .bind (steps_sellSeized ..) fun _ _ _ => .lift_bind fun _ _ => ?_
      simp only
      split
      · refine steps_liftBook_bind (Book.steps_shareAmongLenders ..) fun _ _ =>
          steps_record_bind fun _ => ?_
        split
        · exact steps_placeShortfall ..
        · exact .of_pure _
      · refine steps_record_bind fun _ => ?_
        split
        · exact steps_placeShortfall ..
        · exact .of_pure _
    · exact .of_throw _
  · exact .of_throw _

/-- Sweeping a heap writes only, by induction on the fuel. -/
theorem steps_sweepHeap (fuel : Nat) (liquidated : List AccountId)
    : Steps Write (sweepHeap terms asset fuel liquidated) pool := by
  induction fuel generalizing pool liquidated with
  | zero => exact .of_pure _
  | succ fuel ih =>
      unfold sweepHeap
      refine steps_readBook_bind ?_
      split
      · exact .of_pure _
      · split
        · exact .of_pure _
        · refine .lift_bind fun _ _ => ?_
          split
          · exact .bind (steps_marginCall ..) fun _ _ _ => ih ..
          · exact .of_pure _

theorem steps_sweepSide (liquidated : List AccountId)
    : Steps Write (sweepSide terms asset liquidated) pool :=
  steps_readBook_bind (steps_sweepHeap ..)

/-- Sweeping both heaps writes only, by induction on the fuel. -/
theorem steps_sweepBoth (fuel : Nat) (liquidated : List AccountId)
    : Steps Write (sweepBoth terms fuel liquidated) pool := by
  induction fuel generalizing pool liquidated with
  | zero => exact .of_pure _
  | succ fuel ih =>
      unfold sweepBoth
      refine .bind (steps_sweepSide ..) fun _ _ _ => .bind (steps_sweepSide ..) fun _ _ _ =>
        steps_readBook_bind ?_
      split
      · exact .of_pure _
      · exact ih ..

theorem steps_liquidateDue : Steps Write (liquidateDue terms) pool := by
  unfold liquidateDue
  refine steps_readBook_bind (.bind (steps_sweepBoth ..) fun _ _ _ => steps_readBook_bind ?_)
  split
  · exact .of_pure _
  · exact steps_liftBook_bind (Book.steps_refreshLeverage ..) fun _ _ => .of_pure _

theorem steps_bringUpToDate : Steps Write (bringUpToDate terms) pool := by
  unfold bringUpToDate
  refine steps_readBook_bind (steps_liftBook_bind (Book.steps_accrue ..) fun accrued _ => ?_)
  split
  · exact .of_pure _
  · refine steps_readBook_bind (steps_record_bind fun _ => .bind (steps_liquidateDue ..)
      fun _ _ _ => ?_)
    split
    · exact .of_pure _
    · refine steps_readBook_bind ?_
      split
      · exact .of_pure _
      · refine .lift_bind fun _ _ => ?_
        split
        · exact .bind (steps_marginCall ..) fun _ _ _ =>
            steps_liftBook_bind (Book.steps_refreshLeverage ..) fun _ _ => .of_pure _
        · exact .of_pure _

end Liquidations

section Calls

variable [Venue V] (pool : Pool V)

theorem steps_readPrice : Steps Write (readPrice : PoolM V Q96) pool :=
  .get_bind (.of_lift _)

theorem steps_startTerms (caller : AccountId) (route : Nat)
    : Steps Write (startTerms caller route : PoolM V Terms) pool :=
  .bind (steps_readPrice pool) fun _ _ _ => .get_bind (.of_pure _)

theorem steps_operate (terms : Terms) (call : Call)
    : Steps Write (operate terms call) pool := by
  cases call with
  | depositBase | depositQuote => exact steps_deposit ..
  | withdrawBase | withdrawQuote => exact steps_withdraw ..
  | short => exact steps_short ..
  | long => exact steps_long ..
  | closePosition => exact steps_closePosition ..
  | sellCollateral => exact steps_sellCollateral ..
  | reinit => exact steps_readBook_bind (.of_pure _)
  | receivePosition => exact steps_takeOver ..
  | emergencyWithdraw => exact .of_throw _

theorem steps_dispatch (caller : AccountId) (call : Call) (route : Nat)
    : Steps Write (dispatch caller call route) pool := by
  simp only [dispatch]
  by_cases forbidden : caller.isFeeHolder && !call.allowedForFeeHolder
  · rw [if_pos forbidden]
    exact .of_throw _
  · rw [if_neg forbidden]
    refine steps_readBook_bind ?_
    split
    · split
      · exact steps_emergencyWithdraw ..
      · exact .of_throw _
    · unfold runRegular
      refine .bind (steps_startTerms ..) fun _ _ _ => .bind (steps_bringUpToDate ..) fun _ _ _ =>
        steps_readBook_bind ?_
      split
      · exact .of_pure _
      · exact steps_operate ..

end Calls

end Pool

end MarginLending
