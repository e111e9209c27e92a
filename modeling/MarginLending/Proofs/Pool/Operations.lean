import MarginLending.Pool.Execute
import MarginLending.Proofs.Book.Changes

/-!
What a call that went through did, step by step. Each operation of the pool is read off as the chain
of bookings it made, the conditions it checked and the event it recorded.
-/

namespace MarginLending

namespace Pool

section Operations

variable {V : Type} {pool pool' : Pool V} {terms : Terms} {account : AccountId} {asset : Asset}

/-- An atomic action that went through ran with open journals and was committed. -/
theorem atomically_ok {α : Type} {action : PoolM V α} {a : α}
    (ran : atomically action pool = .ok a pool')
    : ∃ acted, action (pool.withBook pool.book.openJournal) = .ok a acted
        ∧ pool' = acted.commit := by
  unfold atomically at ran
  split at ran
  · next value acted acts =>
      cases ran
      exact ⟨acted, acts, rfl⟩
  · cases ran

theorem atomically_of_ok {α : Type} {action : PoolM V α} {value : α} {acted : Pool V}
    (went : action (pool.withBook pool.book.openJournal) = .ok value acted)
    : atomically action pool = .ok value acted.commit := by
  unfold withBook at went
  simp only [atomically, went]

theorem atomically_eq_error {α : Type} {action : PoolM V α} {error : PoolError}
    : atomically action pool = .error error pool'
      ↔ ∃ acted, action (pool.withBook pool.book.openJournal) = .error error acted
          ∧ acted.rollback = pool' := by
  simp only [atomically, withBook]
  cases action { pool with book := pool.book.openJournal } <;> simp [and_assoc]

/-- An order changes the venue and nothing else, whether it is filled or not. A fill keeps to the
amount and the limit.
-/
theorem swap_result [Venue V] (order : SwapOrder) (pool : Pool V)
    : ∃ venue,
        (∃ fill, order.isHonouredBy fill ∧ swap order pool = .ok fill (pool.withVenue venue))
        ∨ ∃ error, swap order pool = .error error (pool.withVenue venue) := by
  unfold swap
  rw [get_bind_apply]
  obtain ⟨answer, venue⟩ := Venue.swap pool.venue order
  refine ⟨venue, ?_⟩
  cases answer with
  | error error => cases error <;> exact .inr ⟨_, rfl⟩
  | ok fill =>
      by_cases honoured : order.isHonouredBy fill
      · refine .inl ⟨fill, honoured, ?_⟩
        simp only [honoured, if_true]
        rfl
      · refine .inr ⟨.slippageLimit, ?_⟩
        simp only [honoured]
        rfl

theorem swap_ok [Venue V] {order : SwapOrder} {fill : Fill}
    (swapped : swap order pool = .ok fill pool')
    : order.isHonouredBy fill ∧ ∃ venue, pool' = pool.withVenue venue := by
  obtain ⟨venue, ⟨filled, honoured, result⟩ | ⟨error, result⟩⟩ := swap_result order pool
  · rw [result] at swapped
    cases swapped
    exact ⟨honoured, venue, rfl⟩
  · rw [result] at swapped
    cases swapped

/-- A fill is the venue's own answer, and keeps to the order. -/
theorem swap_filled [Venue V] {order : SwapOrder} {fill : Fill}
    (swapped : swap order pool = .ok fill pool')
    : (Venue.swap pool.venue order).1 = .ok fill ∧ order.isHonouredBy fill := by
  refine ⟨?_, (swap_ok swapped).1⟩
  unfold swap at swapped
  rw [get_bind_apply] at swapped
  cases answered : Venue.swap pool.venue order with
  | mk answer venue =>
      rw [answered] at swapped
      cases answer with
      | error error => cases error <;> cases swapped
      | ok filled =>
          by_cases honoured : order.isHonouredBy filled
          · simp only [honoured, if_true] at swapped
            cases swapped
            rfl
          · simp only [honoured] at swapped
            cases swapped

/-- The venue's own answer goes through if it keeps to the order. -/
theorem swap_of_filled [Venue V] {order : SwapOrder} {fill : Fill}
    (filled : (Venue.swap pool.venue order).1 = .ok fill) (honoured : order.isHonouredBy fill)
    : swap order pool = .ok fill (pool.withVenue (Venue.swap pool.venue order).2) := by
  unfold swap
  rw [get_bind_apply]
  cases answered : Venue.swap pool.venue order with
  | mk answer venue =>
      rw [answered] at filled
      cases filled
      simp only [honoured, if_true]
      rfl

/-- An attempted order answers a fill or a failure. -/
theorem attempt_swap_ok [Venue V] {order : SwapOrder} {answer : Except PoolError Fill}
    (attempted : attempt (swap order) pool = .ok answer pool')
    : (∃ venue, pool' = pool.withVenue venue)
      ∧ ∀ fill, answer = .ok fill → order.isHonouredBy fill := by
  obtain ⟨venue, ⟨filled, honoured, result⟩ | ⟨error, result⟩⟩ := swap_result order pool
  · simp only [attempt, result] at attempted
    cases attempted
    exact ⟨⟨venue, rfl⟩, fun fill same => Except.ok.inj same ▸ honoured⟩
  · simp only [attempt, result] at attempted
    cases attempted
    exact ⟨⟨venue, rfl⟩, nofun⟩

/-- A fill that is attempted with success is the venue's own answer, and keeps to the order. -/
theorem attempt_swap_filled [Venue V] {order : SwapOrder} {fill : Fill}
    (attempted : attempt (swap order) pool = .ok (.ok fill) pool')
    : (Venue.swap pool.venue order).1 = .ok fill ∧ order.isHonouredBy fill := by
  unfold attempt at attempted
  cases swapped : swap order pool with
  | error error failed =>
      rw [swapped] at attempted
      cases attempted
  | ok filled swappedPool =>
      rw [swapped] at attempted
      cases attempted
      exact swap_filled swapped

/-- Whoever may trade is of a kind already. -/
theorem requireTrader_ok {book : Book} {amount : Nat} {kind : PositionKind}
    (trader : requireTrader book account amount = .ok kind)
    : book.kindOf account = kind := by
  simp only [requireTrader] at trader
  split at trader
  · exact (Except.throw_eq_ok.mp trader).elim
  · split at trader
    · exact (Except.throw_eq_ok.mp trader).elim
    · exact Except.pure_eq_ok.mp trader

/-- After a trade the account is seated anew, dropped if it is empty, and the leverage stored. -/
theorem finishTrade_ok (finished : finishTrade terms account pool = .ok () pool')
    : ∃ dropped book',
        (pool.book.reseat account).requireLeverage account terms.price = .ok ()
          ∧ Book.dropIfEmpty account (pool.book.reseat account) = .ok () dropped
          ∧ Book.refreshLeverage terms.price dropped = .ok () book'
          ∧ pool' = pool.withBook book' := by
  simp only [finishTrade, Book.reseatM, EStateM.bind_eq_ok, liftBook_eq_ok, readBook_eq_ok,
    EStateM.lift_eq_ok, EStateM.modify_eq_ok] at finished
  obtain ⟨_, _, ⟨_, rfl, rfl⟩, _, _, ⟨rfl, rfl⟩, _, _, ⟨within, rfl⟩, _, _,
    ⟨dropped, drops, rfl⟩, book', refreshes, rfl⟩ := finished
  exact ⟨dropped, book', within, drops, refreshes, rfl⟩

-----
-- A trade settles an order and books both of its sides
-----

section Trades

variable [Venue V] {limitPrice : Q96} {outcome : Outcome} {amount : Nat}

/-- A short sells base, finds room for the proceeds, credits them less the fee in quote, and owes
the base.
-/
theorem short_eq (traded : short terms account amount limitPrice pool = .ok outcome pool')
    : ∃ quoteDebt minimumOut fill fee venue settled credited paid debited dropped book',
        let order := SwapOrder.sell .base amount minimumOut terms.route
        pool.book.debtOf account .quote = .ok quoteDebt
          ∧ limitPrice.scale amount = .ok minimumOut
          ∧ (Venue.swap pool.venue order).1 = .ok fill ∧ order.isHonouredBy fill
          ∧ pool.book.requireRoom .quote fill.amountOut quoteDebt terms.price = .ok ()
          ∧ Book.settle order fill pool.book = .ok () settled
          ∧ pool.book.parameters.swapFeeOn (fill.amountOut - quoteDebt) = .ok fee
          ∧ fee ≤ fill.amountOut
          ∧ Book.credit account .quote (fill.amountOut - fee) settled = .ok () credited
          ∧ Book.credit .feeHolder .quote fee credited = .ok () paid
          ∧ Book.debit account .base amount paid = .ok () debited
          ∧ Book.dropIfEmpty account (debited.reseat account) = .ok () dropped
          ∧ Book.refreshLeverage terms.price dropped = .ok () book'
          ∧ outcome.amounts = ⟨amount, fill.amountOut⟩
          ∧ pool' = ((pool.withVenue venue).withBook book').recording
              (.short ⟨account, amount, fill.amountOut, fee, pool.book.kindOf account,
                book'.kindOf account⟩) := by
  simp only [short, shortBy, tradeOutcome, EStateM.bind_eq_ok, readBook_eq_ok, EStateM.lift_eq_ok,
    EStateM.liftMath_eq_ok, liftBook_eq_ok, record_eq_ok, EStateM.pure_eq_ok] at traded
  obtain ⟨_, _, ⟨rfl, rfl⟩, traded⟩ := traded
  obtain ⟨kindBefore, _, ⟨trader, rfl⟩, traded⟩ := traded
  obtain rfl := requireTrader_ok trader
  obtain ⟨quoteDebt, _, ⟨owed, rfl⟩, traded⟩ := traded
  obtain ⟨minimumOut, _, ⟨minimum, rfl⟩, traded⟩ := traded
  obtain ⟨fill, _, swapped, traded⟩ := traded
  obtain ⟨_, _, ⟨rfl, rfl⟩, traded⟩ := traded
  obtain ⟨_, _, ⟨fits, rfl⟩, traded⟩ := traded
  obtain ⟨_, _, ⟨settled, settles, rfl⟩, traded⟩ := traded
  obtain ⟨fee, _, ⟨charges, rfl⟩, traded⟩ := traded
  obtain ⟨_, _, ⟨received, rfl⟩, traded⟩ := traded
  obtain ⟨rfl, within⟩ := Unchecked.carryOut_difference_eq_ok.mp received
  obtain ⟨_, _, ⟨credited, credits, rfl⟩, traded⟩ := traded
  obtain ⟨_, _, ⟨paid, pays, rfl⟩, traded⟩ := traded
  obtain ⟨_, _, ⟨debited, debits, rfl⟩, traded⟩ := traded
  obtain ⟨_, _, finished, traded⟩ := traded
  obtain ⟨_, _, ⟨rfl, rfl⟩, traded⟩ := traded
  obtain ⟨_, _, rfl, _, _, ⟨rfl, rfl⟩, rfl, rfl⟩ := traded
  obtain ⟨filled, honoured⟩ := swap_filled swapped
  obtain ⟨_, venue, rfl⟩ := swap_ok swapped
  rw [book_withVenue] at fits
  obtain ⟨dropped, book', _, drops, refreshes, rfl⟩ := finishTrade_ok finished
  exact ⟨quoteDebt, minimumOut, fill, fee, venue, settled, credited, paid, debited, dropped, book',
    owed, minimum, filled, honoured, fits, settles, charges, within, credits, pays, debits, drops,
    refreshes, rfl, rfl⟩

theorem short_ok (traded : short terms account amount limitPrice pool = .ok outcome pool')
    : ∃ quoteDebt minimumOut fill fee venue payload settled credited paid debited dropped book',
        let order := SwapOrder.sell .base amount minimumOut terms.route
        pool.book.debtOf account .quote = .ok quoteDebt ∧ order.isHonouredBy fill
          ∧ Book.settle order fill pool.book = .ok () settled
          ∧ pool.book.parameters.swapFeeOn (fill.amountOut - quoteDebt) = .ok fee
          ∧ Book.credit account .quote (fill.amountOut - fee) settled = .ok () credited
          ∧ Book.credit .feeHolder .quote fee credited = .ok () paid
          ∧ Book.debit account .base amount paid = .ok () debited
          ∧ Book.dropIfEmpty account (debited.reseat account) = .ok () dropped
          ∧ Book.refreshLeverage terms.price dropped = .ok () book'
          ∧ pool' = ((pool.withVenue venue).withBook book').recording (.short payload) := by
  obtain ⟨quoteDebt, minimumOut, fill, fee, venue, settled, credited, paid, debited, dropped, book',
    owed, _, _, honoured, _, settles, charges, _, credits, pays, debits, drops, refreshes, _,
    rfl⟩ := short_eq traded
  exact ⟨quoteDebt, minimumOut, fill, fee, venue, _, settled, credited, paid, debited, dropped,
    book', owed, honoured, settles, charges, credits, pays, debits, drops, refreshes, rfl⟩

/-- A long buys base, finds room for it, credits it, owes its cost and the fee in quote, and credits
the fee.
-/
theorem long_eq (traded : long terms account amount limitPrice pool = .ok outcome pool')
    : ∃ baseDebt maximumIn fill charged fee venue settled credited debited paid dropped book',
        let order := SwapOrder.buyWith .quote amount maximumIn terms.route
        pool.book.debtOf account .base = .ok baseDebt
          ∧ limitPrice.scale amount = .ok maximumIn
          ∧ (Venue.swap pool.venue order).1 = .ok fill ∧ order.isHonouredBy fill
          ∧ pool.book.requireRoom .base amount baseDebt terms.price = .ok ()
          ∧ Book.settle order fill pool.book = .ok () settled
          ∧ chargedCost fill.amountIn amount baseDebt = .ok charged
          ∧ pool.book.parameters.swapFeeOn charged = .ok fee
          ∧ Book.credit account .base amount settled = .ok () credited
          ∧ Book.debit account .quote (fill.amountIn + fee) credited = .ok () debited
          ∧ Book.credit .feeHolder .quote fee debited = .ok () paid
          ∧ Book.dropIfEmpty account (paid.reseat account) = .ok () dropped
          ∧ Book.refreshLeverage terms.price dropped = .ok () book'
          ∧ outcome.amounts = ⟨amount, fill.amountIn⟩
          ∧ pool' = ((pool.withVenue venue).withBook book').recording
              (.long ⟨account, amount, fill.amountIn, fee, pool.book.kindOf account,
                book'.kindOf account⟩) := by
  simp only [long, longBy, tradeOutcome, EStateM.bind_eq_ok, readBook_eq_ok, EStateM.lift_eq_ok,
    EStateM.liftMath_eq_ok, liftBook_eq_ok, record_eq_ok, EStateM.pure_eq_ok] at traded
  obtain ⟨_, _, ⟨rfl, rfl⟩, traded⟩ := traded
  obtain ⟨kindBefore, _, ⟨trader, rfl⟩, traded⟩ := traded
  obtain rfl := requireTrader_ok trader
  obtain ⟨baseDebt, _, ⟨owed, rfl⟩, traded⟩ := traded
  obtain ⟨maximumIn, _, ⟨maximum, rfl⟩, traded⟩ := traded
  obtain ⟨fill, _, swapped, traded⟩ := traded
  obtain ⟨_, _, ⟨rfl, rfl⟩, traded⟩ := traded
  obtain ⟨_, _, ⟨fits, rfl⟩, traded⟩ := traded
  obtain ⟨_, _, ⟨settled, settles, rfl⟩, traded⟩ := traded
  obtain ⟨charged, _, ⟨share, rfl⟩, traded⟩ := traded
  obtain ⟨fee, _, ⟨charges, rfl⟩, traded⟩ := traded
  obtain ⟨_, _, ⟨credited, credits, rfl⟩, traded⟩ := traded
  obtain ⟨_, _, ⟨spent, rfl⟩, traded⟩ := traded
  obtain ⟨rfl, _⟩ := Unchecked.carryOut_sum_eq_ok.mp spent
  obtain ⟨_, _, ⟨debited, debits, rfl⟩, traded⟩ := traded
  obtain ⟨_, _, ⟨paid, pays, rfl⟩, traded⟩ := traded
  obtain ⟨_, _, finished, traded⟩ := traded
  obtain ⟨_, _, ⟨rfl, rfl⟩, traded⟩ := traded
  obtain ⟨_, _, rfl, _, _, ⟨rfl, rfl⟩, rfl, rfl⟩ := traded
  obtain ⟨filled, honoured⟩ := swap_filled swapped
  obtain ⟨_, venue, rfl⟩ := swap_ok swapped
  rw [book_withVenue] at fits
  obtain ⟨dropped, book', _, drops, refreshes, rfl⟩ := finishTrade_ok finished
  exact ⟨baseDebt, maximumIn, fill, charged, fee, venue, settled, credited, debited, paid, dropped,
    book', owed, maximum, filled, honoured, fits, settles, share, charges, credits, debits, pays,
    drops, refreshes, rfl, rfl⟩

theorem long_ok (traded : long terms account amount limitPrice pool = .ok outcome pool')
    : ∃ baseDebt maximumIn fill charged fee venue kindBefore kindAfter settled credited debited paid
        dropped book',
        let order := SwapOrder.buyWith .quote amount maximumIn terms.route
        order.isHonouredBy fill ∧ Book.settle order fill pool.book = .ok () settled
          ∧ chargedCost fill.amountIn amount baseDebt = .ok charged
          ∧ pool.book.parameters.swapFeeOn charged = .ok fee
          ∧ Book.credit account .base amount settled = .ok () credited
          ∧ Book.debit account .quote (fill.amountIn + fee) credited = .ok () debited
          ∧ Book.credit .feeHolder .quote fee debited = .ok () paid
          ∧ Book.dropIfEmpty account (paid.reseat account) = .ok () dropped
          ∧ Book.refreshLeverage terms.price dropped = .ok () book'
          ∧ pool' = ((pool.withVenue venue).withBook book').recording
              (.long ⟨account, amount, fill.amountIn, fee, kindBefore, kindAfter⟩) := by
  obtain ⟨baseDebt, maximumIn, fill, charged, fee, venue, settled, credited, debited, paid, dropped,
    book', _, _, _, honoured, _, settles, share, charges, credits, debits, pays, drops, refreshes,
    _, rfl⟩ := long_eq traded
  exact ⟨baseDebt, maximumIn, fill, charged, fee, venue, _, _, settled, credited, debited, paid,
    dropped, book', honoured, settles, share, charges, credits, debits, pays, drops, refreshes, rfl⟩

/-- Closing a position places an order that buys the whole debt for the net collateral at most, and
for no more than the limit price allows.
-/
theorem closePosition_placed (closed : closePosition terms limitPrice pool = .ok outcome pool')
    : ∃ debtAsset debt collateral bound fill venue payload settled credited debited dropped book',
        let order := SwapOrder.buyWith debtAsset.other debt (min bound collateral) terms.route
        requireDebtor pool.book terms.caller = .ok debtAsset
          ∧ pool.book.debtOf terms.caller debtAsset = .ok debt
          ∧ pool.book.collateralOf terms.caller debtAsset.other = .ok collateral
          ∧ closingBound debtAsset debt limitPrice = .ok bound
          ∧ (Venue.swap pool.venue order).1 = .ok fill ∧ order.isHonouredBy fill
          ∧ Book.settle order fill pool.book = .ok () settled
          ∧ Book.credit terms.caller debtAsset debt settled = .ok () credited
          ∧ Book.debit terms.caller debtAsset.other fill.amountIn credited = .ok () debited
          ∧ (debited.reseat terms.caller).requireLeverage terms.caller terms.price = .ok ()
          ∧ Book.dropIfEmpty terms.caller (debited.reseat terms.caller) = .ok () dropped
          ∧ Book.refreshLeverage terms.price dropped = .ok () book'
          ∧ pool' = ((pool.withVenue venue).withBook book').recording (.closePosition payload) := by
  simp only [closePosition, tradeOutcome, EStateM.bind_eq_ok, readBook_eq_ok, EStateM.lift_eq_ok,
    EStateM.liftMath_eq_ok, liftBook_eq_ok, record_eq_ok, EStateM.pure_eq_ok] at closed
  obtain ⟨_, _, ⟨rfl, rfl⟩, closed⟩ := closed
  obtain ⟨debtAsset, _, ⟨debtor, rfl⟩, closed⟩ := closed
  obtain ⟨debt, _, ⟨owes, rfl⟩, closed⟩ := closed
  obtain ⟨collateral, _, ⟨holds, rfl⟩, closed⟩ := closed
  obtain ⟨bound, _, ⟨bounds, rfl⟩, closed⟩ := closed
  obtain ⟨fill, _, swapped, closed⟩ := closed
  obtain ⟨_, _, ⟨settled, settles, rfl⟩, closed⟩ := closed
  obtain ⟨_, _, ⟨credited, credits, rfl⟩, closed⟩ := closed
  obtain ⟨_, _, ⟨debited, debits, rfl⟩, closed⟩ := closed
  obtain ⟨_, _, finished, closed⟩ := closed
  obtain ⟨_, _, ⟨rfl, rfl⟩, closed⟩ := closed
  obtain ⟨_, _, rfl, _, _, ⟨rfl, rfl⟩, _, rfl⟩ := closed
  obtain ⟨filled, honoured⟩ := swap_filled swapped
  obtain ⟨_, venue, rfl⟩ := swap_ok swapped
  obtain ⟨dropped, book', within, drops, refreshes, rfl⟩ := finishTrade_ok finished
  exact ⟨debtAsset, debt, collateral, bound, fill, venue, _, settled, credited, debited, dropped,
    book', debtor, owes, holds, bounds, filled, honoured, settles, credits, debits, within, drops,
    refreshes, rfl⟩

/-- Closing a position buys the debt with collateral, credits the debt and debits the collateral.
The account must come out within the bound.
-/
theorem closePosition_eq (closed : closePosition terms limitPrice pool = .ok outcome pool')
    : ∃ debtAsset debt bound fill venue payload settled credited debited dropped book',
        let order := SwapOrder.buyWith debtAsset.other debt bound terms.route
        requireDebtor pool.book terms.caller = .ok debtAsset
          ∧ pool.book.debtOf terms.caller debtAsset = .ok debt
          ∧ order.isHonouredBy fill ∧ Book.settle order fill pool.book = .ok () settled
          ∧ Book.credit terms.caller debtAsset debt settled = .ok () credited
          ∧ Book.debit terms.caller debtAsset.other fill.amountIn credited = .ok () debited
          ∧ (debited.reseat terms.caller).requireLeverage terms.caller terms.price = .ok ()
          ∧ Book.dropIfEmpty terms.caller (debited.reseat terms.caller) = .ok () dropped
          ∧ Book.refreshLeverage terms.price dropped = .ok () book'
          ∧ pool' = ((pool.withVenue venue).withBook book').recording (.closePosition payload) := by
  obtain ⟨debtAsset, debt, _, _, fill, venue, payload, settled, credited, debited, dropped, book',
    debtor, owes, _, _, _, honoured, settles, credits, debits, within, drops, refreshes, rfl⟩ :=
    closePosition_placed closed
  exact ⟨debtAsset, debt, _, fill, venue, payload, settled, credited, debited, dropped, book',
    debtor, owes, honoured, settles, credits, debits, within, drops, refreshes, rfl⟩

theorem closePosition_ok (closed : closePosition terms limitPrice pool = .ok outcome pool')
    : ∃ debtAsset debt bound fill venue payload settled credited debited dropped book',
        let order := SwapOrder.buyWith debtAsset.other debt bound terms.route
        requireDebtor pool.book terms.caller = .ok debtAsset
          ∧ order.isHonouredBy fill ∧ Book.settle order fill pool.book = .ok () settled
          ∧ Book.credit terms.caller debtAsset debt settled = .ok () credited
          ∧ Book.debit terms.caller debtAsset.other fill.amountIn credited = .ok () debited
          ∧ Book.dropIfEmpty terms.caller (debited.reseat terms.caller) = .ok () dropped
          ∧ Book.refreshLeverage terms.price dropped = .ok () book'
          ∧ pool' = ((pool.withVenue venue).withBook book').recording (.closePosition payload) := by
  obtain ⟨debtAsset, debt, bound, fill, venue, payload, settled, credited, debited, dropped, book',
    debtor, _, honoured, settles, credits, debits, _, drops, refreshes, rfl⟩ :=
    closePosition_eq closed
  exact ⟨debtAsset, debt, bound, fill, venue, payload, settled, credited, debited, dropped, book',
    debtor, honoured, settles, credits, debits, drops, refreshes, rfl⟩

/-- Selling collateral places an order that sells what was asked for, or the net collateral if that
is less, for no less than the limit price allows.
-/
theorem sellCollateral_placed
    (traded : sellCollateral terms amount limitPrice pool = .ok outcome pool')
    : ∃ debtAsset held floor fill venue payload settled credited debited dropped book',
        let order := SwapOrder.sell debtAsset.other (min amount held) floor terms.route
        requireDebtor pool.book terms.caller = .ok debtAsset
          ∧ pool.book.collateralOf terms.caller debtAsset.other = .ok held
          ∧ sellingFloor debtAsset (min amount held) limitPrice = .ok floor
          ∧ (Venue.swap pool.venue order).1 = .ok fill ∧ order.isHonouredBy fill
          ∧ Book.settle order fill pool.book = .ok () settled
          ∧ Book.credit terms.caller debtAsset fill.amountOut settled = .ok () credited
          ∧ Book.debit terms.caller debtAsset.other (min amount held) credited = .ok () debited
          ∧ Book.dropIfEmpty terms.caller (debited.reseat terms.caller) = .ok () dropped
          ∧ Book.refreshLeverage terms.price dropped = .ok () book'
          ∧ pool'
            = ((pool.withVenue venue).withBook book').recording (.sellCollateral payload) := by
  simp only [sellCollateral] at traded
  split at traded
  · exact (EStateM.throw_eq_ok.mp traded).elim
  · simp only [EStateM.bind_eq_ok, readBook_eq_ok, EStateM.lift_eq_ok] at traded
    obtain ⟨_, _, ⟨rfl, rfl⟩, traded⟩ := traded
    obtain ⟨debtAsset, _, ⟨debtor, rfl⟩, traded⟩ := traded
    obtain ⟨held, _, ⟨holds, rfl⟩, traded⟩ := traded
    split at traded
    · exact (EStateM.throw_eq_ok.mp traded).elim
    · simp only [tradeOutcome, EStateM.bind_eq_ok, readBook_eq_ok, EStateM.liftMath_eq_ok,
        liftBook_eq_ok, record_eq_ok, EStateM.pure_eq_ok] at traded
      obtain ⟨floor, _, ⟨floors, rfl⟩, traded⟩ := traded
      obtain ⟨fill, _, swapped, traded⟩ := traded
      obtain ⟨_, _, ⟨settled, settles, rfl⟩, traded⟩ := traded
      obtain ⟨_, _, ⟨credited, credits, rfl⟩, traded⟩ := traded
      obtain ⟨_, _, ⟨debited, debits, rfl⟩, traded⟩ := traded
      obtain ⟨_, _, finished, traded⟩ := traded
      obtain ⟨_, _, ⟨rfl, rfl⟩, traded⟩ := traded
      obtain ⟨_, _, rfl, _, _, ⟨rfl, rfl⟩, _, rfl⟩ := traded
      obtain ⟨filled, honoured⟩ := swap_filled swapped
      obtain ⟨_, venue, rfl⟩ := swap_ok swapped
      obtain ⟨dropped, book', _, drops, refreshes, rfl⟩ := finishTrade_ok finished
      exact ⟨debtAsset, held, floor, fill, venue, _, settled, credited, debited, dropped, book',
        debtor, holds, floors, filled, honoured, settles, credits, debits, drops, refreshes, rfl⟩

/-- Selling collateral credits the proceeds against the debt and debits what was sold, which is no
more than the net collateral.
-/
theorem sellCollateral_eq
    (traded : sellCollateral terms amount limitPrice pool = .ok outcome pool')
    : ∃ debtAsset held floor fill venue payload settled credited debited dropped book',
        let order := SwapOrder.sell debtAsset.other (min amount held) floor terms.route
        requireDebtor pool.book terms.caller = .ok debtAsset
          ∧ pool.book.collateralOf terms.caller debtAsset.other = .ok held
          ∧ order.isHonouredBy fill ∧ Book.settle order fill pool.book = .ok () settled
          ∧ Book.credit terms.caller debtAsset fill.amountOut settled = .ok () credited
          ∧ Book.debit terms.caller debtAsset.other (min amount held) credited = .ok () debited
          ∧ Book.dropIfEmpty terms.caller (debited.reseat terms.caller) = .ok () dropped
          ∧ Book.refreshLeverage terms.price dropped = .ok () book'
          ∧ pool'
            = ((pool.withVenue venue).withBook book').recording (.sellCollateral payload) := by
  obtain ⟨debtAsset, held, floor, fill, venue, payload, settled, credited, debited, dropped, book',
    debtor, holds, _, _, honoured, settles, credits, debits, drops, refreshes, rfl⟩ :=
    sellCollateral_placed traded
  exact ⟨debtAsset, held, floor, fill, venue, payload, settled, credited, debited, dropped, book',
    debtor, holds, honoured, settles, credits, debits, drops, refreshes, rfl⟩

theorem sellCollateral_ok
    (traded : sellCollateral terms amount limitPrice pool = .ok outcome pool')
    : ∃ debtAsset sold floor fill venue payload settled credited debited dropped book',
        let order := SwapOrder.sell debtAsset.other sold floor terms.route
        requireDebtor pool.book terms.caller = .ok debtAsset
          ∧ order.isHonouredBy fill ∧ Book.settle order fill pool.book = .ok () settled
          ∧ Book.credit terms.caller debtAsset fill.amountOut settled = .ok () credited
          ∧ Book.debit terms.caller debtAsset.other sold credited = .ok () debited
          ∧ Book.dropIfEmpty terms.caller (debited.reseat terms.caller) = .ok () dropped
          ∧ Book.refreshLeverage terms.price dropped = .ok () book'
          ∧ pool'
            = ((pool.withVenue venue).withBook book').recording (.sellCollateral payload) := by
  obtain ⟨debtAsset, held, floor, fill, venue, payload, settled, credited, debited, dropped, book',
    debtor, _, honoured, settles, credits, debits, drops, refreshes, rfl⟩ :=
    sellCollateral_eq traded
  exact ⟨debtAsset, _, floor, fill, venue, payload, settled, credited, debited, dropped, book',
    debtor, honoured, settles, credits, debits, drops, refreshes, rfl⟩

end Trades

-----
-- Transfers, takeovers and ways out
-----

/-- A deposit finds room in the balance, enters it, is credited to its owner, and seats the owner
anew.
-/
theorem bookDeposit_eq {amount : Nat}
    (booked : bookDeposit terms asset amount account pool = .ok () pool')
    : ∃ debt paid credited payload, pool.book.debtOf account asset = .ok debt
        ∧ pool.book.requireRoom asset amount debt terms.price = .ok ()
        ∧ Book.payIn asset amount pool.book = .ok () paid
        ∧ Book.credit account asset amount paid = .ok () credited
        ∧ pool' = (pool.withBook (credited.reseat account)).recording (.deposit asset payload) := by
  simp only [bookDeposit, EStateM.bind_eq_ok, readBook_eq_ok] at booked
  obtain ⟨_, _, ⟨rfl, rfl⟩, booked⟩ := booked
  split at booked
  · exact (EStateM.throw_eq_ok.mp booked).elim
  · simp only [Book.reseatM, EStateM.bind_eq_ok, readBook_eq_ok, EStateM.lift_eq_ok,
      liftBook_eq_ok, record_eq_ok, EStateM.modify_eq_ok] at booked
    obtain ⟨debt, _, ⟨owed, rfl⟩, booked⟩ := booked
    obtain ⟨_, _, ⟨fits, rfl⟩, booked⟩ := booked
    obtain ⟨_, _, ⟨paid, pays, rfl⟩, booked⟩ := booked
    obtain ⟨_, _, ⟨credited, credits, rfl⟩, booked⟩ := booked
    obtain ⟨_, _, ⟨_, rfl, rfl⟩, _, _, ⟨rfl, rfl⟩, rfl⟩ := booked
    exact ⟨debt, paid, credited, _, owed, fits, pays, credits, rfl⟩

theorem bookDeposit_ok {amount : Nat}
    (booked : bookDeposit terms asset amount account pool = .ok () pool')
    : ∃ paid credited payload, Book.payIn asset amount pool.book = .ok () paid
        ∧ Book.credit account asset amount paid = .ok () credited
        ∧ pool' = (pool.withBook (credited.reseat account)).recording (.deposit asset payload) := by
  obtain ⟨_, paid, credited, payload, _, _, pays, credits, rfl⟩ := bookDeposit_eq booked
  exact ⟨paid, credited, payload, pays, credits, rfl⟩

/-- A deposit is booked to its owner, and a trade follows if one was asked for. -/
theorem deposit_ok [Venue V] {amount leveraged : Nat} {limitPrice : Q96}
    {owner : Option AccountId} {outcome : Outcome}
    (deposited : deposit terms asset amount leveraged limitPrice owner pool = .ok outcome pool')
    : ∃ account middle, depositOwner terms.caller leveraged owner = .ok account
        ∧ bookDeposit terms asset amount account pool = .ok () middle
        ∧ (leveraged = 0 ∧ pool' = middle
          ∨ leveraged ≠ 0 ∧ ∃ trade,
              tradeFor terms account leveraged limitPrice asset middle = .ok trade pool') := by
  simp only [deposit, depositBy] at deposited
  split at deposited
  · exact (EStateM.throw_eq_ok.mp deposited).elim
  · simp only [EStateM.bind_eq_ok, EStateM.lift_eq_ok] at deposited
    obtain ⟨account, _, ⟨owned, rfl⟩, deposited⟩ := deposited
    obtain ⟨_, middle, booked, deposited⟩ := deposited
    refine ⟨account, middle, owned, booked, ?_⟩
    split at deposited
    · next opens =>
        simp only [EStateM.bind_eq_ok, EStateM.lift_eq_ok, EStateM.pure_eq_ok] at deposited
        obtain ⟨trade, _, traded, _, _, ⟨_, rfl⟩, _, _, ⟨_, rfl⟩, _, rfl⟩ := deposited
        exact .inr ⟨opens, trade, traded⟩
    · next opensNothing =>
        simp only [EStateM.bind_eq_ok, readBook_eq_ok, EStateM.pure_eq_ok] at deposited
        obtain ⟨_, _, ⟨rfl, rfl⟩, _, rfl⟩ := deposited
        exact .inl ⟨Decidable.not_not.mp opensNothing, rfl⟩

/-- A withdrawal takes no more than there is, and leaves the account seated anew or dropped. -/
theorem withdraw_ok {amount : Nat} {outcome : Outcome}
    (withdrawn : withdraw terms asset amount pool = .ok outcome pool')
    : ∃ available real debited paid dropped payload,
        requireHolder pool.book terms.caller asset = .ok ()
          ∧ pool.book.collateralOf terms.caller asset = .ok available ∧ real ≤ available
          ∧ Book.debit terms.caller asset real pool.book = .ok () debited
          ∧ Book.payOut asset real debited = .ok () paid
          ∧ Book.dropIfEmpty terms.caller (paid.reseat terms.caller) = .ok () dropped
          ∧ pool' = (pool.withBook dropped).recording (.withdraw asset payload) := by
  simp only [withdraw, withdrawBy] at withdrawn
  split at withdrawn
  · exact (EStateM.throw_eq_ok.mp withdrawn).elim
  · simp only [EStateM.bind_eq_ok, readBook_eq_ok, EStateM.lift_eq_ok] at withdrawn
    obtain ⟨_, _, ⟨rfl, rfl⟩, withdrawn⟩ := withdrawn
    obtain ⟨_, _, ⟨holder, rfl⟩, withdrawn⟩ := withdrawn
    obtain ⟨available, _, ⟨known, rfl⟩, withdrawn⟩ := withdrawn
    split at withdrawn
    · exact (EStateM.throw_eq_ok.mp withdrawn).elim
    · next within =>
        have enough : (if amount = Amount.max then available else amount) ≤ available := by
          split
          · exact Nat.le_refl _
          · next exact =>
              rw [not_and, Nat.not_lt] at within
              exact within exact
        generalize (if amount = Amount.max then available else amount) = real at withdrawn enough
        simp only [EStateM.bind_eq_ok, EStateM.lift_eq_ok] at withdrawn
        obtain ⟨_, _, ⟨_, rfl⟩, withdrawn⟩ := withdrawn
        split at withdrawn
        · exact (EStateM.throw_eq_ok.mp withdrawn).elim
        · simp only [Book.reseatM, EStateM.bind_eq_ok, readBook_eq_ok, EStateM.lift_eq_ok,
            liftBook_eq_ok, record_eq_ok, EStateM.modify_eq_ok, EStateM.pure_eq_ok] at withdrawn
          obtain ⟨_, _, ⟨debited, debits, rfl⟩, withdrawn⟩ := withdrawn
          obtain ⟨_, _, ⟨paid, pays, rfl⟩, withdrawn⟩ := withdrawn
          obtain ⟨_, _, ⟨_, rfl, rfl⟩, withdrawn⟩ := withdrawn
          obtain ⟨_, _, ⟨rfl, rfl⟩, withdrawn⟩ := withdrawn
          obtain ⟨_, _, ⟨_, rfl⟩, withdrawn⟩ := withdrawn
          obtain ⟨_, _, ⟨dropped, drops, rfl⟩, withdrawn⟩ := withdrawn
          obtain ⟨_, _, ⟨_, rfl⟩, _, _, rfl, _, _, ⟨rfl, rfl⟩, _, rfl⟩ := withdrawn
          exact ⟨available, real, debited, paid, dropped, _, holder, known, enough, debits, pays,
            drops, rfl⟩

/-- The position of an account that may be taken over is leveraged, and above the leverage bound. -/
theorem requireLiquidatable_eq {book : Book} {price : Q96} {position : Position}
    (liquidatable : requireLiquidatable book account price = .ok position)
    : book.position? account = some position
      ∧ (∃ debtAsset, position.kind.debtAsset? = some debtAsset)
      ∧ book.isLiquidatable position price = .ok true := by
  unfold requireLiquidatable at liquidatable
  cases found : book.position? account with
  | none =>
      rw [found] at liquidatable
      exact (Except.throw_eq_ok.mp liquidatable).elim
  | some held =>
      simp only [found] at liquidatable
      split at liquidatable
      · exact (Except.throw_eq_ok.mp liquidatable).elim
      · next leveraged =>
          obtain ⟨due, known, liquidatable⟩ := Except.bind_eq_ok.mp liquidatable
          cases due with
          | false => exact (Except.throw_eq_ok.mp liquidatable).elim
          | true =>
              obtain rfl := Except.pure_eq_ok.mp liquidatable
              refine ⟨rfl, Option.ne_none_iff_exists'.mp ?_, known⟩
              simpa [Position.isLeveraged] using leveraged

theorem requireLiquidatable_ok {book : Book} {price : Q96} {position : Position}
    (liquidatable : requireLiquidatable book account price = .ok position)
    : book.position? account = some position
      ∧ ∃ debtAsset, position.kind.debtAsset? = some debtAsset := by
  obtain ⟨found, owes, _⟩ := requireLiquidatable_eq liquidatable
  exact ⟨found, owes⟩

/-- A takeover hands the position of a bad account that is above the bound to an account without one
and credits what it pays in. The position must come out within the bound.
-/
theorem takeOver_eq {badAccount : AccountId} {quoteAmount baseAmount : Nat} {outcome : Outcome}
    (taken : takeOver terms badAccount quoteAmount baseAmount pool = .ok outcome pool')
    : ∃ bad debtAsset quotePaid basePaid quoteCredited baseCredited book' payload,
        pool.book.kindOf terms.caller = .uninitialized
          ∧ pool.book.position? badAccount = some bad ∧ bad.kind.debtAsset? = some debtAsset
          ∧ pool.book.isLiquidatable bad terms.price = .ok true
          ∧ Book.payIn .quote quoteAmount (pool.book.handOver bad badAccount terms.caller)
            = .ok () quotePaid
          ∧ Book.payIn .base baseAmount quotePaid = .ok () basePaid
          ∧ Book.credit terms.caller .quote quoteAmount basePaid = .ok () quoteCredited
          ∧ Book.credit terms.caller .base baseAmount quoteCredited = .ok () baseCredited
          ∧ (baseCredited.reseat terms.caller).requireLeverage terms.caller terms.price = .ok ()
          ∧ Book.refreshLeverage terms.price (baseCredited.reseat terms.caller) = .ok () book'
          ∧ pool' = (pool.withBook book').recording (.receivePosition payload) := by
  simp only [takeOver, EStateM.bind_eq_ok, readBook_eq_ok] at taken
  obtain ⟨_, _, ⟨rfl, rfl⟩, taken⟩ := taken
  split at taken
  · exact (EStateM.throw_eq_ok.mp taken).elim
  · next unstarted =>
      simp only [Book.reseatM, EStateM.bind_eq_ok, readBook_eq_ok, EStateM.lift_eq_ok,
        liftBook_eq_ok, record_eq_ok, EStateM.modify_eq_ok, EStateM.pure_eq_ok] at taken
      obtain ⟨bad, _, ⟨liquidatable, rfl⟩, taken⟩ := taken
      obtain ⟨_, _, ⟨_, rfl, rfl⟩, taken⟩ := taken
      obtain ⟨_, _, ⟨quotePaid, paysQuote, rfl⟩, taken⟩ := taken
      obtain ⟨_, _, ⟨basePaid, paysBase, rfl⟩, taken⟩ := taken
      obtain ⟨_, _, ⟨quoteCredited, creditsQuote, rfl⟩, taken⟩ := taken
      obtain ⟨_, _, ⟨baseCredited, creditsBase, rfl⟩, taken⟩ := taken
      obtain ⟨_, _, ⟨_, rfl, rfl⟩, taken⟩ := taken
      obtain ⟨_, _, ⟨rfl, rfl⟩, taken⟩ := taken
      obtain ⟨_, _, ⟨within, rfl⟩, taken⟩ := taken
      obtain ⟨_, _, ⟨book', refreshes, rfl⟩, taken⟩ := taken
      obtain ⟨_, _, ⟨rfl, rfl⟩, _, _, rfl, _, _, ⟨rfl, rfl⟩, _, rfl⟩ := taken
      obtain ⟨found, ⟨debtAsset, owes⟩, due⟩ := requireLiquidatable_eq liquidatable
      exact ⟨bad, debtAsset, quotePaid, basePaid, quoteCredited, baseCredited, book', _,
        Decidable.not_not.mp unstarted, found, owes, due, paysQuote, paysBase, creditsQuote,
        creditsBase, within, refreshes, rfl⟩

theorem takeOver_ok {badAccount : AccountId} {quoteAmount baseAmount : Nat} {outcome : Outcome}
    (taken : takeOver terms badAccount quoteAmount baseAmount pool = .ok outcome pool')
    : ∃ bad debtAsset quotePaid basePaid quoteCredited baseCredited book' payload,
        pool.book.kindOf terms.caller = .uninitialized
          ∧ pool.book.position? badAccount = some bad ∧ bad.kind.debtAsset? = some debtAsset
          ∧ Book.payIn .quote quoteAmount (pool.book.handOver bad badAccount terms.caller)
            = .ok () quotePaid
          ∧ Book.payIn .base baseAmount quotePaid = .ok () basePaid
          ∧ Book.credit terms.caller .quote quoteAmount basePaid = .ok () quoteCredited
          ∧ Book.credit terms.caller .base baseAmount quoteCredited = .ok () baseCredited
          ∧ Book.refreshLeverage terms.price (baseCredited.reseat terms.caller) = .ok () book'
          ∧ pool' = (pool.withBook book').recording (.receivePosition payload) := by
  obtain ⟨bad, debtAsset, quotePaid, basePaid, quoteCredited, baseCredited, book', payload,
    unstarted, found, owes, _, paysQuote, paysBase, creditsQuote, creditsBase, _, refreshes, rfl⟩ :=
    takeOver_eq taken
  exact ⟨bad, debtAsset, quotePaid, basePaid, quoteCredited, baseCredited, book', payload,
    unstarted, found, owes, paysQuote, paysBase, creditsQuote, creditsBase, refreshes, rfl⟩

/-- Freezing sets the mode and the snapshot and nothing else of the book. -/
theorem freeze_ok (frozen : freeze terms asset pool = .ok () pool')
    : ∃ total, pool.book.totalNetValue terms.price = .ok total
        ∧ pool' = (pool.recording
            (.emergencyTripped (.ofDebt asset) (pool.book.ledgers.map Ledger.balance))).withBook
            { pool.book with
              mode := .ofDebt asset
              snapshot := some
                ⟨.ofDebt asset, terms.price, pool.book.ledgers.map Ledger.balance, total⟩ } := by
  simp only [freeze, EStateM.bind_eq_ok, readBook_eq_ok, EStateM.lift_eq_ok, liftBook_eq_ok,
    record_eq_ok, EStateM.modify_eq_ok] at frozen
  obtain ⟨_, _, ⟨rfl, rfl⟩, total, _, ⟨known, rfl⟩, _, _, rfl, _, rfl, rfl⟩ := frozen
  exact ⟨total, known, rfl⟩

/-- The way out of a frozen pool goes through exactly when the position's share is known, the
position can be removed and both parts of the share can be paid.
-/
theorem emergencyWithdraw_eq_ok {outcome : Outcome}
    : emergencyWithdraw account pool = .ok outcome pool'
      ↔ ∃ snapshot position netValue amounts removed basePaid quotePaid,
          pool.book.snapshot = some snapshot ∧ pool.book.position? account = some position
            ∧ pool.book.netValue position snapshot.price = .ok netValue
            ∧ snapshot.shareOf netValue = .ok amounts
            ∧ Book.removePosition account pool.book = .ok () removed
            ∧ Book.payOut .base amounts.base removed = .ok () basePaid
            ∧ Book.payOut .quote amounts.quote basePaid = .ok () quotePaid
            ∧ outcome = { Outcome.nothing with amounts }
            ∧ pool' = (pool.withBook quotePaid).recording (.emergencyWithdraw account amounts) := by
  simp only [emergencyWithdraw, EStateM.bind_eq_ok, readBook_eq_ok]
  constructor
  · rintro ⟨_, _, ⟨rfl, rfl⟩, withdrawn⟩
    cases frozen : pool.book.snapshot with
    | none =>
        simp only [frozen] at withdrawn
        exact (EStateM.throw_eq_ok.mp withdrawn).elim
    | some snapshot =>
        cases found : pool.book.position? account with
        | none =>
            simp only [frozen, found] at withdrawn
            exact (EStateM.throw_eq_ok.mp withdrawn).elim
        | some position =>
            simp only [frozen, found, EStateM.bind_eq_ok, EStateM.lift_eq_ok,
              EStateM.liftMath_eq_ok, liftBook_eq_ok, record_eq_ok, EStateM.pure_eq_ok] at withdrawn
            obtain ⟨netValue, _, ⟨worth, rfl⟩, withdrawn⟩ := withdrawn
            obtain ⟨amounts, _, ⟨share, rfl⟩, withdrawn⟩ := withdrawn
            obtain ⟨_, _, ⟨removed, removes, rfl⟩, withdrawn⟩ := withdrawn
            obtain ⟨_, _, ⟨basePaid, paysBase, rfl⟩, withdrawn⟩ := withdrawn
            obtain ⟨_, _, ⟨quotePaid, paysQuote, rfl⟩, withdrawn⟩ := withdrawn
            obtain ⟨_, _, rfl, rfl, rfl⟩ := withdrawn
            exact ⟨snapshot, position, netValue, amounts, removed, basePaid, quotePaid, rfl, rfl,
              worth, share, removes, paysBase, paysQuote, rfl, rfl⟩
  · rintro ⟨snapshot, position, netValue, amounts, removed, basePaid, quotePaid, frozen, found,
      worth, share, removes, paysBase, paysQuote, rfl, rfl⟩
    refine ⟨_, _, ⟨rfl, rfl⟩, ?_⟩
    simp only [frozen, found, EStateM.bind_eq_ok, EStateM.lift_eq_ok, EStateM.liftMath_eq_ok,
      liftBook_eq_ok, record_eq_ok, EStateM.pure_eq_ok]
    exact ⟨netValue, _, ⟨worth, rfl⟩, amounts, _, ⟨share, rfl⟩, (), _, ⟨removed, removes, rfl⟩, (),
      _, ⟨basePaid, paysBase, rfl⟩, (), _, ⟨quotePaid, paysQuote, rfl⟩, (), _, rfl, rfl, rfl⟩

/-- The operation of a reinit reports the caller's slot and leaves the pool alone. -/
theorem reinit_ok [Venue V] {outcome : Outcome}
    (operated : operate terms .reinit pool = .ok outcome pool')
    : outcome = { Outcome.nothing with heapIndex := pool.book.heapIndexOf terms.caller }
      ∧ pool' = pool := by
  simp only [operate, operateBy, EStateM.bind_eq_ok, readBook_eq_ok, EStateM.pure_eq_ok] at operated
  obtain ⟨_, _, ⟨rfl, rfl⟩, rfl, rfl⟩ := operated
  exact ⟨rfl, rfl⟩

end Operations

end Pool

end MarginLending
