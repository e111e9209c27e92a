import MarginLending.Proofs.Pool.Unchecked

/-!
No unchecked computation leaves its range. In front of a simulated venue what a call computes
without a check neither stops the program nor wraps in a reachable pool, because what it needs was
established on the way to it: by tokens that were booked with a check, by a fee that is no more than
what it is taken of, by a debit that takes collateral away and adds none, and by the range of
decimals.
-/

namespace MarginLending

-----
-- What a simulated venue asks for is in the range of decimals
-----

/-- Rounded up to a whole number, a decimal stays within its digits. -/
theorem Decimal.toNat_ceil_lt (d : Decimal) : d.ceil.toNat < mantissaLimit := by
  have within : d.mantissa ≤ d.digits := by
    have size := d.natAbs_mantissa
    omega
  have positive : 0 < (Nat.pow 10 d.scale : Int) := by exact_mod_cast Nat.pow_pos (by decide)
  have floor : -(d.digits : Int) ≤ -d.mantissa / Nat.pow 10 d.scale := by
    refine (Int.le_ediv_iff_mul_le positive).mpr ?_
    nlinarith
  have digits := d.digits_lt
  unfold ceil
  omega

/-- What must go in for an output is less than a decimal can hold. -/
theorem SimulatedVenue.quoteIn_lt {venue : SimulatedVenue} {tokenIn : Asset}
    {amountOut needed : Nat} (quoted : venue.quoteIn tokenIn amountOut = .ok needed)
    : needed < mantissaLimit := by
  simp only [quoteIn] at quoted
  obtain ⟨_, _, quoted⟩ := Except.bind_eq_ok.mp quoted
  obtain ⟨_, _, quoted⟩ := Except.bind_eq_ok.mp quoted
  split at quoted
  · exact (Except.throw_eq_ok.mp quoted).elim
  · simp only [Except.bind_eq_ok] at quoted
    obtain ⟨_, _, exact, _, rounded⟩ := quoted
    unfold asAmount at rounded
    split at rounded
    · cases rounded
    · cases rounded
      exact exact.toNat_ceil_lt

/-- A simulated venue takes less for what it is asked to give out than a decimal can hold. -/
theorem SimulatedVenue.amountIn_lt {venue : SimulatedVenue} {order : SwapOrder} {fill : Fill}
    (bought : order.exactInput = false) (filled : (Venue.swap venue order).1 = .ok fill)
    : fill.amountIn < mantissaLimit := by
  change (venue.swap order).1 = .ok fill at filled
  unfold swap at filled
  split at filled
  · cases filled
  · split at filled
    · next offered offers =>
        obtain rfl := Except.ok.inj filled
        simp only [offer, bought, Bool.false_eq_true, if_false] at offers
        obtain ⟨needed, quoted, offers⟩ := Except.bind_eq_ok.mp offers
        split at offers
        · cases offers
        · cases offers
          exact quoteIn_lt quoted
    all_goals cases filled

namespace Pool

-----
-- Trades
-----

section Trades

variable {V : Type} [Venue V] {terms : Terms} {account : AccountId} {bought : Asset} {amount : Nat}
  {limitPrice : Q96} {pool pool' : Pool V} {outcome : Outcome} {debt : Nat} {fill : Fill}

/-- What a settled trade takes was in the pool, and what it gives fits into it. -/
theorem SettlesTrade.fits
    (settles : SettlesTrade terms account amount limitPrice pool bought debt fill)
    : fill.amountIn ≤ (pool.book.ledger bought.other).balance
      ∧ (pool.book.ledger bought).balance + fill.amountOut < amountLimit := by
  obtain ⟨_, limit, _, settled, _, swapped, settles⟩ := settles
  obtain ⟨_, venue, rfl⟩ := swap_ok swapped
  cases bought <;> exact Book.settle_fits settles

theorem SettlesTrade.amountOut_lt
    (settles : SettlesTrade terms account amount limitPrice pool bought debt fill)
    : fill.amountOut < amountLimit :=
  Nat.lt_of_le_of_lt (Nat.le_add_left ..) settles.fits.2

/-- A settled long gives out exactly what was asked for, and takes no more than an amount. -/
theorem SettlesTrade.bounds_long
    (settles : SettlesTrade terms account amount limitPrice pool .base debt fill)
    : fill.amountOut = amount ∧ fill.amountIn < amountLimit := by
  obtain ⟨_, limit, _, _, scaled, swapped, _⟩ := settles
  have honoured := (swap_ok swapped).1
  exact ⟨SwapOrder.amountOut_of_buyWith honoured,
    Nat.lt_of_le_of_lt (SwapOrder.amountIn_le_of_buyWith honoured) (Q96.scale_lt scaled)⟩

/-- A simulated venue asks less than a decimal can hold for a long. -/
theorem SettlesTrade.amountIn_lt {pool : Pool SimulatedVenue}
    (settles : SettlesTrade terms account amount limitPrice pool .base debt fill)
    : fill.amountIn < mantissaLimit := by
  obtain ⟨_, limit, _, _, _, swapped, _⟩ := settles
  exact SimulatedVenue.amountIn_lt rfl (swap_filled swapped).1

/-- A short that goes through has settled its order, and reports both sides of the fill. -/
theorem settlesTrade_short (traded : short terms account amount limitPrice pool = .ok outcome pool')
    : ∃ debt fill, SettlesTrade terms account amount limitPrice pool .quote debt fill
        ∧ outcome.amounts = ⟨fill.amountIn, fill.amountOut⟩ := by
  obtain ⟨debt, limit, fill, _, _, settled, _, _, _, _, _, owed, scaled, filled, honoured,
    traded⟩ := short_eq traded
  obtain ⟨_, settles, _, _, _, _, _, _, _, amounts, _⟩ := traded
  refine ⟨debt, fill, ⟨owed, limit, _, settled, scaled, swap_of_filled filled honoured, settles⟩,
    ?_⟩
  rw [amounts, SwapOrder.amountIn_of_sell honoured]

/-- So has a long. -/
theorem settlesTrade_long (traded : long terms account amount limitPrice pool = .ok outcome pool')
    : ∃ debt fill, SettlesTrade terms account amount limitPrice pool .base debt fill
        ∧ outcome.amounts = ⟨fill.amountOut, fill.amountIn⟩ := by
  obtain ⟨debt, limit, fill, _, _, _, settled, _, _, _, _, _, owed, scaled, filled, honoured,
    traded⟩ := long_eq traded
  obtain ⟨_, settles, _, _, _, _, _, _, _, amounts, _⟩ := traded
  refine ⟨debt, fill, ⟨owed, limit, _, settled, scaled, swap_of_filled filled honoured, settles⟩,
    ?_⟩
  rw [amounts, SwapOrder.amountOut_of_buyWith honoured]

/-- Every computation of a trade in front of a simulated venue is in range, since the fee is no more
than what it is charged on, and that no more than the fill.
-/
theorem TradeComputes.inRange {pool : Pool SimulatedVenue} {computation : Unchecked}
    (valid : pool.book.parameters.violation? = none)
    (computes : TradeComputes terms account amount limitPrice pool bought computation)
    : computation.InRange := by
  cases computes with
  | received settles charges =>
      have fee := Parameters.swapFeeOn_le valid charges
      exact ⟨Nat.le_trans fee (Nat.sub_le ..), settles.amountOut_lt⟩
  | opened settles opens => exact ⟨Nat.le_of_lt opens, settles.bounds_long.1 ▸ settles.amountOut_lt⟩
  | charged settles _ shares =>
      obtain ⟨_, rfl, _⟩ := mulDiv_eq_ok_iff.mp shares
      exact Nat.lt_of_le_of_lt (costShare_le ..) settles.bounds_long.2
  | @spent debt _ fee fill settles share charges =>
      have fee := Parameters.swapFeeOn_le valid charges
      rw [chargedCost_ok settles.bounds_long.2 share] at fee
      have share := costShare_le fill.amountIn amount debt
      have cost := settles.amountIn_lt
      have room : 2 * mantissaLimit ≤ amountLimit := by decide
      change fill.amountIn + _ < amountLimit
      omega

end Trades

-----
-- Deposits
-----

section Deposits

variable {V : Type} {terms : Terms} {account : AccountId} {asset : Asset} {amount : Nat}
  {pool middle : Pool V}

/-- A deposit comes on top of the balance of its asset. -/
theorem balance_bookDeposit (booked : bookDeposit terms asset amount account pool = .ok () middle)
    (side : Asset)
    : (middle.book.ledger side).balance
      = (pool.book.ledger side).balance + (amountsIn asset amount).get side := by
  obtain ⟨paid, credited, payload, pays, credits, rfl⟩ := bookDeposit_ok booked
  have entered : ((paid.ledger side).balance : Int)
      = (pool.book.ledger side).balance + (amountsIn asset amount).get side :=
    Book.nets_payIn asset amount pays side
  have seated := congrArg Ledger.balance ((credited.reranked_reseat account).ledger side)
  rw [book_recording, book_withBook, seated, Book.balance_credit credits]
  omega

/-- The amounts that a deposit reports with the trade behind it add up, because the tokens of both
entered the balance of one asset, and those that the trade took left that of the other.
-/
theorem reported_inRange [Venue V] (funded : pool.book.Funded) {leveraged : Nat} {limitPrice : Q96}
    {finish : Pool V} {outcome : Outcome}
    (booked : bookDeposit terms asset amount account pool = .ok () middle)
    (traded : tradeFor terms account leveraged limitPrice asset middle = .ok outcome finish)
    (side : Asset)
    : (amountsIn asset amount).get side + outcome.amounts.get side < amountLimit := by
  have sides
      : ∃ debt fill, SettlesTrade terms account leveraged limitPrice middle asset debt fill
          ∧ outcome.amounts.get asset = fill.amountOut
          ∧ outcome.amounts.get asset.other = fill.amountIn := by
    cases asset with
    | base =>
        obtain ⟨debt, fill, settles, amounts⟩ := settlesTrade_long traded
        exact ⟨debt, fill, settles, by rw [amounts]; rfl, by rw [amounts]; rfl⟩
    | quote =>
        obtain ⟨debt, fill, settles, amounts⟩ := settlesTrade_short traded
        exact ⟨debt, fill, settles, by rw [amounts]; rfl, by rw [amounts]; rfl⟩
  obtain ⟨_, fill, settles, gave, took⟩ := sides
  obtain ⟨wasThere, fitsIn⟩ := settles.fits
  have entered := balance_bookDeposit booked
  rcases asset.eq_or_eq_other side with rfl | rfl
  · rw [entered] at fitsIn
    omega
  · have small := funded asset.other
    rw [entered, get_amountsIn, if_neg asset.other_ne.symm] at wasThere
    rw [get_amountsIn, if_neg asset.other_ne.symm]
    omega

end Deposits

-----
-- Withdrawals
-----

end Pool

namespace Book

section Withdrawals

variable {book book' : Book} {account : AccountId} {asset : Asset} {amount real : Nat}

theorem collateralOf_lt (known : book.collateralOf account asset = .ok amount)
    : amount < amountLimit := by
  unfold collateralOf at known
  split at known
  · exact Ledger.netCollateral_lt known
  · cases known
    decide

/-- Discounted collateral that can be read is an amount, since no coefficient is less than one. -/
theorem Indexed.collateralAmount_lt (indexed : book.Indexed)
    (known : book.collateralOf account asset = .ok amount)
    : ((book.positionOf account).holding asset).collateralAmount < amountLimit := by
  unfold collateralOf at known
  unfold positionOf
  cases found : book.position? account with
  | none => cases asset <;> decide
  | some position =>
      rw [found] at known
      obtain ⟨whole, _, holds, _⟩ := Ledger.netCollateral_eq_ok.mp known
      have scaled := Ledger.realCollateral_eq_ok.mp holds
      have grown :=
        Nat.mul_le_mul_right (position.holding asset).collateralAmount (indexed asset).collateral
      have less : (position.holding asset).collateralAmount ≤ whole := by
        refine Q96.le_of_mul_unit_lt (Nat.lt_of_le_of_lt ?_ (Q96.scale_ok scaled).2)
        rwa [Nat.mul_comm]
      exact Nat.lt_of_le_of_lt less (Q96.scale_lt scaled)

/-- A debit adds no collateral in its asset. -/
theorem collateralAmount_debit_le (debited : debit account asset real book = .ok () book')
    : ((book'.positionOf account).holding asset).collateralAmount
      ≤ ((book.positionOf account).holding asset).collateralAmount := by
  rcases holdings_of_debit debited with ⟨_, rfl⟩ | ⟨_, _, after, _, held, _, takes, _⟩
  · exact Nat.le_refl _
  · rw [held, Holding.collateralAmount_normalized]
    generalize (book.positionOf account).holding asset = before at takes ⊢
    cases takes with
    | partly => exact Nat.sub_le ..
    | wholly => exact Nat.zero_le _
    | adds => exact Nat.zero_le _

/-- Paying tokens out and ranking the account anew leaves the account what it held. -/
theorem undisturbed_of_payOut_reseat (paid : payOut asset amount book = .ok () book')
    : book.Undisturbed account (book'.reseat account) := by
  obtain ⟨_, rfl⟩ := payOut_ok paid
  exact undisturbed_of_holdings ((reranked_reseat ..).holdings account)

end Withdrawals

end Book

namespace Pool

section Withdrawals

variable {V : Type} {terms : Terms} {account : AccountId} {asset : Asset} {amount : Nat}
  {pool : Pool V}

theorem discountedCollateralOf_eq (book : Book) (account : AccountId) (asset : Asset)
    : discountedCollateralOf book account asset
      = ((book.positionOf account).holding asset).collateralAmount := by
  unfold discountedCollateralOf Book.positionOf
  cases book.position? account with
  | none => cases asset <;> rfl
  | some position => rfl

/-- Every computation of a withdrawal is in range: it takes no more than there is. -/
theorem WithdrawComputes.inRange {computation : Unchecked} (indexed : pool.book.Indexed)
    (computes : WithdrawComputes terms asset amount pool computation)
    : computation.InRange := by
  cases computes with
  | remaining known within asked =>
      refine ⟨?_, Book.collateralOf_lt known⟩
      grind
  | @taken available real debited paid known _ _ debits pays =>
      have same : debited.Undisturbed terms.caller (paid.reseat terms.caller) :=
        Book.undisturbed_of_payOut_reseat pays
      change _ ≤ _ ∧ _ < _
      rw [discountedCollateralOf_eq, discountedCollateralOf_eq, same.holding]
      exact ⟨Book.collateralAmount_debit_le debits, indexed.collateralAmount_lt known⟩

end Withdrawals

-----
-- Margin calls
-----

section MarginCalls

variable {V : Type} [Venue V] {terms : Terms} {account : AccountId} {pool : Pool V}

/-- Every computation of a margin call is in range: it takes the lesser amount from the greater one.
-/
theorem MarginCallComputes.inRange {computation : Unchecked}
    (computes : MarginCallComputes terms account pool computation)
    : computation.InRange := by
  cases computes with
  | surplus seizes covers =>
      obtain ⟨_, _, _, _, _, _, _, _, sold⟩ := seizes
      exact ⟨covers, (gap_sellSeized sold).2.2.2.2 _ rfl⟩
  | shortfall seizes falls =>
      obtain ⟨_, _, _, _, _, _, owed, _⟩ := seizes
      exact ⟨Nat.le_of_not_le falls, Ledger.realDebt_lt owed⟩
  | @unrelieved debtAsset seized debt _ proceeds _ seizes _ =>
      obtain ⟨_, _, _, _, _, holds, _, _, _⟩ := seizes
      refine ⟨Nat.min_le_left .., ?_⟩
      have kept := (recovery_balance proceeds debt seized).2.2
      have small := Ledger.netCollateral_lt holds
      rw [kept]
      split
      · decide
      · exact small

end MarginCalls

-----
-- Calls
-----

section Calls

variable {terms : Terms} {pool : Pool SimulatedVenue} {computation : Unchecked}

theorem OperationComputes.inRange (sturdy : pool.book.Sturdy none) (funded : pool.book.Funded)
    (computes : OperationComputes terms pool computation)
    : computation.InRange := by
  cases computes with
  | trade computes => exact computes.inRange sturdy.valid
  | tradeBehind booked computes => exact computes.inRange (sturdy_bookDeposit sturdy booked).valid
  | reported booked traded side => exact reported_inRange funded booked traded side
  | withdrawal computes => exact computes.inRange sturdy.indexed

theorem Computes.inRange (reachable : Reachable pool) (computes : Computes pool computation)
    : computation.InRange := by
  cases computes with
  | marginCall _ _ computes => exact computes.inRange
  | operation updated computes =>
      obtain ⟨_, updates⟩ := bringUpToDate_ok updated
      exact computes.inRange (updates.sturdy (sturdy_openJournal reachable.sturdy))
        (updates.funded reachable.funded)

/-- Nothing that a call on a reachable pool computes without a check is out of range in front of a
simulated venue, in its operation or in a margin call, whether the call goes through or fails: every
operand is an amount, every difference takes no more than there is, and the exact result comes out,
of words that wrap around as of those that stop the program. Margin calls, and the operation on the
pool brought up to date, do the same however they would compute what is out of range.
-/
theorem unchecked_exact (reachable : Reachable pool)
    : (∀ computation, Computes pool computation →
        computation.InRange ∧ computation.wrapped = computation.exact
          ∧ computation.carryOut = .ok computation.exact)
      ∧ ∀ compute, Unchecked.IsRight compute → ∀ terms,
        (∀ account (middle : Pool SimulatedVenue),
          marginCallBy compute terms account middle = marginCall terms account middle)
        ∧ ∀ start call,
          bringUpToDate terms (pool.withBook pool.book.openJournal) = .ok false start →
          operateBy compute terms call start = operate terms call start := by
  constructor
  · intro computation computes
    have inRange := computes.inRange reachable
    exact ⟨inRange, inRange.wrapped_eq, inRange.carryOut_eq⟩
  · intro compute right terms
    constructor
    · exact fun account middle => marginCallBy_eq right fun _ computes => computes.inRange
    · intro start call updated
      exact operateBy_eq right
        (fun _ computes => Computes.inRange reachable (.operation updated computes)) call

/-- Two lenders in a pool that charges a thousandth of what is traded. -/
def feeTrades : List (Command SimulatedVenue) :=
  [.setParameters ⟨1⟩ .default,
    .executeCall ⟨10⟩ (.depositQuote 100000 0 .zero none),
    .executeCall ⟨20⟩ (.depositBase 10000 0 .zero none)]

/-- A long of 50000 base adds a fee of 50 to its cost, and comes out as it would without a limit. -/
theorem unchecked_exact_long
    : let pool := sample.after feeTrades
      let terms : Terms := ⟨⟨20⟩, .one, 0, ⟨0⟩⟩
      Computes pool (.sum 50000 50)
        ∧ (Unchecked.sum 50000 50).InRange ∧ (Unchecked.sum 50000 50).wrapped = 50050
        ∧ ∃ start, bringUpToDate terms (pool.withBook pool.book.openJournal) = .ok false start
          ∧ operateBy (fun computation => .ok computation.exact) terms
              (.long 50000 (.ofNat 10)) start
            = operate terms (.long 50000 (.ofNat 10)) start := by
  intro pool terms
  let start := endState (bringUpToDate terms (pool.withBook pool.book.openJournal))
  let order := tradeOrder .base 50000 500000 0
  let swapped := endState (swap order start)
  have updated : bringUpToDate terms (pool.withBook pool.book.openJournal) = .ok false start := by
    decide +kernel
  have settles : SettlesTrade terms ⟨20⟩ 50000 (.ofNat 10) start .base 0 ⟨50000, 50000⟩ :=
    ⟨by decide +kernel, 500000, swapped, endState (Book.settle order ⟨50000, 50000⟩ swapped.book),
      by decide +kernel, by decide +kernel, by decide +kernel⟩
  have share : chargedCost 50000 50000 0 = .ok 50000 := by decide +kernel
  have charges : start.book.parameters.swapFeeOn 50000 = .ok 50 := by decide +kernel
  have computes : Computes pool (.sum 50000 50) :=
    .operation updated (.trade (.spent settles share charges))
  obtain ⟨inRange, wrapped, _⟩ := (unchecked_exact (reachable_sample.after feeTrades)).1 _ computes
  have same := ((unchecked_exact (reachable_sample.after feeTrades)).2
    (fun computation => .ok computation.exact) (fun _ _ => rfl) terms).2 start
  exact ⟨computes, inRange, wrapped, start, updated, same _ updated⟩

end Calls

end Pool

end MarginLending
