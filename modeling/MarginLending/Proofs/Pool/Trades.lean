import MarginLending.Proofs.Pool.Bookings
import MarginLending.Proofs.Pool.Backing
import MarginLending.Proofs.Pool.Recording
import MarginLending.Proofs.Pool.StoredLeverage

/-!
Shorts and longs, whatever the position was before and whatever the venue fills. Buying against a
debt closes it first, and the fee is charged on what is traded beyond that. The account gains no
more than the fill less the fee, but for a unit of each asset, and it ends up in the heap of the
kind that it then is.
-/

namespace MarginLending

/-- The trade that a call asks for: the asset that it buys, and how much base it trades. -/
def Call.trade? : Call → Option (Asset × Nat)
  | .short amount _ => some (.quote, amount)
  | .long amount _ => some (.base, amount)
  | .depositQuote _ shortAmount _ _ => if shortAmount = 0 then none else some (.quote, shortAmount)
  | .depositBase _ longAmount _ _ => if longAmount = 0 then none else some (.base, longAmount)
  | _ => none

/-- A fill of an order to buy takes no more than the limit. -/
theorem SwapOrder.amountIn_le_of_buyWith {tokenIn : Asset} {amountOut maximumIn route : Nat}
    {fill : Fill}
    (honoured : (SwapOrder.buyWith tokenIn amountOut maximumIn route).isHonouredBy fill)
    : fill.amountIn ≤ maximumIn := by
  simp only [isHonouredBy, buyWith, Bool.false_eq_true, if_false] at honoured
  exact (of_decide_eq_true honoured).2

/-- Who asks for a trade may not be the fee holder. -/
theorem Call.not_allowed_of_trade? {call : Call} {trade : Asset × Nat}
    (trades : call.trade? = some trade)
    : call.allowedForFeeHolder = false := by
  cases call with
  | depositBase | depositQuote =>
      simp only [trade?] at trades
      split at trades
      · cases trades
      · next opens => simpa [allowedForFeeHolder] using opens
  | short | long => rfl
  | _ => cases trades

namespace Book

/-- In the end an account sits in the heap of the asset that its kind owes, or in none. -/
theorem Consistent.mem_iff_kindOf {book : Book} (consistent : book.Consistent none)
    (account : AccountId) (asset : Asset)
    : account ∈ (book.heap asset).accounts ↔ book.kindOf account = .ofDebt asset := by
  rw [← PositionKind.debtAsset?_eq_some_iff]
  unfold kindOf
  cases found : book.position? account with
  | none =>
      have absent : account ∉ (book.heap asset).accounts :=
        consistent.seated.not_mem_of_unleveraged nofun (fun position other => by
          rw [found] at other
          cases other) asset
      exact ⟨fun member => absurd member absent, nofun⟩
  | some position => exact consistent.seated.mem_iff found

end Book

namespace Pool

/-- The order of a trade: a short sells base for quote, a long buys base with quote. -/
def tradeOrder (bought : Asset) (amount limit route : Nat) : SwapOrder :=
  match bought with
  | .quote => .sell .base amount limit route
  | .base => .buyWith .quote amount limit route

/-- The part of the quote of a trade that pays the fee: a short's proceeds beyond the debt that they
repay, and a long's cost for the base beyond the debt, rounded down.
-/
def chargedQuote (bought : Asset) (amount debt : Nat) (fill : Fill) : Nat :=
  match bought with
  | .quote => fill.amountOut - debt
  | .base => fill.amountIn * (amount - debt) / amount

/-- What a trade buys, less the fee if that is in the same asset. -/
def netBought (bought : Asset) (fill : Fill) (fee : Nat) : Nat :=
  match bought with
  | .quote => fill.amountOut - fee
  | .base => fill.amountOut

/-- The event of a trade. -/
def tradeEvent (bought : Asset) (account : AccountId) (amount fee : Nat) (fill : Fill)
    (kindBefore kindAfter : PositionKind) : EventPayload :=
  match bought with
  | .quote => .short ⟨account, amount, fill.amountOut, fee, kindBefore, kindAfter⟩
  | .base => .long ⟨account, amount, fill.amountIn, fee, kindBefore, kindAfter⟩

/-- How a trade came out for its account, between the pool that it started from and the one that it
left. The venue filled the order of the trade, and the fee was charged on what was traded beyond the
old debt. On each side the account gained no more than the fill, less the fee in quote, and a unit;
and buying no less than was owed left no debt.
-/
structure Trades [Venue V] (terms : Terms) (account : AccountId) (bought : Asset) (amount : Nat)
    (start finish : Pool V) (fill : Fill) (debt fee : Nat) : Prop where
  filled
    : ∃ limit, (Venue.swap start.venue (tradeOrder bought amount limit terms.route)).1 = .ok fill
        ∧ (tradeOrder bought amount limit terms.route).isHonouredBy fill
  owed : start.book.debtOf account bought = .ok debt
  charged
    : fee = chargedQuote bought amount debt fill * start.book.parameters.swapFee.digits
        / 10 ^ start.book.parameters.swapFee.scale
  standing
    : ∀ side, finish.book.standing account side
        ≤ start.book.standing account side
          + (if side = bought then (fill.amountOut : Int) else -fill.amountIn)
          - (if side = .quote then fee else 0) + 1
  clears
    : 0 < netBought bought fill fee → debt ≤ netBought bought fill fee →
        finish.book.discountedDebtOf account bought = 0
  recorded
    : ∃ venue, finish = ((start.withVenue venue).withBook finish.book).recording
        (tradeEvent bought account amount fee fill (start.book.kindOf account)
          (finish.book.kindOf account))

/-- The pool that the trade of a call starts from: the one that was brought up to date or, where a
deposit comes with the trade, that one with the deposit booked.
-/
inductive Enters {V : Type} (terms : Terms) (pool : Pool V) : Call → Pool V → Prop
  | short {amount : Nat} {limitPrice : Q96} : Enters terms pool (.short amount limitPrice) pool
  | long {amount : Nat} {limitPrice : Q96} : Enters terms pool (.long amount limitPrice) pool
  | depositQuote {amount shortAmount : Nat} {limitPrice : Q96} {owner : Option AccountId}
      {start : Pool V} (booked : bookDeposit terms .quote amount terms.caller pool = .ok () start)
    : Enters terms pool (.depositQuote amount shortAmount limitPrice owner) start
  | depositBase {amount longAmount : Nat} {limitPrice : Q96} {owner : Option AccountId}
      {start : Pool V} (booked : bookDeposit terms .base amount terms.caller pool = .ok () start)
    : Enters terms pool (.depositBase amount longAmount limitPrice owner) start

section Operations

variable {V : Type} {pool pool' : Pool V} {terms : Terms} {account : AccountId} {outcome : Outcome}
  {limitPrice : Q96} {amount : Nat}

theorem Enters.rises {call : Call} {start : Pool V} (enters : Enters terms pool call start)
    : pool.book.Rises start.book := by
  have ofDeposit : ∀ {asset amount},
      bookDeposit terms asset amount terms.caller pool = .ok () start →
      pool.book.Rises start.book := by
    intro asset amount booked
    have pays : pool.book.Deals terms.caller terms.caller none start.book :=
      deals_bookDeposit booked
    exact pays.deeds.changes.rises
  cases enters with
  | short => exact .refl _
  | long => exact .refl _
  | depositQuote booked => exact ofDeposit booked
  | depositBase booked => exact ofDeposit booked

variable [Venue V]

/-- What is not the fee holder's stays where it is when the fee is paid. -/
theorem standsAlike_fee {book book' : Book} {fee : Nat} (notFee : account ≠ .feeHolder)
    (pays : Book.credit .feeHolder .quote fee book = .ok () book')
    : book.StandsAlike account book' := by
  have kept : book.Isolates (fun other => other = .feeHolder) book' := Book.isolates_credit pays rfl
  exact kept.standsAlike notFee

theorem trades_short (notFee : account ≠ .feeHolder)
    (traded : short terms account amount limitPrice pool = .ok outcome pool')
    : ∃ fill debt fee, Trades terms account .quote amount pool pool' fill debt fee := by
  obtain ⟨debt, limit, fill, fee, venue, settled, credited, paid, debited, dropped, book', owed, _,
    filled, honoured, _, settles, charges, within, credits, pays, debits, drops, refreshes, _,
    rfl⟩ := short_eq traded
  have moved : pool.book.Isolates (fun _ => False) settled := Book.isolates_settle settles
  have amountIn := SwapOrder.amountIn_of_sell honoured
  have waits := standsAlike_fee notFee pays
  have finishes := Book.standsAlike_finish drops refreshes
  have moves := Book.standing_of_trade (moved.standsAlike id) credits waits debits finishes
  refine ⟨fill, debt, fee, ⟨limit, filled, honoured⟩, owed, (fractionOf_ok charges).2, ?_, ?_,
    venue, rfl⟩
  · intro side
    cases side with
    | base =>
        have sold := moves.2
        simp only [book_recording, book_withBook, Asset.other, reduceCtorEq, if_false] at sold ⊢
        omega
    | quote =>
        have gained := moves.1
        simp only [book_recording, book_withBook, if_true] at gained ⊢
        omega
  · intro some covers
    rw [← moved.debtOf id] at owed
    exact Book.unowed_of_trade owed (Nat.ne_of_gt some) covers credits waits debits finishes

/-- A share of a cost is no more than the cost. -/
theorem costShare_le (cost amount debt : Nat) : cost * (amount - debt) / amount ≤ cost := by
  refine Nat.div_le_of_le_mul ?_
  rw [Nat.mul_comm]
  exact Nat.mul_le_mul_right cost (Nat.sub_le ..)

/-- The charged part of a cost is its share of the base beyond the debt, rounded down. -/
theorem chargedCost_ok {cost debt charged : Nat} (small : cost < amountLimit)
    (share : chargedCost cost amount debt = .ok charged)
    : charged = cost * (amount - debt) / amount := by
  unfold chargedCost chargedCostBy at share
  split at share
  · simp only [Except.bind_eq_ok, Except.liftMath_eq_ok,
      Unchecked.carryOut_difference_eq_ok] at share
    obtain ⟨_, ⟨rfl, _⟩, _, quotient, found⟩ := share
    obtain ⟨_, rfl, _⟩ := mulDiv_eq_ok_iff.mp quotient
    rw [← Except.ok.inj found]
    exact Nat.mod_eq_of_lt (Nat.lt_of_le_of_lt (costShare_le ..) small)
  · next closes =>
      rw [← Except.pure_eq_ok.mp share, Nat.sub_eq_zero_of_le (Nat.not_lt.mp closes), Nat.mul_zero,
        Nat.zero_div]

theorem trades_long (notFee : account ≠ .feeHolder)
    (traded : long terms account amount limitPrice pool = .ok outcome pool')
    : ∃ fill debt fee, Trades terms account .base amount pool pool' fill debt fee := by
  obtain ⟨debt, limit, fill, charged, fee, venue, settled, credited, debited, paid, dropped, book',
    owed, maximum, filled, honoured, _, settles, share, charges, credits, debits, pays, drops,
    refreshes, _, rfl⟩ := long_eq traded
  have moved : pool.book.Isolates (fun _ => False) settled := Book.isolates_settle settles
  have amountOut := SwapOrder.amountOut_of_buyWith honoured
  have small : fill.amountIn < amountLimit :=
    Nat.lt_of_le_of_lt (SwapOrder.amountIn_le_of_buyWith honoured) (Q96.scale_lt maximum)
  obtain rfl := chargedCost_ok small share
  have waits : credited.StandsAlike account credited := ⟨fun _ => rfl, fun _ => rfl⟩
  have finishes := (standsAlike_fee notFee pays).trans (Book.standsAlike_finish drops refreshes)
  have moves := Book.standing_of_trade (moved.standsAlike id) credits waits debits finishes
  refine ⟨fill, debt, fee, ⟨limit, filled, honoured⟩, owed, (fractionOf_ok charges).2, ?_, ?_,
    venue, rfl⟩
  · intro side
    cases side with
    | base =>
        have gained := moves.1
        simp only [book_recording, book_withBook, if_true, reduceCtorEq, if_false] at gained ⊢
        omega
    | quote =>
        have lost := moves.2
        simp only [book_recording, book_withBook, Asset.other, if_true, reduceCtorEq, if_false]
          at lost ⊢
        omega
  · intro some covers
    simp only [netBought, amountOut] at some covers
    rw [← moved.debtOf id] at owed
    exact Book.unowed_of_trade owed (Nat.ne_of_gt some) covers credits waits debits finishes

/-- Each call that asks for a trade trades from the pool that its trade starts from. -/
theorem trades_operate {call : Call} {bought : Asset} (notFee : terms.caller ≠ .feeHolder)
    (trades : call.trade? = some (bought, amount))
    (operated : operate terms call pool = .ok outcome pool')
    : ∃ start fill debt fee, Enters terms pool call start
        ∧ Trades terms terms.caller bought amount start pool' fill debt fee := by
  cases call with
  | short sold limitPrice =>
      cases trades
      obtain ⟨fill, debt, fee, result⟩ := trades_short notFee operated
      exact ⟨pool, fill, debt, fee, .short, result⟩
  | long wanted limitPrice =>
      cases trades
      obtain ⟨fill, debt, fee, result⟩ := trades_long notFee operated
      exact ⟨pool, fill, debt, fee, .long, result⟩
  | depositQuote paid shortAmount limitPrice owner =>
      obtain ⟨account, start, owned, booked, ⟨rfl, _⟩ | ⟨opens, trade, traded⟩⟩ :=
        deposit_ok operated
      · cases trades
      · obtain rfl := depositOwner_ok owned opens
        rw [Call.trade?, if_neg opens] at trades
        cases trades
        obtain ⟨fill, debt, fee, result⟩ := trades_short notFee traded
        exact ⟨start, fill, debt, fee, .depositQuote booked, result⟩
  | depositBase paid longAmount limitPrice owner =>
      obtain ⟨account, start, owned, booked, ⟨rfl, _⟩ | ⟨opens, trade, traded⟩⟩ :=
        deposit_ok operated
      · cases trades
      · obtain rfl := depositOwner_ok owned opens
        rw [Call.trade?, if_neg opens] at trades
        cases trades
        obtain ⟨fill, debt, fee, result⟩ := trades_long notFee traded
        exact ⟨start, fill, debt, fee, .depositBase booked, result⟩
  | _ => cases trades

end Operations

section Commands

variable {V : Type} [Venue V] {pool pool' : Pool V} {caller : AccountId} {call : Call}
  {bought : Asset} {amount : Nat}

/-- A trade went through: what the pool reads of the account before and after it is where the
account stands, and in the end the account sits in the heap of its kind and in no other one.
-/
def TradesThrough (call : Call) (bought : Asset) (amount : Nat) (pool' : Pool V) (terms : Terms)
    (middle : Pool V) : Prop :=
  ∃ start acted fill debt fee, Enters terms middle call start
    ∧ Trades terms terms.caller bought amount start acted fill debt fee ∧ pool' = acted.commit
    ∧ (∀ side, start.book.ReadsStanding terms.caller side
      ∧ pool'.book.ReadsStanding terms.caller side)
    ∧ ∀ side, terms.caller ∈ (pool'.book.heap side).accounts
        ↔ pool'.book.kindOf terms.caller = .ofDebt side

/-- In a reachable pool every short, long and leveraged deposit that is committed trades through,
unless it stopped.
-/
theorem trades_charge_and_clear (reachable : Reachable pool) {route : Nat} {outcome : Outcome}
    (trades : call.trade? = some (bought, amount))
    (committed : executeRouted caller call route pool = .ok outcome pool')
    : UnlessStopped pool caller route pool' (TradesThrough call bought amount pool') := by
  have consistent := (reachable.sound_of_executeRouted committed).consistent
  have notAllowed := Call.not_allowed_of_trade? trades
  have notWayOut : ∀ unwrap, call ≠ .emergencyWithdraw unwrap := by
    rintro unwrap rfl
    cases trades
  refine (unlessStopped_executeRouted notWayOut committed).imp ?_
  rintro terms middle rfl ⟨acted, calls, allowed, updates, operated, rfl⟩
  have notFee : terms.caller ≠ .feeHolder := by
    intro isFee
    rw [allowed isFee] at notAllowed
    cases notAllowed
  obtain ⟨start, fill, debt, fee, enters, result⟩ := trades_operate notFee trades operated
  have opened : pool.book.openJournal.Indexed := reachable.indexed
  have updating : pool.book.openJournal.Changes terms.caller terms.caller middle.book :=
    updates.changes
  have atMiddle := updating.rises.indexed opened
  have atStart := enters.rises.indexed atMiddle
  have atEnd : acted.commit.book.Indexed := by
    rw [book_commit]
    exact (deeds_operate operated).changes.rises.indexed atMiddle
  exact ⟨start, acted, fill, debt, fee, enters, result, rfl,
    fun side => ⟨Book.readsStanding atStart _ side, Book.readsStanding atEnd _ side⟩,
    consistent.mem_iff_kindOf _⟩

end Commands

end Pool

deriving instance DecidableEq for SwapRecord
deriving instance DecidableEq for ScriptedVenue

namespace Pool

/-- An empty pool that charges a hundredth of what is traded, in front of a venue with prepared
fills.
-/
def charging : Pool ScriptedVenue where
  options := .default
  book :=
    .new { Parameters.testnet with swapFee := .ofDigits 1 2, quoteLimit := amountLimit - 1 } ⟨0⟩
  venue := .recording sample.venue
  pending := []
  events := []
  nextEventId := 1
  now := ⟨0⟩

theorem reachable_charging : Reachable charging :=
  have created : Pool.new .default charging.book.parameters charging.venue ⟨0⟩ = .ok charging := rfl
  .new created

/-- A long against the deposits of a lender. -/
def chargingTrades : List (Command ScriptedVenue) :=
  [.executeCall ⟨10⟩ (.depositBase 100000 0 .zero none),
    .executeCall ⟨10⟩ (.depositQuote 100000 0 .zero none),
    .executeCall ⟨20⟩ (.depositBase 10000 50000 (.ofNat 10) none)]

/-- The long owes 50500 quote for 60000 base. It sells 80000 base, which turns the position over,
and pays a hundredth of the 29500 quote beyond the debt.
-/
theorem trades_charge_and_clear_flip
    : let pool := charging.after chargingTrades
      let call := Call.short 80000 .zero
      let sold := endState (executeRouted ⟨20⟩ call 0 pool)
      call.trade? = some (.quote, 80000)
        ∧ executeRouted ⟨20⟩ call 0 pool = .ok ⟨⟨80000, 80000⟩, 1, false⟩ sold
        ∧ (∃ terms, TermsOf pool ⟨20⟩ 0 terms
          ∧ TradesThrough call .quote 80000 sold terms (pool.withBook pool.book.openJournal))
        ∧ sold.events.getLast?.map Event.payload
          = some (.short ⟨⟨20⟩, 80000, 80000, 295, .long, .short⟩)
        ∧ (pool.book.standing ⟨20⟩ .base = 60000 ∧ pool.book.standing ⟨20⟩ .quote = -50500)
        ∧ sold.book.standing ⟨20⟩ .base = -20000 ∧ sold.book.standing ⟨20⟩ .quote = 29205 := by
  intro pool call sold
  have committed : executeRouted ⟨20⟩ call 0 pool = .ok ⟨⟨80000, 80000⟩, 1, false⟩ sold := by
    decide +kernel
  have still : pool.now.since pool.book.lastAccrual = 0 := by decide +kernel
  have regular : pool.book.mode.isEmergency = false := by decide +kernel
  have traded := (trades_charge_and_clear (reachable_charging.after chargingTrades) rfl
    committed).of_still still regular
  exact ⟨rfl, committed, traded, by decide +kernel, by decide +kernel, by decide +kernel⟩

end Pool

end MarginLending
