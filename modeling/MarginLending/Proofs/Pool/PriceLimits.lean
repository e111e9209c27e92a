import MarginLending.Proofs.Pool.Limits
import MarginLending.Proofs.Pool.MarginCalls
import MarginLending.Proofs.Pool.Trades
import Mathlib.Algebra.Order.Floor.Semifield
import Mathlib.Data.Rat.Floor

/-!
Price limits against any venue. Whatever a venue answers, a fill is booked only if it sells or buys
the very amount that the order is for and keeps to its limit. The limit is the price that the caller
names or, for a liquidation, what the slippage leaves of the price that the call found, in exact
numbers and up to the unit by which the limit itself is rounded.
-/

namespace MarginLending

-----
-- Amounts at a price, and fractions of amounts, are exact ones rounded down
-----

/-- What an amount of an asset is worth in the other one at a price of base, exactly. -/
def Q96.value (price : Q96) (asset : Asset) (amount : Nat) : ℚ :=
  match asset with
  | .base => price.toRat * amount
  | .quote => amount / price.toRat

/-- The number itself. -/
def Decimal.toRat (d : Decimal) : ℚ := d.mantissa / 10 ^ d.scale

section Rounding

variable {asset : Asset} {price : Q96} {amount worth : Nat} {d kept : Decimal}

theorem Q96.value_nonneg (price : Q96) (asset : Asset) (amount : Nat)
    : 0 ≤ price.value asset amount := by
  have atLeast : 0 ≤ price.toRat := div_nonneg (Nat.cast_nonneg _) (Nat.cast_nonneg _)
  cases asset with
  | base => exact mul_nonneg atLeast (Nat.cast_nonneg _)
  | quote => exact div_nonneg (Nat.cast_nonneg _) atLeast

theorem Q96.not_isZero (some : price ≠ .zero) : ¬price.isZero :=
  fun free => some (ext_raw (eq_of_beq free))

theorem Pool.oracleValue_eq_floor (valued : oracleValue asset price amount = .ok worth)
    : worth = ⌊price.value asset amount⌋₊ := by
  cases asset with
  | base =>
      have scaled : price.scale amount = .ok worth := valued
      rw [Q96.scale_eq, Amount.ofWide_eq_ok_iff] at scaled
      have exact : price.value .base amount = (price.raw * amount : Nat) / (Q96.unit : Nat) := by
        unfold Q96.value Q96.toRat
        push_cast
        ring
      rw [exact, Nat.floor_div_eq_div]
      exact scaled.1
  | quote =>
      obtain ⟨_, quotient, inRange⟩ := Except.bind_eq_ok.mp valued
      obtain ⟨rfl, _⟩ := Amount.ofWide_eq_ok_iff.mp inRange
      have exact : price.value .quote amount = (amount * Q96.unit : Nat) / (price.raw : Nat) := by
        unfold Q96.value Q96.toRat
        push_cast
        rw [div_div_eq_mul_div]
      rw [exact, Nat.floor_div_eq_div]
      exact (mulDiv_eq_ok_iff.mp quotient).2.1

/-- No more than the rounded value is no more than the exact one. -/
theorem Pool.le_value_of_le (valued : oracleValue asset price amount = .ok worth) {paid : Nat}
    (within : paid ≤ worth)
    : paid ≤ price.value asset amount := by
  rw [oracleValue_eq_floor valued] at within
  exact (Nat.le_floor_iff (price.value_nonneg ..)).mp within

/-- No less than the rounded value is less than one below the exact one. -/
theorem Pool.value_sub_one_lt_of_le (valued : oracleValue asset price amount = .ok worth)
    {gained : Nat} (enough : worth ≤ gained)
    : price.value asset amount - 1 < gained := by
  rw [oracleValue_eq_floor valued] at enough
  exact lt_of_lt_of_le (Nat.sub_one_lt_floor _) (Nat.cast_le.mpr enough)

theorem roundEven_one (n : Nat) : roundEven n 1 = n := by
  simp [roundEven, Nat.mod_one]

theorem withSign_natAbs (n : Int) : withSign (decide (n < 0)) n.natAbs = n := by
  unfold withSign
  by_cases below : n < 0
  · rw [if_pos (decide_eq_true below)]
    omega
  · rw [if_neg (by simpa using below)]
    omega

/-- A number that has few enough digits is fitted as it is. -/
theorem Decimal.fit_exact {mantissa : Int} {scale : Nat} (small : mantissa.natAbs < mantissaLimit)
    (places : scale ≤ maxScale) (fits : fit mantissa scale = some d)
    : d.mantissa = mantissa ∧ d.scale = scale := by
  have keepsAll : excess mantissa.natAbs scale = 0 := by
    cases scale with
    | zero => rfl
    | succ scale => rw [excess, if_pos small]
  simp only [fit, keepsAll, Nat.sub_eq_zero_of_le places, Nat.max_self, Nat.pow_eq, Nat.pow_zero,
    roundEven_one, withSign_natAbs, Nat.sub_zero] at fits
  rw [if_neg fun full => Nat.ne_of_lt small full.1] at fits
  obtain ⟨sameMantissa, sameScale, _⟩ := ofParts?_eq_some_iff.mp fits
  exact ⟨sameMantissa, sameScale⟩

theorem Decimal.mantissa_neg (d : Decimal) : d.neg.mantissa = -d.mantissa := by
  unfold neg mantissa withSign
  cases d.negative <;> simp

/-- What is left of one after a fraction is exact: it has no more digits than the fraction. -/
theorem Decimal.toRat_one_sub (fraction : Parameters.isFraction d)
    (difference : Decimal.one.sub? d = some kept)
    : kept.toRat = 1 - d.toRat := by
  have notNegative : ¬d.isNegative := by simp [isNegative_of_isFraction fraction]
  have digits : d.digits ≤ 10 ^ d.scale := Parameters.digits_le fraction notNegative
  have scales : max Decimal.one.scale d.neg.scale = d.scale := Nat.zero_max _
  have own : d.scale - d.neg.scale = 0 := Nat.sub_self _
  have fits : fit ((10 ^ d.scale : Nat) - (d.digits : Int)) d.scale = some kept := by
    rw [← difference, sub?, add?, scales, own, mantissa_neg, mantissa_eq_digits notNegative]
    simp [one, mantissa, withSign, Int.sub_eq_add_neg]
  have small : 10 ^ d.scale < mantissaLimit :=
    Nat.lt_of_le_of_lt (Nat.pow_le_pow_right (by decide) d.scale_le) (by decide)
  obtain ⟨left, scale⟩ := fit_exact (by omega) d.scale_le fits
  have positive : (10 ^ d.scale : ℚ) ≠ 0 := pow_ne_zero _ (by decide)
  unfold toRat
  rw [left, scale, mantissa_eq_digits notNegative]
  push_cast
  rw [sub_div, div_self positive]

theorem fractionOf_eq_floor (taken : fractionOf amount d = .ok worth)
    : worth = ⌊d.toRat * amount⌋₊ := by
  obtain ⟨notNegative, rfl⟩ := fractionOf_ok taken
  have exact : d.toRat * amount = (amount * d.digits : Nat) / (10 ^ d.scale : Nat) := by
    unfold Decimal.toRat
    rw [Decimal.mantissa_eq_digits notNegative]
    push_cast
    ring
  rw [exact, Nat.floor_div_eq_div]
  rfl

/-- Under valid parameters the floor of a liquidation is what the slippage leaves of the worth. -/
theorem Parameters.liquidationFloor_eq_floor {parameters : Parameters} {floor : Nat}
    (valid : parameters.violation? = none) (floors : parameters.liquidationFloor worth = .ok floor)
    : floor = ⌊(1 - parameters.liquidationSlippage.toRat) * worth⌋₊ := by
  have fraction := isFraction_of_valid valid ("mc_slippage", parameters.liquidationSlippage)
    (by simp [fractions])
  unfold liquidationFloor at floors
  cases difference : Decimal.one.sub? parameters.liquidationSlippage with
  | none =>
      rw [difference] at floors
      cases floors
  | some kept =>
      rw [difference] at floors
      rw [← Decimal.toRat_one_sub fraction difference]
      exact fractionOf_eq_floor floors

end Rounding

-----
-- What is demanded of a fill
-----

/-- A fill of an order to sell gives no less than the limit. -/
theorem SwapOrder.le_amountOut_of_sell {tokenIn : Asset} {amountIn minimumOut route : Nat}
    {fill : Fill} (honoured : (SwapOrder.sell tokenIn amountIn minimumOut route).isHonouredBy fill)
    : minimumOut ≤ fill.amountOut := by
  simp only [isHonouredBy, sell, if_true] at honoured
  exact (of_decide_eq_true honoured).2

/-- Whether a call sends an order of its own to the venue. -/
def Call.placesOrder : Call → Bool
  | .short .. | .long .. | .closePosition _ | .sellCollateral .. => true
  | .depositBase _ leveraged _ _ | .depositQuote _ leveraged _ _ => leveraged != 0
  | _ => false

/-- What a call demands of the fill of its order, which sells an asset for the other one, at the
book where it is placed. A limit of zero is none for a debt to be bought back and for the collateral
of a short.
-/
def Call.Accepts (caller : AccountId) (book : Book) (sold : Asset) (fill : Fill) : Call → Prop
  | .short amount limitPrice | .depositQuote _ amount limitPrice _ =>
      sold = .base ∧ fill.amountIn = amount ∧ limitPrice.value .base amount - 1 < fill.amountOut
  | .long amount limitPrice | .depositBase _ amount limitPrice _ =>
      sold = .quote ∧ fill.amountOut = amount ∧ fill.amountIn ≤ limitPrice.value .base amount
  | .closePosition limitPrice =>
      ∃ collateral, book.kindOf caller = .ofDebt sold.other
        ∧ book.debtOf caller sold.other = .ok fill.amountOut
        ∧ book.collateralOf caller sold = .ok collateral ∧ fill.amountIn ≤ collateral
        ∧ (limitPrice ≠ .zero → fill.amountIn ≤ limitPrice.value sold.other fill.amountOut)
  | .sellCollateral amount limitPrice =>
      ∃ collateral, book.kindOf caller = .ofDebt sold.other
        ∧ book.collateralOf caller sold = .ok collateral ∧ fill.amountIn = min amount collateral
        ∧ (sold = .base ∨ limitPrice ≠ .zero
          → limitPrice.value sold fill.amountIn - 1 < fill.amountOut)
  | _ => False

/-- What a liquidation demands of the fill of a sale: it sells all the net collateral of a leveraged
position, for what the slippage leaves of its worth at a price at least. Worth counts in whole
units.
-/
def Book.LiquidationAccepts (book : Book) (price : Q96) (sold : Asset) (fill : Fill) : Prop :=
  ∃ account position, book.position? account = some position ∧ position.kind = .ofDebt sold.other
    ∧ book.collateralIn position sold = .ok fill.amountIn
    ∧ ⌊(1 - book.parameters.liquidationSlippage.toRat) * ⌊price.value sold fill.amountIn⌋₊⌋₊
      ≤ fill.amountOut

namespace Pool

/-- Between two pools an order to sell an asset was filled, and the balances have moved by the fill
and by nothing else.
-/
structure Exchanges {V : Type} [Venue V] (start : Pool V) (sold : Asset) (fill : Fill)
    (finish : Pool V)
    : Prop where
  answered : ∃ order, order.tokenIn = sold ∧ (Venue.swap start.venue order).1 = .ok fill
  took : (finish.book.ledger sold).balance + fill.amountIn = (start.book.ledger sold).balance
  gave
    : (finish.book.ledger sold.other).balance
      = (start.book.ledger sold.other).balance + fill.amountOut

/-- A margin call moved no token, or sold what it seized for a fill that a liquidation accepts. -/
def SellsAtFloor {V : Type} [Venue V] (price : Q96) (before after : Pool V) : Prop :=
  (∀ side, (after.book.ledger side).balance = (before.book.ledger side).balance)
    ∨ ∃ sold fill, Exchanges before sold fill after ∧ before.book.LiquidationAccepts price sold fill

/-- A pool was brought up to date on the terms of a call, by margin calls that kept to the floor. -/
def UpdatesAtFloor {V : Type} [Venue V] (terms : Terms) (pool middle : Pool V) : Prop :=
  (∃ calls, Updates terms pool calls middle)
    ∧ ∀ calls, Updates terms pool calls middle →
        ∀ call ∈ calls, SellsAtFloor terms.price call.1 call.2

/-- The pool from which a call sends its order: the one that it found or, where a deposit comes with
the order, that one with the deposit booked.
-/
def OrdersFrom {V : Type} (terms : Terms) (middle start : Pool V) : Call → Prop
  | .depositBase amount _ _ _ => bookDeposit terms .base amount terms.caller middle = .ok () start
  | .depositQuote amount _ _ _ => bookDeposit terms .quote amount terms.caller middle = .ok () start
  | _ => start = middle

/-- The operation of a call settled a fill of its order that it accepts, or sent no order because it
has none to send.
-/
def TradesAtLimit {V : Type} [Venue V] (terms : Terms) (call : Call) (middle finish : Pool V)
    : Prop :=
  if call.placesOrder then
    ∃ start sold fill, OrdersFrom terms middle start call ∧ Exchanges start sold fill finish
      ∧ call.Accepts terms.caller start.book sold fill
  else finish.venue = middle.venue

section Exchanging

variable {V : Type} [Venue V] {start finish : Pool V} {order : SwapOrder} {fill : Fill}

/-- Settling a fill moves the balances by it. -/
theorem exchanges_of_settle {opened settled : Book}
    (answered : (Venue.swap start.venue order).1 = .ok fill)
    (settles : Book.settle order fill opened = .ok () settled)
    (before : ∀ side, (opened.ledger side).balance = (start.book.ledger side).balance)
    (after : ∀ side, (finish.book.ledger side).balance = (settled.ledger side).balance)
    : Exchanges start order.tokenIn fill finish := by
  have gives := Book.balance_settle settles
  have takes := Book.nets_settle order fill settles order.tokenIn
  simp only [SwapOrder.gain, SwapOrder.tokenOut, get_amountsIn, if_pos,
    if_neg (Asset.other_ne _)] at takes
  refine ⟨⟨order, rfl, answered⟩, ?_, ?_⟩
  · rw [after, ← before]
    omega
  · rw [after, ← before, gives]

end Exchanging

section Operations

variable {V : Type} [Venue V] {pool pool' : Pool V} {terms : Terms} {account : AccountId}
  {outcome : Outcome} {amount : Nat} {limitPrice : Q96}

theorem kindOf_of_requireDebtor {book : Book} {asset : Asset}
    (debtor : requireDebtor book account = .ok asset)
    : book.kindOf account = .ofDebt asset := by
  unfold requireDebtor at debtor
  cases kind : book.kindOf account <;> rw [kind] at debtor <;> cases debtor <;> rfl

theorem exchanges_short (traded : short terms account amount limitPrice pool = .ok outcome pool')
    : ∃ fill, Exchanges pool .base fill pool' ∧ fill.amountIn = amount
        ∧ limitPrice.value .base amount - 1 < fill.amountOut := by
  obtain ⟨_, minimumOut, fill, _, _, settled, credited, paid, debited, dropped, book', _, minimum,
    filled, honoured, _, settles, _, _, credits, pays, debits, drops, refreshes, _, rfl⟩ :=
    short_eq traded
  have valued : oracleValue .base limitPrice amount = .ok minimumOut := minimum
  refine ⟨fill, exchanges_of_settle filled settles (fun _ => rfl) fun side => ?_,
    SwapOrder.amountIn_of_sell honoured,
    value_sub_one_lt_of_le valued (SwapOrder.le_amountOut_of_sell honoured)⟩
  rw [book_recording, book_withBook, Book.balance_finish drops refreshes, Book.balance_debit debits,
    Book.balance_credit pays, Book.balance_credit credits]

theorem exchanges_long (traded : long terms account amount limitPrice pool = .ok outcome pool')
    : ∃ fill, Exchanges pool .quote fill pool' ∧ fill.amountOut = amount
        ∧ fill.amountIn ≤ limitPrice.value .base amount := by
  obtain ⟨_, maximumIn, fill, _, _, _, settled, credited, debited, paid, dropped, book', _, maximum,
    filled, honoured, _, settles, _, _, credits, debits, pays, drops, refreshes, _, rfl⟩ :=
    long_eq traded
  have valued : oracleValue .base limitPrice amount = .ok maximumIn := maximum
  refine ⟨fill, exchanges_of_settle filled settles (fun _ => rfl) fun side => ?_,
    SwapOrder.amountOut_of_buyWith honoured,
    le_value_of_le valued (SwapOrder.amountIn_le_of_buyWith honoured)⟩
  rw [book_recording, book_withBook, Book.balance_finish drops refreshes, Book.balance_credit pays,
    Book.balance_debit debits, Book.balance_credit credits]

/-- Unless it is zero, the limit price values the debt that is bought back. -/
theorem closingBound_ok {debtAsset : Asset} {debt bound : Nat} (limited : limitPrice ≠ .zero)
    (bounds : closingBound debtAsset debt limitPrice = .ok bound)
    : oracleValue debtAsset limitPrice debt = .ok bound := by
  unfold closingBound at bounds
  rw [if_neg (Q96.not_isZero limited)] at bounds
  cases debtAsset <;> exact bounds

/-- The limit price values the collateral that is sold, unless it is zero and the collateral quote.
-/
theorem sellingFloor_ok {debtAsset : Asset} {sold floor : Nat}
    (limited : debtAsset = .quote ∨ limitPrice ≠ .zero)
    (floors : sellingFloor debtAsset sold limitPrice = .ok floor)
    : oracleValue debtAsset.other limitPrice sold = .ok floor := by
  cases debtAsset with
  | quote => exact floors
  | base =>
      have limited := limited.resolve_left nofun
      unfold sellingFloor at floors
      simp only at floors
      rw [if_neg (Q96.not_isZero limited)] at floors
      exact floors

theorem exchanges_closePosition (closed : closePosition terms limitPrice pool = .ok outcome pool')
    : ∃ sold fill, Exchanges pool sold fill pool'
        ∧ (Call.closePosition limitPrice).Accepts terms.caller pool.book sold fill := by
  obtain ⟨debtAsset, debt, collateral, bound, fill, _, _, settled, credited, debited, dropped,
    book', debtor, owes, holds, bounds, filled, honoured, settles, credits, debits, _, drops,
    refreshes, rfl⟩ := closePosition_placed closed
  have bought := SwapOrder.amountOut_of_buyWith honoured
  have paid := SwapOrder.amountIn_le_of_buyWith honoured
  refine ⟨debtAsset.other, fill, exchanges_of_settle filled settles (fun _ => rfl) fun side => ?_,
    collateral, ?_⟩
  · rw [book_recording, book_withBook, Book.balance_finish drops refreshes,
      Book.balance_debit debits, Book.balance_credit credits]
  · rw [Asset.other_other, bought]
    exact ⟨kindOf_of_requireDebtor debtor, owes, holds, Nat.le_trans paid (Nat.min_le_right ..),
      fun limited => le_value_of_le (closingBound_ok limited bounds)
        (Nat.le_trans paid (Nat.min_le_left ..))⟩

theorem exchanges_sellCollateral
    (traded : sellCollateral terms amount limitPrice pool = .ok outcome pool')
    : ∃ sold fill, Exchanges pool sold fill pool'
        ∧ (Call.sellCollateral amount limitPrice).Accepts terms.caller pool.book sold fill := by
  obtain ⟨debtAsset, held, floor, fill, _, _, settled, credited, debited, dropped, book', debtor,
    holds, floors, filled, honoured, settles, credits, debits, drops, refreshes, rfl⟩ :=
    sellCollateral_placed traded
  have sells := SwapOrder.amountIn_of_sell honoured
  have enough := SwapOrder.le_amountOut_of_sell honoured
  refine ⟨debtAsset.other, fill, exchanges_of_settle filled settles (fun _ => rfl) fun side => ?_,
    held, ?_⟩
  · rw [book_recording, book_withBook, Book.balance_finish drops refreshes,
      Book.balance_debit debits, Book.balance_credit credits]
  · rw [Asset.other_other, sells]
    refine ⟨kindOf_of_requireDebtor debtor, holds, rfl, fun limited => ?_⟩
    refine value_sub_one_lt_of_le (sellingFloor_ok (limited.imp_left fun base => ?_) floors) enough
    rw [← debtAsset.other_other, base]
    rfl

/-- What is booked without an order leaves the venue alone; a call with an order trades at its
limit.
-/
theorem tradesAtLimit_operate {call : Call} (operated : operate terms call pool = .ok outcome pool')
    : TradesAtLimit terms call pool pool' := by
  unfold TradesAtLimit
  cases call with
  | short amount limitPrice =>
      obtain ⟨fill, exchanges, exactly, limited⟩ := exchanges_short operated
      exact ⟨pool, .base, fill, rfl, exchanges, rfl, exactly, limited⟩
  | long amount limitPrice =>
      obtain ⟨fill, exchanges, exactly, limited⟩ := exchanges_long operated
      exact ⟨pool, .quote, fill, rfl, exchanges, rfl, exactly, limited⟩
  | closePosition limitPrice =>
      obtain ⟨sold, fill, exchanges, accepted⟩ := exchanges_closePosition operated
      exact ⟨pool, sold, fill, rfl, exchanges, accepted⟩
  | sellCollateral amount limitPrice =>
      obtain ⟨sold, fill, exchanges, accepted⟩ := exchanges_sellCollateral operated
      exact ⟨pool, sold, fill, rfl, exchanges, accepted⟩
  | depositQuote amount shortAmount limitPrice owner =>
      obtain ⟨account, start, owned, booked, ⟨rfl, rfl⟩ | ⟨opens, _, traded⟩⟩ := deposit_ok operated
      · obtain ⟨_, _, _, _, _, rfl⟩ := bookDeposit_ok booked
        rfl
      · obtain rfl := depositOwner_ok owned opens
        obtain ⟨fill, exchanges, exactly, limited⟩ := exchanges_short traded
        rw [if_pos (by simpa [Call.placesOrder] using opens)]
        exact ⟨start, .base, fill, booked, exchanges, rfl, exactly, limited⟩
  | depositBase amount longAmount limitPrice owner =>
      obtain ⟨account, start, owned, booked, ⟨rfl, rfl⟩ | ⟨opens, _, traded⟩⟩ := deposit_ok operated
      · obtain ⟨_, _, _, _, _, rfl⟩ := bookDeposit_ok booked
        rfl
      · obtain rfl := depositOwner_ok owned opens
        obtain ⟨fill, exchanges, exactly, limited⟩ := exchanges_long traded
        rw [if_pos (by simpa [Call.placesOrder] using opens)]
        exact ⟨start, .quote, fill, booked, exchanges, rfl, exactly, limited⟩
  | withdrawBase amount unwrap =>
      obtain ⟨_, _, _, _, _, _, _, _, _, _, _, _, rfl⟩ := withdraw_ok operated
      rfl
  | withdrawQuote amount unwrap =>
      obtain ⟨_, _, _, _, _, _, _, _, _, _, _, _, rfl⟩ := withdraw_ok operated
      rfl
  | receivePosition badAccount quoteAmount baseAmount =>
      obtain ⟨_, _, _, _, _, _, _, _, _, _, _, _, _, _, _, _, rfl⟩ := takeOver_ok operated
      rfl
  | reinit =>
      obtain ⟨_, rfl⟩ := reinit_ok operated
      rfl
  | emergencyWithdraw unwrap => exact (EStateM.throw_eq_ok.mp operated).elim

-----
-- Margin calls
-----

theorem sellsAtFloor_marginCall (valid : pool.book.parameters.violation? = none)
    (called : marginCall terms account pool = .ok () pool')
    : SellsAtFloor terms.price pool pool' := by
  obtain ⟨position, debtAsset, seized, _, removed, _, sold, shared, _, found, owes, holds, _,
    removes, sells, sharing, placing⟩ := marginCall_ok called
  have atRemoved := Book.balance_removePosition removes
  have parameters : removed.parameters = pool.book.parameters :=
    (congrArg Book.parameters (Book.settings_removePosition removes) :)
  have after := balance_after_sale sharing placing
  rcases sellSeized_placed sells with ⟨_, _, rfl⟩ | ⟨_, venue, rfl⟩
    | ⟨worth, floor, fill, venue, settled, values, floors, filled, honoured, settles, _, rfl⟩
  · exact .inl fun side => (after side).trans (atRemoved side)
  · exact .inl fun side => (after side).trans (atRemoved side)
  · rw [book_withBook, parameters] at floors
    obtain rfl := Parameters.liquidationFloor_eq_floor valid floors
    obtain rfl := oracleValue_eq_floor values
    have exchanges : Exchanges pool debtAsset.other fill pool' :=
      exchanges_of_settle (by exact filled) settles atRemoved after
    refine .inr ⟨debtAsset.other, fill, exchanges, account, position, found, ?_, ?_, ?_⟩
    · rw [Asset.other_other]
      exact PositionKind.debtAsset?_eq_some_iff.mp owes
    · rw [SwapOrder.amountIn_of_sell honoured]
      exact holds
    · rw [SwapOrder.amountIn_of_sell honoured]
      exact SwapOrder.le_amountOut_of_sell honoured

/-- Every margin call in a chain sells at the floor, and keeps the parameters for the next one. -/
theorem Liquidation.sellsAtFloor {calls : List (Pool V × Pool V)}
    (chain : Liquidation terms pool calls pool') (valid : pool.book.parameters.violation? = none)
    : ∀ call ∈ calls, SellsAtFloor terms.price call.1 call.2 := by
  refine chain.forall_calls (P := fun pool => pool.book.parameters.violation? = none) valid ?_ ?_
  · intro account before after valid called
    exact ⟨(storesWithin_marginCall called).valid valid, sellsAtFloor_marginCall valid called⟩
  · intro before book valid refreshed
    exact (Book.storesWithin_refresh valid refreshed).valid valid

theorem Updates.sellsAtFloor {calls : List (Pool V × Pool V)}
    (updates : Updates terms pool calls pool') (valid : pool.book.parameters.violation? = none)
    : ∀ call ∈ calls, SellsAtFloor terms.price call.1 call.2 := by
  cases updates with
  | current => exact List.forall_mem_nil _
  | accrued accrues chain =>
      exact chain.sellsAtFloor ((Book.storesWithin_accrue valid accrues).1.valid valid)

end Operations

-----
-- Committed calls
-----

/-- How a committed call dealt with the venue: the way out of a frozen pool leaves it alone, and any
other call keeps to the floor of liquidations while it brings the pool up to date and, unless it
stops there, to its own limit, on the route that it asked for.
-/
inductive KeepsPriceLimits {V : Type} [Venue V] (caller : AccountId) (call : Call) (route : Nat)
    (pool : Pool V)
    : Pool V → Prop
  | leave {pool' : Pool V} (frozen : pool.book.mode.isEmergency = true)
      (wayOut : ∃ unwrap, call = .emergencyWithdraw unwrap) (venue : pool'.venue = pool.venue)
    : KeepsPriceLimits caller call route pool pool'
  | stopped {terms : Terms} {marginCalled : Bool} {middle : Pool V}
      (fixed : TermsOf pool caller route terms)
      (updated : bringUpToDate terms (pool.withBook pool.book.openJournal)
        = .ok marginCalled middle)
      (sales : UpdatesAtFloor terms (pool.withBook pool.book.openJournal) middle)
      (stops : marginCalled = true ∨ middle.book.mode.isEmergency = true)
    : KeepsPriceLimits caller call route pool middle.commit
  | operated {terms : Terms} {middle pool' : Pool V} (fixed : TermsOf pool caller route terms)
      (updated : bringUpToDate terms (pool.withBook pool.book.openJournal) = .ok false middle)
      (sales : UpdatesAtFloor terms (pool.withBook pool.book.openJournal) middle)
      (regular : middle.book.mode.isEmergency = false)
      (trades : TradesAtLimit terms call middle pool')
    : KeepsPriceLimits caller call route pool pool'

section Commands

variable {V : Type} [Venue V] {pool pool' middle finish : Pool V} {terms : Terms}
  {caller : AccountId} {call : Call}

/-- A commit moves no token and sends no order. -/
theorem TradesAtLimit.commit (trades : TradesAtLimit terms call middle finish)
    : TradesAtLimit terms call middle finish.commit := by
  unfold TradesAtLimit at trades ⊢
  split at trades
  · next orders =>
      obtain ⟨start, sold, fill, starts, exchanges, accepted⟩ := trades
      rw [if_pos orders]
      refine ⟨start, sold, fill, starts, ⟨exchanges.answered, ?_, ?_⟩, accepted⟩
      · rw [book_commit]
        exact exchanges.took
      · rw [book_commit]
        exact exchanges.gave
  · next orderless =>
      rw [if_neg orderless, venue_commit]
      exact trades

theorem updatesAtFloor (valid : pool.book.parameters.violation? = none) {marginCalled : Bool}
    (updated : bringUpToDate terms pool = .ok marginCalled middle)
    : UpdatesAtFloor terms pool middle := by
  obtain ⟨calls, updates⟩ := bringUpToDate_ok updated
  exact ⟨⟨calls, updates⟩, fun _ others => others.sellsAtFloor valid⟩

/-- A shutdown deals with the venue in margin calls only, which keep to the floor. -/
theorem sales_of_shutDown_keep_floor (reachable : Reachable pool) {mode : Mode}
    (shut : shutDown caller pool = .ok mode pool')
    : ∃ terms middle, TermsOf pool caller 0 terms
        ∧ UpdatesAtFloor terms (pool.withBook pool.book.openJournal) middle
        ∧ pool'.venue = middle.venue
        ∧ ∀ side, (pool'.book.ledger side).balance = (middle.book.ledger side).balance := by
  obtain ⟨_, terms, _, middle, acted, fixed, updated, freezes, rfl⟩ := shutDown_ok shut
  refine ⟨terms, middle, fixed, updatesAtFloor (by exact reachable.sound.valid) updated, ?_⟩
  rw [venue_commit, book_commit]
  rcases freezes with rfl | ⟨_, _, froze⟩
  · exact ⟨rfl, fun _ => rfl⟩
  · obtain ⟨_, _, rfl⟩ := freeze_ok froze
    exact ⟨rfl, fun _ => rfl⟩

/-- In a reachable pool every call that is committed keeps its limits, whatever the venue answers.
-/
theorem fills_keep_price_limits (reachable : Reachable pool) {route : Nat} {outcome : Outcome}
    (committed : executeRouted caller call route pool = .ok outcome pool')
    : KeepsPriceLimits caller call route pool pool' := by
  obtain ⟨acted, dispatched, rfl⟩ := atomically_ok committed
  cases mode : pool.book.mode.isEmergency with
  | true =>
      obtain ⟨wayOut, left⟩ := dispatch_frozen (by exact mode) dispatched
      obtain ⟨_, _, _, _, _, _, _, _, _, _, _, _, _, _, _, rfl⟩ := emergencyWithdraw_eq_ok.mp left
      exact .leave mode wayOut (venue_commit _)
  | false =>
      obtain ⟨_, ran⟩ := dispatch_regular (by exact mode) dispatched
      obtain ⟨terms, marginCalled, middle, fixed, updated, ending⟩ := runRegular_ok ran
      have sales := updatesAtFloor (by exact reachable.sound.valid) updated
      rcases ending with ⟨stops, _, rfl⟩ | ⟨rfl, regular, operated⟩
      · exact .stopped fixed.ofOpened updated sales stops
      · exact .operated fixed.ofOpened updated sales regular (tradesAtLimit_operate operated).commit

end Commands

/-- The long in front of a venue that gives half the price for 10000 base. -/
def halvingTrades : List (Command ScriptedVenue) :=
  chargingTrades ++ [.changeVenue { charging.venue with prepared := [⟨10000, 5000⟩] }]

/-- The long sells 10000 base for half the price if that is its limit, but not if it asks for a unit
more.
-/
theorem fills_keep_price_limits_halving
    : let pool := charging.after halvingTrades
      let call := Call.short 10000 ⟨Q96.unit / 2⟩
      let pool' := endState (executeRouted ⟨20⟩ call 0 pool)
      pool.price = .ok .one
        ∧ executeRouted ⟨20⟩ call 0 pool = .ok ⟨⟨10000, 5000⟩, 1, false⟩ pool'
        ∧ KeepsPriceLimits ⟨20⟩ call 0 pool pool'
        ∧ (pool'.book.ledger .base).balance + 10000 = (pool.book.ledger .base).balance
        ∧ (pool'.book.ledger .quote).balance = (pool.book.ledger .quote).balance + 5000
        ∧ ∃ failed, executeRouted ⟨20⟩ (.short 10000 ⟨Q96.unit / 2 + Q96.unit / 5000⟩) 0 pool
            = .error .slippageLimit failed := by
  intro pool call pool'
  have committed : executeRouted ⟨20⟩ call 0 pool = .ok ⟨⟨10000, 5000⟩, 1, false⟩ pool' := by
    decide +kernel
  have refused : executeRouted ⟨20⟩ (.short 10000 ⟨Q96.unit / 2 + Q96.unit / 5000⟩) 0 pool
      = .error .slippageLimit (endState
          (executeRouted ⟨20⟩ (.short 10000 ⟨Q96.unit / 2 + Q96.unit / 5000⟩) 0 pool)) := by
    decide +kernel
  exact ⟨by decide +kernel, committed,
    fills_keep_price_limits (reachable_charging.after halvingTrades) committed, by decide +kernel,
    by decide +kernel, _, refused⟩

end Pool

end MarginLending
