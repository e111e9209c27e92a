import MarginLending.Proofs.Book.Backing
import MarginLending.Proofs.Pool.Consistency
import MarginLending.Proofs.Pool.Writes

/-!
How far an operation opens the gap between the claims on an asset and what backs them: by a few
tokens of rounding, whatever it moves. A margin call opens it by two, as long as what it cuts from
the collateral of counterparties is taken in full.
-/

namespace MarginLending

/-- A fill of an order to sell takes in exactly what was offered. -/
theorem SwapOrder.amountIn_of_sell {tokenIn : Asset} {amountIn minimumOut route : Nat} {fill : Fill}
    (honoured : (SwapOrder.sell tokenIn amountIn minimumOut route).isHonouredBy fill)
    : fill.amountIn = amountIn := by
  simp only [isHonouredBy, sell, if_true] at honoured
  exact (of_decide_eq_true honoured).1

/-- A fill of an order to buy gives out exactly what was asked for. -/
theorem SwapOrder.amountOut_of_buyWith {tokenIn : Asset} {amountOut maximumIn route : Nat}
    {fill : Fill}
    (honoured : (SwapOrder.buyWith tokenIn amountOut maximumIn route).isHonouredBy fill)
    : fill.amountOut = amountOut := by
  simp only [isHonouredBy, buyWith, Bool.false_eq_true, if_false] at honoured
  exact (of_decide_eq_true honoured).1

namespace Pool

section Operations

variable {V : Type} {pool pool' : Pool V} {terms : Terms} {account : AccountId} {asset : Asset}
  {outcome : Outcome}

-----
-- An operation opens a gap by the rounding of its credits
-----

section Trades

variable [Venue V] {amount : Nat} {limitPrice : Q96}

/-- A short opens a gap by two tokens at most, one for each of its credits. -/
theorem gap_short (asset : Asset)
    (traded : short terms account amount limitPrice pool = .ok outcome pool')
    : pool'.book.gap asset ≤ pool.book.gap asset + 2 * Q96.unit := by
  obtain ⟨quoteDebt, minimumOut, fill, fee, venue, settled, credited, paid, debited, dropped, book',
    _, _, _, honoured, _, settles, _, within, credits, pays, debits, drops, refreshes, _, rfl⟩ :=
    short_eq traded
  have amountIn := SwapOrder.amountIn_of_sell honoured
  obtain ⟨baseOut, quoteIn⟩ := Book.gap_settle settles
  obtain ⟨quoteCredited, baseCredited⟩ := Book.gap_credit credits
  obtain ⟨quotePaid, basePaid⟩ := Book.gap_credit pays
  obtain ⟨baseDebited, quoteDebited⟩ := Book.gap_debit debits
  simp only [SwapOrder.sell, Asset.other, amountIn]
    at baseOut quoteIn baseCredited basePaid quoteDebited
  have positive := Q96.unit_pos
  rw [Pool.book_recording, Pool.book_withBook, Book.gap_finish drops refreshes]
  cases asset with
  | base => linarith
  | quote =>
      zify [within] at quoteCredited
      linarith

/-- A long opens a gap by a token at most. -/
theorem gap_long (asset : Asset)
    (traded : long terms account amount limitPrice pool = .ok outcome pool')
    : pool'.book.gap asset ≤ pool.book.gap asset + Q96.unit := by
  obtain ⟨baseDebt, maximumIn, fill, charged, fee, venue, kindBefore, kindAfter, settled, credited,
    debited, paid, dropped, book', honoured, settles, _, _, credits, debits, pays, drops, refreshes,
    rfl⟩ := long_ok traded
  have amountOut := SwapOrder.amountOut_of_buyWith honoured
  obtain ⟨quoteOut, baseIn⟩ := Book.gap_settle settles
  obtain ⟨baseCredited, quoteCredited⟩ := Book.gap_credit credits
  obtain ⟨quoteDebited, baseDebited⟩ := Book.gap_debit debits
  obtain ⟨quotePaid, basePaid⟩ := Book.gap_credit pays
  simp only [SwapOrder.buyWith, Asset.other, amountOut]
    at quoteOut baseIn quoteCredited baseDebited basePaid
  rw [Pool.book_recording, Pool.book_withBook, Book.gap_finish drops refreshes]
  cases asset with
  | base => linarith
  | quote =>
      push_cast at quoteDebited
      linarith

end Trades

/-- Repaying debt with collateral opens a gap by a token at most. -/
theorem gap_repay {book settled credited debited : Book} {debtAsset : Asset} {order : SwapOrder}
    {fill : Fill} (tokenIn : order.tokenIn = debtAsset.other)
    (settles : Book.settle order fill book = .ok () settled)
    (credits : Book.credit account debtAsset fill.amountOut settled = .ok () credited)
    (debits : Book.debit account debtAsset.other fill.amountIn credited = .ok () debited)
    : debited.gap asset ≤ book.gap asset + Q96.unit := by
  obtain ⟨out, into⟩ := Book.gap_settle settles
  obtain ⟨here, there⟩ := Book.gap_credit credits
  obtain ⟨spent, kept⟩ := Book.gap_debit debits
  rw [tokenIn] at out into
  rw [Asset.other_other] at into kept
  have positive := Q96.unit_pos
  rcases debtAsset.eq_or_eq_other asset with rfl | rfl
  · linarith
  · linarith

section Trades

variable [Venue V] {amount : Nat} {limitPrice : Q96}

theorem gap_closePosition (asset : Asset)
    (closed : closePosition terms limitPrice pool = .ok outcome pool')
    : pool'.book.gap asset ≤ pool.book.gap asset + Q96.unit := by
  obtain ⟨debtAsset, debt, bound, fill, venue, payload, settled, credited, debited, dropped, book',
    _, honoured, settles, credits, debits, drops, refreshes, rfl⟩ := closePosition_ok closed
  rw [← SwapOrder.amountOut_of_buyWith honoured] at credits
  rw [Pool.book_recording, Pool.book_withBook, Book.gap_finish drops refreshes]
  exact gap_repay rfl settles credits debits

theorem gap_sellCollateral (asset : Asset)
    (traded : sellCollateral terms amount limitPrice pool = .ok outcome pool')
    : pool'.book.gap asset ≤ pool.book.gap asset + Q96.unit := by
  obtain ⟨debtAsset, sold, floor, fill, venue, payload, settled, credited, debited, dropped, book',
    _, honoured, settles, credits, debits, drops, refreshes, rfl⟩ := sellCollateral_ok traded
  rw [← SwapOrder.amountIn_of_sell honoured] at debits
  rw [Pool.book_recording, Pool.book_withBook, Book.gap_finish drops refreshes]
  exact gap_repay rfl settles credits debits

end Trades

/-- An amount that is paid in and credited opens the gap of its asset by a token at most. -/
theorem gap_payIn_credit {book paid credited : Book} {amount : Nat}
    (pays : Book.payIn asset amount book = .ok () paid)
    (credits : Book.credit account asset amount paid = .ok () credited) (side : Asset)
    : credited.gap side ≤ book.gap side + Q96.unit := by
  obtain ⟨paidHere, paidThere⟩ := Book.gap_payIn pays
  obtain ⟨here, there⟩ := Book.gap_credit credits
  have positive := Q96.unit_pos
  rcases asset.eq_or_eq_other side with rfl | rfl
  · linarith
  · linarith

theorem gap_bookDeposit {amount : Nat} (side : Asset)
    (booked : bookDeposit terms asset amount account pool = .ok () pool')
    : pool'.book.gap side ≤ pool.book.gap side + Q96.unit := by
  obtain ⟨paid, credited, payload, pays, credits, rfl⟩ := bookDeposit_ok booked
  rw [Pool.book_recording, Pool.book_withBook, (credited.reranked_reseat account).gap]
  exact gap_payIn_credit pays credits side

/-- A deposit opens a gap by a token, and the trade on it by two more. -/
theorem gap_deposit [Venue V] {amount leveraged : Nat} {limitPrice : Q96} {owner : Option AccountId}
    {side : Asset}
    (deposited : deposit terms asset amount leveraged limitPrice owner pool = .ok outcome pool')
    : pool'.book.gap side ≤ pool.book.gap side + 3 * Q96.unit := by
  obtain ⟨account, middle, _, booked, trades⟩ := deposit_ok deposited
  have atMiddle := gap_bookDeposit side booked
  have positive := Q96.unit_pos
  rcases trades with ⟨_, rfl⟩ | ⟨_, trade, traded⟩
  · linarith
  · cases asset with
    | base =>
        have traded := gap_long side traded
        linarith
    | quote =>
        have traded := gap_short side traded
        linarith

/-- A withdrawal takes as much from the claims as it takes from the balance. -/
theorem gap_withdraw {amount : Nat} (side : Asset)
    (withdrawn : withdraw terms asset amount pool = .ok outcome pool')
    : pool'.book.gap side ≤ pool.book.gap side := by
  obtain ⟨available, real, debited, paid, dropped, payload, _, _, _, debits, pays, drops, rfl⟩ :=
    withdraw_ok withdrawn
  obtain ⟨here, there⟩ := Book.gap_debit debits
  obtain ⟨paidHere, paidThere⟩ := Book.gap_payOut pays
  rw [Pool.book_recording, Pool.book_withBook, Book.gap_dropIfEmpty drops,
    (paid.reranked_reseat terms.caller).gap]
  rcases asset.eq_or_eq_other side with rfl | rfl
  · linarith
  · linarith

/-- A takeover opens a gap by a token at most, for what the receiver pays in. -/
theorem gap_takeOver (asset : Asset) {badAccount : AccountId} {quoteAmount baseAmount : Nat}
    (taken : takeOver terms badAccount quoteAmount baseAmount pool = .ok outcome pool')
    : pool'.book.gap asset ≤ pool.book.gap asset + Q96.unit := by
  obtain ⟨bad, debtAsset, quotePaid, basePaid, quoteCredited, baseCredited, book', _, unstarted,
    found, owes, paysQuote, paysBase, creditsQuote, creditsBase, refreshes, rfl⟩ :=
    takeOver_ok taken
  obtain ⟨quoteIn, baseKept⟩ := Book.gap_payIn paysQuote
  obtain ⟨baseIn, quoteKept⟩ := Book.gap_payIn paysBase
  obtain ⟨quoteUp, baseSame⟩ := Book.gap_credit creditsQuote
  obtain ⟨baseUp, quoteSame⟩ := Book.gap_credit creditsBase
  simp only [Asset.other] at baseKept quoteKept baseSame quoteSame
  have positive := Q96.unit_pos
  rw [Book.gap_handOver found owes unstarted] at quoteIn baseKept
  rw [Pool.book_recording, Pool.book_withBook, Book.gap_refreshLeverage refreshes,
    (baseCredited.reranked_reseat terms.caller).gap]
  cases asset with
  | base => linarith
  | quote => linarith

/-- Whatever a call asks for opens a gap by three tokens at most. -/
theorem gap_operate [Venue V] (asset : Asset) {call : Call}
    (operated : operate terms call pool = .ok outcome pool')
    : pool'.book.gap asset ≤ pool.book.gap asset + 3 * Q96.unit := by
  have positive := Q96.unit_pos
  cases call with
  | depositBase amount longAmount limitPrice owner => exact gap_deposit operated
  | depositQuote amount shortAmount limitPrice owner => exact gap_deposit operated
  | withdrawBase amount unwrap =>
      have withdrawn := gap_withdraw asset operated
      linarith
  | withdrawQuote amount unwrap =>
      have withdrawn := gap_withdraw asset operated
      linarith
  | short amount limitPrice =>
      have traded := gap_short asset operated
      linarith
  | long amount limitPrice =>
      have traded := gap_long asset operated
      linarith
  | closePosition limitPrice =>
      have closed := gap_closePosition asset operated
      linarith
  | sellCollateral amount limitPrice =>
      have traded := gap_sellCollateral asset operated
      linarith
  | reinit =>
      obtain ⟨_, rfl⟩ := reinit_ok operated
      linarith
  | receivePosition badAccount quoteAmount baseAmount =>
      have taken := gap_takeOver asset operated
      linarith
  | emergencyWithdraw unwrap => exact (EStateM.throw_eq_ok.mp operated).elim

end Operations

-----
-- A margin call opens a gap by what it fails to cut
-----

section MarginCalls

variable {V : Type} {pool pool' : Pool V} {terms : Terms} {account : AccountId} {asset : Asset}

/-- The proceeds and the shortfall of a sale make up the debt and the surplus; what is kept was not
sold.
-/
theorem recovery_balance (proceeds : Option Nat) (debt seized : Nat)
    : (Recovery.of proceeds debt seized).shortfall + proceeds.getD 0
        = debt + (Recovery.of proceeds debt seized).surplus
      ∧ ((Recovery.of proceeds debt seized).surplus = 0
        ∨ (Recovery.of proceeds debt seized).shortfall = 0)
      ∧ (Recovery.of proceeds debt seized).kept = if proceeds.isSome then 0 else seized := by
  cases proceeds with
  | none => exact ⟨rfl, .inl rfl, rfl⟩
  | some amount =>
      simp only [Recovery.of, Option.getD_some, Option.isSome_some, if_true, and_true]
      omega

/-- A sale of seized collateral takes it from one gap and closes the other by the proceeds. What is
kept changes nothing.
-/
theorem gap_sellSeized [Venue V] {seized : Nat} {proceeds : Option Nat}
    (sold : sellSeized terms asset seized pool = .ok proceeds pool')
    : pool'.book.gap asset
        = pool.book.gap asset + (if proceeds.isSome then seized else 0 : Nat) * Q96.unit
      ∧ pool'.book.gap asset.other
        = pool.book.gap asset.other - (proceeds.getD 0 : Nat) * Q96.unit
      ∧ pool'.book.claims asset.other = pool.book.claims asset.other
      ∧ pool'.pending = pool.pending
      ∧ ∀ amount, proceeds = some amount → amount < amountLimit := by
  rcases sellSeized_ok sold with
    ⟨rfl, rfl, rfl⟩ | ⟨rfl, venue, rfl⟩ | ⟨floor, fill, venue, settled, honoured, settles, rfl, rfl⟩
  · refine ⟨by simp, by simp, rfl, rfl, fun amount same => ?_⟩
    obtain rfl := Option.some.inj same
    decide
  · exact ⟨by simp, by simp, rfl, rfl, nofun⟩
  · obtain ⟨out, into⟩ := Book.gap_settle settles
    have amountIn := SwapOrder.amountIn_of_sell honoured
    simp only [SwapOrder.sell, amountIn] at out into
    refine ⟨by simpa using out, by simpa using into, Book.claims_settle settles _, rfl,
      fun amount same => ?_⟩
    obtain rfl := Option.some.inj same
    exact Book.settle_amountOut_lt settles

/-- The events that were recorded between two pools of one call. -/
def recordedSince (before after : Pool V) : List EventPayload :=
  after.pending.drop before.pending.length

/-- Between two pools, whatever was charged to the borrowers of the other asset was cut from the
collateral in an asset in full: all claims together fell by the shortfall.
-/
def CutInFull (asset : Asset) (before after : Pool V) : Prop :=
  ∀ loss, EventPayload.deleverage loss ∈ recordedSince before after → loss.asset = asset →
    loss.absorbedBy = .counterparties →
      after.book.claims asset + loss.shortfall * Q96.unit ≤ before.book.claims asset

/-- A debtor holds nothing of what it owes and owes nothing of what it holds. -/
theorem sides_of_debtor (consistent : pool.book.Consistent none) {position : Position}
    {debtAsset : Asset} (found : pool.book.position? account = some position)
    (owes : position.kind.debtAsset? = some debtAsset)
    : (position.holding debtAsset).collateralAmount = 0
      ∧ (position.holding debtAsset.other).debtAmount = 0 := by
  have owed := Position.debtAmount_pos_of_debtAsset? owes
  constructor
  · cases held : position.holding debtAsset with
    | collateral amount => simp [held, Holding.debtAmount] at owed
    | debt amount => rfl
  · exact (consistent.oneSided account position found debtAsset).resolve_left (Nat.ne_of_gt owed)

/-- A leveraged position leaves less than a token more than its real debt uncovered, and at least
its real collateral unclaimed.
-/
theorem gap_removed (consistent : pool.book.Consistent none) {position : Position}
    {debtAsset : Asset} {seized debt : Nat} {removed : Book}
    (found : pool.book.position? account = some position)
    (owes : position.kind.debtAsset? = some debtAsset)
    (holds : pool.book.collateralIn position debtAsset.other = .ok seized)
    (owed : pool.book.debtIn position debtAsset = .ok debt)
    (removes : Book.removePosition account pool.book = .ok () removed)
    : removed.gap debtAsset ≤ pool.book.gap debtAsset + (debt + 1) * Q96.unit
      ∧ removed.gap debtAsset.other + seized * Q96.unit ≤ pool.book.gap debtAsset.other
      ∧ removed.claims debtAsset = pool.book.claims debtAsset := by
  rcases Book.removed_of_removePosition removes with ⟨absent, _⟩ | ⟨position', found', gone⟩
  · rw [found] at absent
    cases absent
  · obtain rfl := Option.some.inj (found.symm.trans found')
    obtain ⟨noCollateral, noOtherDebt⟩ := sides_of_debtor consistent found owes
    have here := gone.gap debtAsset
    have there := gone.gap debtAsset.other
    have claims := gone.claims debtAsset
    have bounds := (Ledger.realDebt_bounds owed).2
    have claimed : (seized * Q96.unit : Int) ≤ (pool.book.ledger debtAsset.other).claim
        (position.holding debtAsset.other).collateralAmount
        (position.holding debtAsset).debtAmount := by
      have := Ledger.netCollateral_le_claim holds
      rw [Asset.other_other] at this
      exact_mod_cast this
    simp only [Book.worthIn, Ledger.worth, noCollateral, noOtherDebt, Ledger.claim_zero,
      Asset.other_other] at here there claims
    refine ⟨?_, ?_, by omega⟩
    · push_cast at here
      linarith
    · push_cast at there
      linarith

/-- Seizing a position and selling its collateral opens the gap of the debt by what stays unpaid,
less the surplus, and a token; the kept collateral closes the other gap.
-/
theorem gap_seize [Venue V] (consistent : pool.book.Consistent none) {position : Position}
    {debtAsset : Asset} {seized debt : Nat} {removed : Book} {proceeds : Option Nat} {sold : Pool V}
    (found : pool.book.position? account = some position)
    (owes : position.kind.debtAsset? = some debtAsset)
    (holds : pool.book.collateralIn position debtAsset.other = .ok seized)
    (owed : pool.book.debtIn position debtAsset = .ok debt)
    (removes : Book.removePosition account pool.book = .ok () removed)
    (sells : sellSeized terms debtAsset.other seized (pool.withBook removed) = .ok proceeds sold)
    : sold.book.gap debtAsset + (Recovery.of proceeds debt seized).surplus * Q96.unit
        ≤ pool.book.gap debtAsset
          + ((Recovery.of proceeds debt seized).shortfall + 1) * Q96.unit
      ∧ sold.book.gap debtAsset.other + (Recovery.of proceeds debt seized).kept * Q96.unit
        ≤ pool.book.gap debtAsset.other := by
  obtain ⟨here, there, _⟩ := gap_removed consistent found owes holds owed removes
  obtain ⟨out, into, _⟩ := gap_sellSeized sells
  obtain ⟨balance, _, kept⟩ := recovery_balance proceeds debt seized
  rw [Asset.other_other] at into
  rw [Pool.book_withBook] at out into
  zify at balance
  have paid := congrArg (fun amount : Int => amount * Q96.unit) balance
  simp only [add_mul] at paid
  constructor
  · linarith
  · rw [kept]
    split at out
    · next sold =>
        rw [if_pos sold]
        push_cast
        linarith
    · next unsold =>
        rw [if_neg unsold]
        push_cast at out
        linarith

/-- A shortfall charged to counterparties closes its gap, if it was cut in full, and opens the other
one by the kept collateral and a token at most.
-/
theorem gap_chargeCounterparties (consistent : pool.book.Consistent none) {shortfall kept : Nat}
    (charged : chargeCounterparties asset shortfall kept pool = .ok () pool')
    : (CutInFull asset pool pool' →
        pool'.book.gap asset ≤ pool.book.gap asset - shortfall * Q96.unit)
      ∧ pool'.book.gap asset.other ≤ pool.book.gap asset.other + (kept + 1) * Q96.unit := by
  obtain ⟨raised, debt, relieved, book', raises, _, relieves, shares, rfl⟩ :=
    chargeCounterparties_ok charged
  have atRelieved := (consistent.chargeBorrowers raises).relieveDebt relieves
  have within : min kept (debt - 1) ≤ kept := Nat.min_le_left _ _
  generalize min kept (debt - 1) = relief at *
  have claims := Book.claims_shareAmongLenders_other atRelieved shares
  rw [Asset.other_other, Book.claims_relieveDebt relieves] at claims
  rw [← Book.ledger_chargeBorrowers_other raises] at relieves
  obtain ⟨raisedHere, raisedThere⟩ := Book.gap_chargeBorrowers raises
  obtain ⟨relievedThere, relievedHere⟩ := Book.gap_relieveDebt relieves
  obtain ⟨sharedThere, sharedHere⟩ := Book.gap_shareAmongLenders atRelieved shares
  rw [Asset.other_other] at relievedHere sharedHere
  constructor
  · intro full
    have cut := full ⟨asset, shortfall, .counterparties, relief, (raised.ledger asset).chargeCoeff⟩
      (by simp [recordedSince, recording, withBook]) rfl rfl
    simp only [Pool.book_recording, Pool.book_withBook] at cut ⊢
    rw [claims] at cut
    zify at cut
    linarith
  · simp only [Pool.book_recording, Pool.book_withBook]
    zify [within] at sharedThere
    linarith

/-- A shortfall charged to the same side closes its gap and opens the other one by the kept
collateral and a token at most, unless the pool freezes.
-/
theorem gap_chargeSameSide (consistent : pool.book.Consistent none) {shortfall kept : Nat}
    (charged : chargeSameSide terms asset shortfall kept pool = .ok () pool')
    (regular : pool'.book.mode.isEmergency = false)
    : pool'.book.gap asset ≤ pool.book.gap asset - shortfall * Q96.unit
      ∧ pool'.book.gap asset.other ≤ pool.book.gap asset.other + (kept + 1) * Q96.unit := by
  obtain ⟨shared, shares, ⟨_, froze⟩ | ⟨_, book', raises, rfl⟩⟩ := chargeSameSide_ok charged
  · obtain ⟨_, _, rfl⟩ := freeze_ok froze
    cases asset <;> cases regular
  · obtain ⟨sharedThere, sharedHere⟩ := Book.gap_shareAmongLenders consistent shares
    obtain ⟨raisedHere, raisedThere⟩ := Book.gap_raiseDebt raises
    rw [Asset.other_other] at sharedHere
    simp only [Pool.book_recording, Pool.book_withBook]
    constructor
    · linarith
    · linarith

/-- Placing a shortfall closes its gap, if what it cut was cut in full and the pool did not freeze.
-/
theorem gap_placeShortfall (consistent : pool.book.Consistent none) {shortfall kept : Nat}
    (placed : placeShortfall terms asset shortfall kept pool = .ok () pool')
    (regular : pool'.book.mode.isEmergency = false)
    : (CutInFull asset pool pool' →
        pool'.book.gap asset ≤ pool.book.gap asset - shortfall * Q96.unit)
      ∧ pool'.book.gap asset.other ≤ pool.book.gap asset.other + (kept + 1) * Q96.unit := by
  obtain ⟨_, _, ⟨_, _, charged⟩ | charged⟩ := placeShortfall_ok placed
  · exact gap_chargeCounterparties consistent charged
  · obtain ⟨here, there⟩ := gap_chargeSameSide consistent charged regular
    exact ⟨fun _ => here, there⟩

/-- A margin call opens the gap of the debt by two tokens at most, if what it cut was cut in full,
and the other one by one.
-/
theorem gap_marginCall_sides [Venue V] (consistent : pool.book.Consistent none)
    (called : marginCall terms account pool = .ok () pool')
    (regular : pool'.book.mode.isEmergency = false)
    : ∃ debtAsset,
        (CutInFull debtAsset pool pool' →
          pool'.book.gap debtAsset ≤ pool.book.gap debtAsset + 2 * Q96.unit)
        ∧ pool'.book.gap debtAsset.other ≤ pool.book.gap debtAsset.other + Q96.unit := by
  obtain ⟨position, debtAsset, seized, debt, removed, proceeds, sold, shared, payload, found, owes,
    holds, owed, removes, sells, sharing, placing⟩ := marginCall_ok called
  refine ⟨debtAsset, ?_⟩
  obtain ⟨here, there⟩ := gap_seize consistent found owes holds owed removes sells
  obtain ⟨_, _, claimsRemoved⟩ := gap_removed consistent found owes holds owed removes
  obtain ⟨_, _, claimsSold, pending, _⟩ := gap_sellSeized sells
  rw [Asset.other_other] at claimsSold
  obtain ⟨_, oneOf, _⟩ := recovery_balance proceeds debt seized
  have soldConsistent : sold.book.Consistent none :=
    consistent_sellSeized (by exact consistent.removePosition removes) sells
  have positive : (0 : Int) < Q96.unit := by exact_mod_cast Q96.unit_pos
  generalize Recovery.of proceeds debt seized = recovery at *
  have keptUp : (0 : Int) ≤ recovery.kept * Q96.unit :=
    mul_nonneg (Int.natCast_nonneg _) positive.le
  rcases sharing with ⟨gains, shares⟩ | ⟨noSurplus, rfl⟩
  · have noShortfall := oneOf.resolve_left (Nat.ne_of_gt gains)
    obtain ⟨sharedHere, sharedThere⟩ := Book.gap_shareAmongLenders soldConsistent shares
    obtain rfl := (placing.resolve_left fun unpaid => absurd unpaid.1 (by omega)).2
    rw [noShortfall] at here
    simp only [Pool.book_recording, Pool.book_withBook]
    push_cast at here
    exact ⟨fun _ => by linarith, by linarith⟩
  · rw [noSurplus] at here
    push_cast at here
    rcases placing with ⟨_, placed⟩ | ⟨noShortfall, rfl⟩
    · have reported : ((sold.withBook sold.book).recording (.marginCall payload)).book
          = sold.book :=
        rfl
      obtain ⟨placedHere, placedThere⟩ := gap_placeShortfall (by rwa [reported]) placed regular
      rw [reported] at placedHere placedThere
      refine ⟨fun full => ?_, by linarith⟩
      have fullAfter : CutInFull debtAsset
          ((sold.withBook sold.book).recording (.marginCall payload)) pool' := by
        intro loss recorded ofAsset absorbed
        rw [reported, claimsSold, Pool.book_withBook, claimsRemoved]
        refine full loss ?_ ofAsset absorbed
        have length : ((sold.withBook sold.book).recording (.marginCall payload)).pending.length
            = pool.pending.length + 1 := by
          simp [recording, withBook, pending]
        rw [recordedSince, length, ← List.drop_drop] at recorded
        exact List.mem_of_mem_drop recorded
      have closed := placedHere fullAfter
      linarith
    · rw [noShortfall] at here
      simp only [Pool.book_recording, Pool.book_withBook]
      push_cast at here
      exact ⟨fun _ => by linarith, by linarith⟩

/-- A margin call opens a gap by two tokens at most, if what it cut was cut in full. -/
theorem gap_marginCall [Venue V] (asset : Asset) (consistent : pool.book.Consistent none)
    (called : marginCall terms account pool = .ok () pool')
    (regular : pool'.book.mode.isEmergency = false) (full : CutInFull asset pool pool')
    : pool'.book.gap asset ≤ pool.book.gap asset + 2 * Q96.unit := by
  obtain ⟨debtAsset, here, there⟩ := gap_marginCall_sides consistent called regular
  rcases debtAsset.eq_or_eq_other asset with rfl | rfl
  · exact here full
  · have := Q96.unit_pos
    linarith

end MarginCalls

end Pool

end MarginLending
