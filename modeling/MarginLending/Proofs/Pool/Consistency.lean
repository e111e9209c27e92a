import MarginLending.Proofs.Pool.Liquidations

/-!
Every operation of a pool keeps its book consistent. The chain of bookings that an operation made is
followed from one to the next; between the first booking to an account and its new seat, that
account alone may be ranked wrongly.
-/

namespace MarginLending

namespace Pool

section Operations

variable {V : Type} {pool pool' : Pool V} {terms : Terms} {account : AccountId} {asset : Asset}
  {outcome : Outcome}

/-- The end of a trade makes the book consistent in everything again. -/
theorem consistent_of_finish {book dropped book' : Book} {price : Q96}
    (consistent : book.Consistent (some account))
    (drops : Book.dropIfEmpty account (book.reseat account) = .ok () dropped)
    (refreshes : Book.refreshLeverage price dropped = .ok () book')
    : book'.Consistent none :=
  (consistent.reseat.dropIfEmpty drops).refreshLeverage refreshes

/-- A debtor has a leveraged position, so it is not the fee holder. -/
theorem ne_feeHolder_of_debtor (consistent : pool.book.Consistent none) {debtAsset : Asset}
    (debtor : requireDebtor pool.book account = .ok debtAsset)
    : account ≠ .feeHolder := by
  rintro rfl
  unfold requireDebtor Book.kindOf at debtor
  cases found : pool.book.position? .feeHolder with
  | none =>
      simp only [found] at debtor
      cases debtor
  | some position =>
      have unleveraged := Position.debtAsset?_eq_none_iff.mpr
        (consistent.feeHolderClear position found)
      simp only [found] at debtor
      cases kind : position.kind with
      | short => exact nomatch (kind ▸ unleveraged : PositionKind.short.debtAsset? = none)
      | long => exact nomatch (kind ▸ unleveraged : PositionKind.long.debtAsset? = none)
      | lend =>
          simp only [kind] at debtor
          cases debtor
      | uninitialized =>
          simp only [kind] at debtor
          cases debtor

section Trades

variable [Venue V] {limitPrice : Q96} {amount : Nat}

theorem consistent_short (consistent : pool.book.Consistent none)
    (traded : short terms account amount limitPrice pool = .ok outcome pool')
    (notFee : account ≠ .feeHolder)
    : pool'.book.Consistent none := by
  obtain ⟨_, _, _, _, _, _, settled, credited, paid, debited, dropped, book', _, _, settles, _,
    credits, pays, debits, drops, refreshes, rfl⟩ := short_ok traded
  have atSettled := (consistent.settle settles).loosen account
  have atPaid := (atSettled.credit credits (.inl rfl)).credit pays (.inr rfl)
  have atDebited := atPaid.debit debits fun isFee => absurd isFee notFee
  exact consistent_of_finish atDebited drops refreshes

theorem consistent_long (consistent : pool.book.Consistent none)
    (traded : long terms account amount limitPrice pool = .ok outcome pool')
    (notFee : account ≠ .feeHolder)
    : pool'.book.Consistent none := by
  obtain ⟨_, _, _, _, _, _, _, _, settled, credited, debited, paid, dropped, book', _, settles, _,
    _, credits, debits, pays, drops, refreshes, rfl⟩ := long_ok traded
  have atSettled := (consistent.settle settles).loosen account
  have atDebited := (atSettled.credit credits (.inl rfl)).debit debits
    fun isFee => absurd isFee notFee
  exact consistent_of_finish (atDebited.credit pays (.inr rfl)) drops refreshes

theorem consistent_closePosition (consistent : pool.book.Consistent none)
    (closed : closePosition terms limitPrice pool = .ok outcome pool')
    : pool'.book.Consistent none := by
  obtain ⟨_, _, _, _, _, _, settled, credited, debited, dropped, book', debtor, _, settles, credits,
    debits, drops, refreshes, rfl⟩ := closePosition_ok closed
  have notFee := ne_feeHolder_of_debtor consistent debtor
  have atSettled := (consistent.settle settles).loosen terms.caller
  have atDebited := (atSettled.credit credits (.inl rfl)).debit debits
    fun isFee => absurd isFee notFee
  exact consistent_of_finish atDebited drops refreshes

theorem consistent_sellCollateral (consistent : pool.book.Consistent none)
    (traded : sellCollateral terms amount limitPrice pool = .ok outcome pool')
    : pool'.book.Consistent none := by
  obtain ⟨_, _, _, _, _, _, settled, credited, debited, dropped, book', debtor, _, settles, credits,
    debits, drops, refreshes, rfl⟩ := sellCollateral_ok traded
  have notFee := ne_feeHolder_of_debtor consistent debtor
  have atSettled := (consistent.settle settles).loosen terms.caller
  have atDebited := (atSettled.credit credits (.inl rfl)).debit debits
    fun isFee => absurd isFee notFee
  exact consistent_of_finish atDebited drops refreshes

end Trades

theorem consistent_bookDeposit (consistent : pool.book.Consistent none) {amount : Nat}
    (booked : bookDeposit terms asset amount account pool = .ok () pool')
    : pool'.book.Consistent none := by
  obtain ⟨paid, credited, _, pays, credits, rfl⟩ := bookDeposit_ok booked
  exact (((consistent.payIn pays).loosen account).credit credits (.inl rfl)).reseat

/-- A deposit that opens a trade is the caller's own. -/
theorem depositOwner_ok {caller owner : AccountId} {leveraged : Nat}
    {requested : Option AccountId}
    (owned : depositOwner caller leveraged requested = .ok owner) (opens : leveraged ≠ 0)
    : owner = caller := by
  simp only [depositOwner] at owned
  split at owned
  · exact (Except.throw_eq_ok.mp owned).elim
  · next allowed =>
      obtain rfl := Except.pure_eq_ok.mp owned
      exact Decidable.byContradiction fun different => allowed ⟨different, .inl opens⟩

theorem consistent_deposit [Venue V] (consistent : pool.book.Consistent none)
    {amount leveraged : Nat} {limitPrice : Q96} {owner : Option AccountId}
    (deposited : deposit terms asset amount leveraged limitPrice owner pool = .ok outcome pool')
    (notFee : leveraged ≠ 0 → terms.caller ≠ .feeHolder)
    : pool'.book.Consistent none := by
  obtain ⟨account, middle, owned, booked, rest⟩ := deposit_ok deposited
  have atMiddle := consistent_bookDeposit consistent booked
  rcases rest with ⟨_, rfl⟩ | ⟨opens, trade, traded⟩
  · exact atMiddle
  · have isCaller := depositOwner_ok owned opens
    have notFee := isCaller ▸ notFee opens
    cases asset with
    | base => exact consistent_long atMiddle traded notFee
    | quote => exact consistent_short atMiddle traded notFee

theorem consistent_withdraw (consistent : pool.book.Consistent none) {amount : Nat}
    (withdrawn : withdraw terms asset amount pool = .ok outcome pool')
    : pool'.book.Consistent none := by
  obtain ⟨available, real, debited, paid, dropped, _, _, known, enough, debits, pays, drops, rfl⟩ :=
    withdraw_ok withdrawn
  have atDebited := (consistent.loosen terms.caller).debit debits
    fun _ => ⟨available, known, enough⟩
  exact (atDebited.payOut pays).reseat.dropIfEmpty drops

theorem consistent_takeOver (consistent : pool.book.Consistent none) {badAccount : AccountId}
    {quoteAmount baseAmount : Nat}
    (taken : takeOver terms badAccount quoteAmount baseAmount pool = .ok outcome pool')
    (notFee : terms.caller ≠ .feeHolder)
    : pool'.book.Consistent none := by
  obtain ⟨bad, debtAsset, quotePaid, basePaid, quoteCredited, baseCredited, book', _, unstarted,
    found, owes, paysQuote, paysBase, creditsQuote, creditsBase, refreshes, rfl⟩ :=
    takeOver_ok taken
  have atPaid := ((consistent.handOver found owes unstarted notFee).payIn paysQuote).payIn paysBase
  have atCredited :=
    ((atPaid.loosen terms.caller).credit creditsQuote (.inl rfl)).credit creditsBase
    (.inl rfl)
  exact atCredited.reseat.refreshLeverage refreshes

theorem consistent_freeze (consistent : pool.book.Consistent none)
    (frozen : freeze terms asset pool = .ok () pool')
    : pool'.book.Consistent none := by
  obtain ⟨_, _, rfl⟩ := freeze_ok frozen
  exact consistent.of_same (fun _ => rfl) rfl (fun _ => rfl) (fun _ => rfl)

theorem consistent_emergencyWithdraw (consistent : pool.book.Consistent none)
    (withdrawn : emergencyWithdraw account pool = .ok outcome pool')
    : pool'.book.Consistent none := by
  obtain ⟨_, _, _, _, _, _, _, _, _, _, _, removes, paysBase, paysQuote, _, rfl⟩ :=
    emergencyWithdraw_eq_ok.mp withdrawn
  exact ((consistent.removePosition removes).payOut paysBase).payOut paysQuote

-----
-- Margin calls and what they do with losses
-----

theorem consistent_placeShortfall (consistent : pool.book.Consistent none) {shortfall kept : Nat}
    (placed : placeShortfall terms asset shortfall kept pool = .ok () pool')
    : pool'.book.Consistent none := by
  obtain ⟨_, _, ⟨_, _, charged⟩ | charged⟩ := placeShortfall_ok placed
  · obtain ⟨raised, _, relieved, book', raises, _, relieves, shares, rfl⟩ :=
      chargeCounterparties_ok charged
    exact ((consistent.chargeBorrowers raises).relieveDebt relieves).shareAmongLenders shares
  · obtain ⟨shared, shares, ⟨_, frozen⟩ | ⟨_, book', raises, rfl⟩⟩ := chargeSameSide_ok charged
    · exact consistent_freeze (consistent.shareAmongLenders shares) frozen
    · exact (consistent.shareAmongLenders shares).raiseDebt raises

section Calls

variable [Venue V]

theorem consistent_sellSeized (consistent : pool.book.Consistent none) {seized : Nat}
    {proceeds : Option Nat}
    (sold : sellSeized terms asset seized pool = .ok proceeds pool')
    : pool'.book.Consistent none := by
  rcases sellSeized_ok sold with
    ⟨_, _, rfl⟩ | ⟨_, venue, rfl⟩ | ⟨_, _, _, settled, _, settles, _, rfl⟩
  · exact consistent
  · exact consistent
  · exact consistent.settle settles

theorem consistent_marginCall (consistent : pool.book.Consistent none)
    (called : marginCall terms account pool = .ok () pool')
    : pool'.book.Consistent none := by
  obtain ⟨position, debtAsset, seized, debt, removed, proceeds, sold, shared, _, _, _, _, _,
    removes, sells, sharing, placing⟩ := marginCall_ok called
  have atSold : sold.book.Consistent none :=
    consistent_sellSeized (by exact consistent.removePosition removes) sells
  have atShared : shared.Consistent none := by
    rcases sharing with ⟨_, shares⟩ | ⟨_, rfl⟩
    · exact atSold.shareAmongLenders shares
    · exact atSold
  rcases placing with ⟨_, placed⟩ | ⟨_, rfl⟩
  · exact consistent_placeShortfall (by exact atShared) placed
  · exact atShared

/-- A chain of margin calls keeps the book consistent, by induction on the chain. -/
theorem Liquidation.consistent {calls : List (Pool V × Pool V)}
    (chain : Liquidation terms pool calls pool') (consistent : pool.book.Consistent none)
    : pool'.book.Consistent none := by
  induction chain with
  | done => exact consistent
  | call _ called _ ih => exact ih (consistent_marginCall consistent called)
  | refresh refreshed _ ih => exact ih (consistent.refreshLeverage refreshed)

theorem Updates.consistent {calls : List (Pool V × Pool V)}
    (updates : Updates terms pool calls pool') (consistent : pool.book.Consistent none)
    : pool'.book.Consistent none := by
  cases updates with
  | current => exact consistent
  | accrued accrues chain => exact chain.consistent (consistent.accrue accrues)

/-- An operation keeps the book consistent; the fee holder may only ask for those that move
collateral.
-/
theorem consistent_operate (consistent : pool.book.Consistent none) {call : Call}
    (operated : operate terms call pool = .ok outcome pool')
    (allowed : terms.caller = .feeHolder → call.allowedForFeeHolder)
    : pool'.book.Consistent none := by
  cases call with
  | depositBase amount longAmount limitPrice owner =>
      refine consistent_deposit consistent operated fun opens isFee => opens ?_
      exact beq_iff_eq.mp (allowed isFee)
  | depositQuote amount shortAmount limitPrice owner =>
      refine consistent_deposit consistent operated fun opens isFee => opens ?_
      exact beq_iff_eq.mp (allowed isFee)
  | withdrawBase amount unwrap => exact consistent_withdraw consistent operated
  | withdrawQuote amount unwrap => exact consistent_withdraw consistent operated
  | short amount limitPrice =>
      exact consistent_short consistent operated fun isFee => nomatch allowed isFee
  | long amount limitPrice =>
      exact consistent_long consistent operated fun isFee => nomatch allowed isFee
  | closePosition limitPrice => exact consistent_closePosition consistent operated
  | sellCollateral amount limitPrice => exact consistent_sellCollateral consistent operated
  | reinit =>
      obtain ⟨_, rfl⟩ := reinit_ok operated
      exact consistent
  | receivePosition badAccount quoteAmount baseAmount =>
      exact consistent_takeOver consistent operated fun isFee => nomatch allowed isFee
  | emergencyWithdraw unwrap => exact (EStateM.throw_eq_ok.mp operated).elim

end Calls

end Operations

end Pool

end MarginLending
