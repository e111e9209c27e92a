import MarginLending.Proofs.Book.Tokens
import MarginLending.Proofs.Pool.Backing
import MarginLending.Proofs.Pool.StoredLeverage

/-!
The limit on what the pool holds of an asset. A deposit, a short and a long look for room for what
they bring in, unless it does no more than repay the debt of the account it is booked to. A sale of
collateral and a takeover do not look, so that what they bring in can go beyond the limit.
-/

namespace MarginLending

/-- Which asset a call brings in on a book that is up to date, and for whom: a deposit without a
trade, a trade, a sale of collateral for the asset owed, and a takeover, which pays both assets into
the position of a bad account.
-/
inductive Call.BringsIn (caller : AccountId) (book : Book) : Call → Asset → AccountId → Prop
  | depositBase {amount : Nat} {limitPrice : Q96} {owner : Option AccountId}
    : BringsIn caller book (.depositBase amount 0 limitPrice owner) .base (owner.getD caller)
  | depositQuote {amount : Nat} {limitPrice : Q96} {owner : Option AccountId}
    : BringsIn caller book (.depositQuote amount 0 limitPrice owner) .quote (owner.getD caller)
  | short {amount : Nat} {limitPrice : Q96}
    : BringsIn caller book (.short amount limitPrice) .quote caller
  | long {amount : Nat} {limitPrice : Q96}
    : BringsIn caller book (.long amount limitPrice) .base caller
  | sellCollateral {amount : Nat} {limitPrice : Q96} {debtAsset : Asset}
      (debtor : Pool.requireDebtor book caller = .ok debtAsset)
    : BringsIn caller book (.sellCollateral amount limitPrice) debtAsset caller
  | receivePosition {badAccount : AccountId} {quoteAmount baseAmount : Nat} {asset : Asset}
    : BringsIn caller book (.receivePosition badAccount quoteAmount baseAmount) asset badAccount

/-- Whether a call looks for room for what it brings in. -/
def Call.looksForRoom : Call → Bool
  | .depositBase .. | .depositQuote .. | .short .. | .long .. => true
  | _ => false

namespace Book

/-- What the pool holds of an asset is worth no more than the limit. -/
def FitsLimit (book : Book) (asset : Asset) (price : Q96) : Prop :=
  ∃ value, valued asset price (book.ledger asset).balance = .ok value
    ∧ value ≤ book.parameters.quoteLimit

section Room

variable {book book' : Book} {account : AccountId} {asset : Asset} {price : Q96}
  {incoming debt : Nat}

/-- There is room for more than the debt if the balance with it is worth no more than the limit. -/
theorem requireRoom_ok (fits : book.requireRoom asset incoming debt price = .ok ())
    (more : debt < incoming)
    : ∃ value, valued asset price ((book.ledger asset).balance + incoming) = .ok value
        ∧ value ≤ book.parameters.quoteLimit := by
  unfold requireRoom at fits
  rw [if_neg (Nat.not_le_of_lt more)] at fits
  simp only [Except.bind_eq_ok, Except.liftMath_eq_ok, Amount.add_eq_ok_iff] at fits
  obtain ⟨_, ⟨rfl, _⟩, value, worth, fits⟩ := fits
  refine ⟨value, worth, ?_⟩
  split at fits
  · exact (Except.throw_eq_ok.mp fits).elim
  · next within => exact Nat.le_of_not_lt within

/-- The end of a trade moves no token. -/
theorem balance_finish {dropped : Book}
    (drops : dropIfEmpty account (book.reseat account) = .ok () dropped)
    (refreshes : refreshLeverage price dropped = .ok () book') (side : Asset)
    : (book'.ledger side).balance = (book.ledger side).balance := by
  rw [keepsBalances_refreshLeverage refreshes, keepsBalances_dropIfEmpty drops,
    (book.reranked_reseat account).ledger]

/-- A fill that settles enters its output. -/
theorem balance_settle {order : SwapOrder} {fill : Fill}
    (settled : settle order fill book = .ok () book')
    : (book'.ledger order.tokenIn.other).balance
      = (book.ledger order.tokenIn.other).balance + fill.amountOut := by
  have nets := nets_settle order fill settled order.tokenIn.other
  have gain : order.gain fill order.tokenIn.other = fill.amountOut := by
    unfold SwapOrder.gain SwapOrder.tokenOut
    rw [Pool.get_amountsIn, Pool.get_amountsIn, if_pos rfl, if_neg (Asset.other_ne _).symm]
    simp
  omega

end Room

end Book

namespace Pool

section Limits

variable {V : Type} {pool pool' : Pool V} {terms : Terms} {account : AccountId} {asset : Asset}
  {outcome : Outcome}

/-- An action found room for what it brought in of an asset for an account. -/
def FindsRoom (pool : Pool V) (asset : Asset) (account : AccountId) (price : Q96) (pool' : Pool V)
    : Prop :=
  ∃ debt incoming, pool.book.debtOf account asset = .ok debt
    ∧ pool.book.requireRoom asset incoming debt price = .ok ()
    ∧ (pool'.book.ledger asset).balance = (pool.book.ledger asset).balance + incoming

/-- What room was found for fits the limit, if it comes to more than the debt. -/
theorem FindsRoom.fits {price : Q96} {debt : Nat} (finds : FindsRoom pool asset account price pool')
    (parameters : pool'.book.parameters = pool.book.parameters)
    (owed : pool.book.debtOf account asset = .ok debt)
    (more : (pool.book.ledger asset).balance + debt < (pool'.book.ledger asset).balance)
    : pool'.book.FitsLimit asset price := by
  obtain ⟨known, incoming, owes, fits, balance⟩ := finds
  obtain rfl := Except.ok.inj (owed.symm.trans owes)
  obtain ⟨value, worth, within⟩ := Book.requireRoom_ok fits (by omega)
  refine ⟨value, ?_, ?_⟩
  · rw [balance]
    exact worth
  · rw [parameters]
    exact within

theorem findsRoom_bookDeposit {amount : Nat}
    (booked : bookDeposit terms asset amount account pool = .ok () pool')
    : FindsRoom pool asset account terms.price pool' := by
  obtain ⟨debt, paid, credited, _, owed, fits, pays, credits, rfl⟩ := bookDeposit_eq booked
  refine ⟨debt, amount, owed, fits, ?_⟩
  have enters := Book.nets_payIn asset amount pays asset
  simp only [get_amountsIn, if_true] at enters
  rw [book_recording, book_withBook, (credited.reranked_reseat account).ledger,
    Book.keepsBalances_credit credits]
  exact_mod_cast enters

/-- A deposit without a trade is booked to the account it names. -/
theorem findsRoom_deposit [Venue V] {amount : Nat} {limitPrice : Q96} {owner : Option AccountId}
    (deposited : deposit terms asset amount 0 limitPrice owner pool = .ok outcome pool')
    : FindsRoom pool asset (owner.getD terms.caller) terms.price pool' := by
  obtain ⟨account, middle, owned, booked, ⟨_, rfl⟩ | ⟨opens, _⟩⟩ := deposit_ok deposited
  · obtain rfl := depositOwner_eq owned
    exact findsRoom_bookDeposit booked
  · exact absurd rfl opens

variable [Venue V] {amount : Nat} {limitPrice : Q96}

theorem findsRoom_short (traded : short terms account amount limitPrice pool = .ok outcome pool')
    : FindsRoom pool .quote account terms.price pool' := by
  obtain ⟨quoteDebt, _, fill, _, _, _, _, _, _, _, _, owed, _, _, _, fits, settles, _, _, credits,
    pays, debits, drops, refreshes, _, rfl⟩ := short_eq traded
  refine ⟨quoteDebt, fill.amountOut, owed, fits, ?_⟩
  rw [book_recording, book_withBook, Book.balance_finish drops refreshes,
    Book.keepsBalances_debit debits, Book.keepsBalances_credit pays,
    Book.keepsBalances_credit credits]
  exact Book.balance_settle settles

theorem findsRoom_long (traded : long terms account amount limitPrice pool = .ok outcome pool')
    : FindsRoom pool .base account terms.price pool' := by
  obtain ⟨baseDebt, _, fill, _, _, _, _, _, _, _, _, _, owed, _, _, honoured, fits, settles, _, _,
    credits, debits, pays, drops, refreshes, _, rfl⟩ := long_eq traded
  refine ⟨baseDebt, amount, owed, fits, ?_⟩
  rw [book_recording, book_withBook, Book.balance_finish drops refreshes,
    Book.keepsBalances_credit pays, Book.keepsBalances_debit debits,
    Book.keepsBalances_credit credits]
  have settled := Book.balance_settle settles
  rwa [SwapOrder.amountOut_of_buyWith honoured] at settled

/-- Deposits without a trade, shorts and longs find room for what they bring in. -/
theorem findsRoom_operate {call : Call} (looks : call.looksForRoom)
    (brings : call.BringsIn terms.caller pool.book asset account)
    (operated : operate terms call pool = .ok outcome pool')
    : FindsRoom pool asset account terms.price pool' := by
  cases brings with
  | depositBase => exact findsRoom_deposit operated
  | depositQuote => exact findsRoom_deposit operated
  | short => exact findsRoom_short operated
  | long => exact findsRoom_long operated
  | sellCollateral => cases looks
  | receivePosition => cases looks

/-- What a call that went through brought in keeps to the limit. Once the pool was up to date, at
the price of the call, an asset of which it brought in more than the account owed is worth no more
than the limit.
-/
def KeepsLimit (pool : Pool V) (caller : AccountId) (call : Call) (pool' : Pool V) : Prop :=
  ∃ terms marginCalled middle, terms.caller = caller ∧ pool.price = .ok terms.price
    ∧ terms.now = pool.now
    ∧ bringUpToDate terms (pool.withBook pool.book.openJournal) = .ok marginCalled middle
    ∧ ∀ asset account debt, call.BringsIn caller middle.book asset account →
        middle.book.debtOf account asset = .ok debt →
        (middle.book.ledger asset).balance + debt < (pool'.book.ledger asset).balance →
          pool'.book.FitsLimit asset terms.price

/-- No deposit without a trade, no short and no long brings in more than the limit allows. -/
theorem incoming_keeps_limit (reachable : Reachable pool) {caller : AccountId} {call : Call}
    {route : Nat} (committed : executeRouted caller call route pool = .ok outcome pool')
    (looks : call.looksForRoom)
    : KeepsLimit pool caller call pool' := by
  obtain ⟨acted, acts, rfl⟩ := atomically_ok committed
  cases mode : pool.book.mode.isEmergency with
  | true =>
      obtain ⟨⟨unwrap, rfl⟩, _⟩ := dispatch_frozen (by exact mode) acts
      cases looks
  | false =>
      obtain ⟨_, ran⟩ := dispatch_regular (by exact mode) acts
      obtain ⟨terms, marginCalled, middle, ⟨rfl, quoted, _, now⟩, updated, ending⟩ :=
        runRegular_ok ran
      refine ⟨terms, marginCalled, middle, rfl, quoted, now, updated, ?_⟩
      intro asset account debt brings owed more
      rw [book_commit] at more ⊢
      rcases ending with ⟨_, _, rfl⟩ | ⟨_, _, operated⟩
      · exact absurd more (Nat.not_lt_of_le (Nat.le_add_right _ _))
      · obtain ⟨_, updates⟩ := bringUpToDate_ok updated
        have valid := (updates.storesWithin reachable.sound.valid).valid reachable.sound.valid
        have parameters := ((deals_operate operated).storesWithin valid).parameters
        exact (findsRoom_operate looks brings operated).fits parameters owed more

/-- In a pool that was up to date already, a call breaks the limit if it brought in more than the
account owed of an asset that is worth more than the limit after it.
-/
theorem not_keepsLimit {caller : AccountId} {call : Call} {price : Q96} {debt value : Nat}
    (current : pool.now.since pool.book.lastAccrual = 0) (quoted : pool.price = .ok price)
    (brings : call.BringsIn caller pool.book.openJournal asset account)
    (owed : pool.book.debtOf account asset = .ok debt)
    (more : (pool.book.ledger asset).balance + debt < (pool'.book.ledger asset).balance)
    (worth : Book.valued asset price (pool'.book.ledger asset).balance = .ok value)
    (beyond : pool'.book.parameters.quoteLimit < value)
    : ¬KeepsLimit pool caller call pool' := by
  rintro ⟨terms, marginCalled, middle, _, quotedTerms, now, updated, fits⟩
  obtain rfl := Except.ok.inj (quoted.symm.trans quotedTerms)
  -- nothing has accrued, so the call was judged on the book as it was
  obtain rfl : middle = pool.withBook pool.book.openJournal := by
    rcases bringUpToDate_accrues updated with ⟨_, rfl, _⟩ | ⟨book, _, accrues, _⟩
    · rfl
    · rcases Book.accrue_ok accrues with ⟨moved, _⟩ | ⟨_, _, later, _⟩
      · cases moved
      · rw [now] at later
        exact absurd current later
  obtain ⟨_, worth', within⟩ := fits asset account debt brings owed more
  obtain rfl := Except.ok.inj (worth.symm.trans worth')
  exact Nat.not_lt_of_le within beyond

end Limits

-----
-- Sales of collateral and takeovers
-----

/-- A short of 100 base in a pool with a limit of 2000, which holds 1400 base and 1600 quote after
it.
-/
def crowdedTrades : List (Command SimulatedVenue) :=
  [.setParameters ⟨1⟩ { Parameters.testnet with quoteLimit := 2000 },
    .executeCall ⟨10⟩ (.depositBase 1500 0 .zero none),
    .executeCall ⟨20⟩ (.depositQuote 1500 100 .zero none)]

/-- After the price rises to 16 the short owes as much as it holds. -/
def crowdedRise : List (Command SimulatedVenue) :=
  crowdedTrades ++ [.changeVenue { sample.venue with price := .ofNat 16 }]

/-- A further deposit that just fits. -/
theorem incoming_keeps_limit_crowded
    : KeepsLimit (sample.after crowdedTrades) ⟨10⟩ (.depositBase 600 0 .zero none)
        (endState
          (executeRouted ⟨10⟩ (.depositBase 600 0 .zero none) 0 (sample.after crowdedTrades)))
      ∧ ((endState (executeRouted ⟨10⟩ (.depositBase 600 0 .zero none) 0
          (sample.after crowdedTrades))).book.ledger .base).balance = 2000 := by
  have committed : executeRouted ⟨10⟩ (.depositBase 600 0 .zero none) 0 (sample.after crowdedTrades)
      = .ok ⟨⟨600, 0⟩, 0, false⟩ (endState (executeRouted ⟨10⟩ (.depositBase 600 0 .zero none) 0
          (sample.after crowdedTrades))) := by decide +kernel
  exact ⟨incoming_keeps_limit (reachable_sample.after crowdedTrades) committed rfl,
    by decide +kernel⟩

/-- The short sells its collateral for 1600 base against a debt of 100, which leaves 3000 base; and
after the rise somebody takes it over and pays 1000 quote into it, which leaves 2600.
-/
theorem sale_and_takeover_break_limit
    : (∃ pool pool' : Pool SimulatedVenue, Reachable pool ∧ pool.book.parameters.quoteLimit = 2000
        ∧ executeRouted ⟨20⟩ (.sellCollateral 1600 .zero) 0 pool
          = .ok ⟨⟨1600, 1600⟩, 0, false⟩ pool'
        ∧ (pool'.book.ledger .base).balance = 3000
        ∧ ¬KeepsLimit pool ⟨20⟩ (.sellCollateral 1600 .zero) pool')
      ∧ ∃ pool pool' : Pool SimulatedVenue, Reachable pool ∧ pool.book.parameters.quoteLimit = 2000
        ∧ executeRouted ⟨30⟩ (.receivePosition ⟨20⟩ 1000 0) 0 pool = .ok ⟨⟨0, 1000⟩, 1, false⟩ pool'
        ∧ (pool'.book.ledger .quote).balance = 2600
        ∧ ¬KeepsLimit pool ⟨30⟩ (.receivePosition ⟨20⟩ 1000 0) pool' := by
  constructor
  · refine ⟨sample.after crowdedTrades,
      endState (executeRouted ⟨20⟩ (.sellCollateral 1600 .zero) 0 (sample.after crowdedTrades)),
      reachable_sample.after _, by decide +kernel, by decide +kernel, by decide +kernel, ?_⟩
    have quoted : (sample.after crowdedTrades).price = .ok .one := by decide +kernel
    have debtor : requireDebtor (sample.after crowdedTrades).book.openJournal ⟨20⟩ = .ok .base := by
      decide +kernel
    have owed : (sample.after crowdedTrades).book.debtOf ⟨20⟩ .base = .ok 100 := by decide +kernel
    have worth : Book.valued .base .one 3000 = .ok 3000 := by decide +kernel
    exact not_keepsLimit (by decide +kernel) quoted (.sellCollateral debtor) owed
      (by decide +kernel) worth (by decide +kernel)
  · refine ⟨sample.after crowdedRise,
      endState (executeRouted ⟨30⟩ (.receivePosition ⟨20⟩ 1000 0) 0 (sample.after crowdedRise)),
      reachable_sample.after _, by decide +kernel, by decide +kernel, by decide +kernel, ?_⟩
    have quoted : (sample.after crowdedRise).price = .ok (.ofNat 16) := by decide +kernel
    have owed : (sample.after crowdedRise).book.debtOf ⟨20⟩ .quote = .ok 0 := by decide +kernel
    have worth : Book.valued .quote (.ofNat 16) 2600 = .ok 2600 := rfl
    exact not_keepsLimit (by decide +kernel) quoted .receivePosition owed (by decide +kernel)
      worth (by decide +kernel)

end Pool

end MarginLending
