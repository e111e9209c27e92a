import MarginLending.Proofs.Book.Debts
import MarginLending.Proofs.Pool.Calls
import MarginLending.Proofs.Pool.StoredLeverage

/-!
Who is put into debt. Bringing the pool up to date raises nobody's debt, and an operation raises
none but its caller's, who borrows by a short, a long, a leveraged deposit or a takeover.
Withdrawals stay within the collateral, and closing comes out within the bound or not at all; but a
sale of nearly all collateral with a loss charged on it may open a small debt in the asset that it
sold.
-/

namespace MarginLending

/-- Whether a call is an order to borrow. -/
def Call.borrows : Call → Bool
  | .depositBase _ leveraged _ _ | .depositQuote _ leveraged _ _ => leveraged != 0
  | .short .. | .long .. | .receivePosition .. => true
  | .withdrawBase .. | .withdrawQuote .. | .closePosition .. | .sellCollateral .. | .reinit
  | .emergencyWithdraw .. => false

theorem AccountId.exists_other (account : AccountId) : ∃ other : AccountId, other ≠ account := by
  refine ⟨⟨account.number + 1⟩, fun same => ?_⟩
  have number := congrArg AccountId.number same
  simp at number

/-- Nothing that happens in the course of a call raises a debt of anybody but its caller, by
induction on what happens.
-/
theorem Book.Changes.owesNoMore {caller owner account : AccountId} {book book' : Book}
    (changes : book.Changes caller owner book') (notCaller : caller ≠ account)
    : book.OwesNoMore account book' := by
  induction changes with
  | refl => exact .refl book
  | tail _ last ih =>
      cases last with
      | deed done => exact ih.trans (done.owesNoMore notCaller)
      | freeze mode snapshot => exact ih.trans (owesNoMore_of_positions rfl)

/-- Nor does what happens between the opening of the journals and the commit. -/
theorem Book.owesNoMore_commit {caller owner account : AccountId} {book acted : Book}
    (changes : book.openJournal.Changes caller owner acted) (notCaller : caller ≠ account)
    : book.OwesNoMore account acted.commit := by
  have opened : book.OwesNoMore account book.openJournal := owesNoMore_of_positions rfl
  have committed : acted.OwesNoMore account acted.commit := owesNoMore_of_positions rfl
  exact (opened.trans (changes.owesNoMore notCaller)).trans committed

namespace Pool

section Operations

variable {V : Type} {pool pool' : Pool V} {terms : Terms} {account : AccountId} {asset : Asset}
  {outcome : Outcome} {limitPrice : Q96} {amount : Nat}

/-- A debtor owes the asset that its kind says. -/
theorem owes_of_debtor {book : Book} (debtor : requireDebtor book account = .ok asset)
    : book.discountedDebtOf account asset ≠ 0 := by
  unfold requireDebtor Book.kindOf at debtor
  unfold Book.discountedDebtOf Book.positionOf
  cases found : book.position? account with
  | none =>
      simp only [found] at debtor
      cases debtor
  | some position =>
      simp only [found] at debtor
      have owes : position.kind.debtAsset? = some asset := by
        cases kind : position.kind <;> rw [kind] at debtor <;> cases debtor <;> rfl
      exact Nat.ne_of_gt (Position.debtAmount_pos_of_debtAsset? owes)

/-- Once an order is settled a debtor owes what it did, and nothing in the other asset. -/
theorem debts_of_debtor (consistent : pool.book.Consistent none) {settled : Book}
    (debtor : requireDebtor pool.book account = .ok asset.other)
    (moved : pool.book.Isolates (fun _ => False) settled)
    : settled.discountedDebtOf account asset = 0
      ∧ settled.discountedDebtOf account asset.other ≠ 0 := by
  have owed := owes_of_debtor debtor
  rw [moved.discountedDebtOf, moved.discountedDebtOf]
  exact ⟨(consistent.positionOf_oneSided account asset).resolve_right owed, owed⟩

/-- A withdrawal takes no more than there is. -/
theorem owesNoMore_withdraw (withdrawn : withdraw terms asset amount pool = .ok outcome pool')
    : pool.book.OwesNoMore terms.caller pool'.book := by
  obtain ⟨available, real, debited, paid, dropped, _, _, known, enough, debits, pays, drops, rfl⟩ :=
    withdraw_ok withdrawn
  have atDebited := Book.owesNoMore_debit_available known enough debits
  have atPaid : pool.book.OwesNoMore terms.caller paid :=
    atDebited.trans (Book.owesNoMore_payOut pays)
  exact (atPaid.trans (paid.owesNoMore_reseat _)).trans (Book.owesNoMore_dropIfEmpty drops)

/-- A deposit repays debt of its owner. -/
theorem owesNoMore_bookDeposit {owner : AccountId}
    (booked : bookDeposit terms asset amount owner pool = .ok () pool')
    : pool.book.OwesNoMore account pool'.book := by
  obtain ⟨paid, credited, _, pays, credits, rfl⟩ := bookDeposit_ok booked
  have atPaid : pool.book.OwesNoMore account paid := Book.owesNoMore_payIn pays
  exact (atPaid.trans (Book.owesNoMore_credit credits)).trans (credited.owesNoMore_reseat owner)

theorem owesNoMore_emergencyWithdraw {caller : AccountId}
    (withdrawn : emergencyWithdraw caller pool = .ok outcome pool')
    : pool.book.OwesNoMore account pool'.book := by
  obtain ⟨_, _, _, _, removed, basePaid, quotePaid, _, _, _, _, removes, paysBase, paysQuote, _,
    rfl⟩ := emergencyWithdraw_eq_ok.mp withdrawn
  have atRemoved : pool.book.OwesNoMore account removed := Book.owesNoMore_removePosition removes
  exact (atRemoved.trans (Book.owesNoMore_payOut paysBase)).trans (Book.owesNoMore_payOut paysQuote)

variable [Venue V]

/-- Closing repays what is owed, and comes out within the bound. -/
theorem owesNoMore_closePosition (consistent : pool.book.Consistent none)
    (bounded : pool.book.parameters.leverageBound < .maximum)
    (closed : closePosition terms limitPrice pool = .ok outcome pool')
    : pool.book.OwesNoMore terms.caller pool'.book := by
  obtain ⟨debtAsset, debt, _, fill, _, _, settled, credited, debited, dropped, book', debtor, owes,
    _, settles, credits, debits, within, drops, refreshes, rfl⟩ := closePosition_eq closed
  obtain ⟨asset, rfl⟩ : ∃ asset : Asset, debtAsset = asset.other := ⟨_, debtAsset.other_other.symm⟩
  rw [Asset.other_other] at debits
  have moved : pool.book.Isolates (fun _ => False) settled := Book.isolates_settle settles
  obtain ⟨unowed, owed⟩ := debts_of_debtor consistent debtor moved
  have settings : (debited.reseat terms.caller).settings = pool.book.settings := by
    rw [Book.settings_reseat, Book.settings_debit debits, Book.settings_credit credits,
      Book.settings_settle settles]
  have parameters : (debited.reseat terms.caller).parameters = pool.book.parameters :=
    (congrArg Book.parameters settings :)
  rw [← parameters] at bounded
  rw [← moved.debtOf id] at owes
  have atSettled : pool.book.OwesNoMore terms.caller settled :=
    Book.owesNoMore_of_holdings (moved.holdings _ id)
  have atDebited := Book.owesNoMore_of_close unowed owed owes credits debits bounded within
  exact (atSettled.trans atDebited).trans (Book.owesNoMore_finish drops refreshes)

/-- A sale may open a debt in the asset that it sold out, and raises none otherwise. -/
theorem owesNoMore_or_sellsOut (consistent : pool.book.Consistent none)
    (traded : sellCollateral terms amount limitPrice pool = .ok outcome pool')
    : pool.book.OwesNoMore terms.caller pool'.book
      ∨ ∃ asset, pool.book.SellsOut terms.caller asset amount pool'.book := by
  obtain ⟨debtAsset, held, _, fill, _, _, settled, credited, debited, dropped, book', debtor, holds,
    _, settles, credits, debits, drops, refreshes, rfl⟩ := sellCollateral_eq traded
  obtain ⟨asset, rfl⟩ : ∃ asset : Asset, debtAsset = asset.other := ⟨_, debtAsset.other_other.symm⟩
  rw [Asset.other_other] at debits holds
  have moved : pool.book.Isolates (fun _ => False) settled := Book.isolates_settle settles
  obtain ⟨unowed, owed⟩ := debts_of_debtor consistent debtor moved
  rw [← moved.collateralOf id] at holds
  have finished := Book.owesNoMore_finish drops refreshes
  rcases Book.owesNoMore_or_sellsOut unowed owed holds credits debits with less | sells
  · have atSettled : pool.book.OwesNoMore terms.caller settled :=
      Book.owesNoMore_of_holdings (moved.holdings _ id)
    exact .inl ((atSettled.trans less).trans finished)
  · exact .inr ⟨asset, sells.extend moved finished⟩

/-- An operation that is no order to borrow raises no debt of its caller, unless it sells collateral
out.
-/
theorem owesNoMore_operate (consistent : pool.book.Consistent none)
    (bounded : pool.book.parameters.leverageBound < .maximum) {call : Call}
    (borrowsNothing : call.borrows = false) (operated : operate terms call pool = .ok outcome pool')
    : pool.book.OwesNoMore terms.caller pool'.book
      ∨ ∃ amount limitPrice asset, call = .sellCollateral amount limitPrice
          ∧ pool.book.SellsOut terms.caller asset amount pool'.book := by
  have ofDeposit : ∀ {asset amount leveraged limitPrice owner}, (leveraged != 0) = false →
      deposit terms asset amount leveraged limitPrice owner pool = .ok outcome pool' →
      pool.book.OwesNoMore terms.caller pool'.book := by
    intro asset amount leveraged limitPrice owner opensNothing deposited
    obtain ⟨account, middle, _, booked, ⟨_, rfl⟩ | ⟨opens, _⟩⟩ := deposit_ok deposited
    · exact owesNoMore_bookDeposit booked
    · simp [opens] at opensNothing
  cases call with
  | depositBase amount longAmount limitPrice owner => exact .inl (ofDeposit borrowsNothing operated)
  | depositQuote amount shortAmount limitPrice owner =>
      exact .inl (ofDeposit borrowsNothing operated)
  | withdrawBase amount unwrap => exact .inl (owesNoMore_withdraw operated)
  | withdrawQuote amount unwrap => exact .inl (owesNoMore_withdraw operated)
  | closePosition limitPrice => exact .inl (owesNoMore_closePosition consistent bounded operated)
  | sellCollateral amount limitPrice =>
      rcases owesNoMore_or_sellsOut consistent operated with less | ⟨asset, sells⟩
      · exact .inl less
      · exact .inr ⟨amount, limitPrice, asset, rfl, sells⟩
  | reinit =>
      obtain ⟨_, rfl⟩ := reinit_ok operated
      exact .inl (.refl _)
  | emergencyWithdraw unwrap => exact (EStateM.throw_eq_ok.mp operated).elim
  | short | long | receivePosition => cases borrowsNothing

end Operations

section Commands

variable {V : Type} [Venue V] {pool pool' : Pool V} {terms : Terms} {caller account : AccountId}
  {call : Call} {command : Command V} {asset : Asset}

/-- Bringing the pool up to date is nobody's order. -/
theorem Updates.owesNoMore {calls : List (Pool V × Pool V)}
    (updates : Updates terms pool calls pool')
    : pool.book.OwesNoMore account pool'.book := by
  obtain ⟨anyone, notAccount⟩ := account.exists_other
  have changes : pool.book.Changes anyone account pool'.book := updates.changes
  exact changes.owesNoMore notAccount

/-- A call that is no order to borrow raises no debt of its caller, unless it sells collateral out
once the pool is up to date.
-/
theorem owesNoMore_dispatch (consistent : pool.book.Consistent none)
    (valid : pool.book.parameters.violation? = none)
    (bounded : pool.book.parameters.leverageBound < .maximum) {route : Nat} {outcome : Outcome}
    (borrowsNothing : call.borrows = false)
    (dispatched : dispatch caller call route pool = .ok outcome pool')
    : pool.book.OwesNoMore caller pool'.book
      ∨ ∃ amount limitPrice terms calls current asset, call = .sellCollateral amount limitPrice
          ∧ Updates terms pool calls current
          ∧ current.book.SellsOut caller asset amount pool'.book := by
  cases mode : pool.book.mode.isEmergency with
  | true => exact .inl (owesNoMore_emergencyWithdraw (dispatch_frozen mode dispatched).2)
  | false =>
      obtain ⟨terms, _, current, ⟨rfl, _⟩, updated, ending⟩ :=
        runRegular_ok (dispatch_regular mode dispatched).2
      obtain ⟨calls, updates⟩ := bringUpToDate_ok updated
      rcases ending with ⟨_, _, rfl⟩ | ⟨_, _, operated⟩
      · exact .inl updates.owesNoMore
      · rw [← (updates.storesWithin valid).parameters] at bounded
        have debts :=
          owesNoMore_operate (updates.consistent consistent) bounded borrowsNothing operated
        rcases debts with less | ⟨amount, limitPrice, asset, sale, sells⟩
        · exact .inl (updates.owesNoMore.trans less)
        · exact .inr ⟨amount, limitPrice, terms, calls, current, asset, sale, updates, sells⟩

/-- A call that raises a debt of its caller is an order to borrow, or sells collateral out. -/
theorem order_of_dispatch (sound : pool.Sound)
    (bounded : pool.book.parameters.leverageBound < .maximum) {route : Nat} {outcome : Outcome}
    {acted : Pool V}
    (dispatched : dispatch caller call route (pool.withBook pool.book.openJournal)
      = .ok outcome acted)
    (grows : pool.book.discountedDebtOf caller asset
      < acted.commit.book.discountedDebtOf caller asset)
    : call.borrows
      ∨ ∃ amount limitPrice terms calls current, call = .sellCollateral amount limitPrice
          ∧ Updates terms (pool.withBook pool.book.openJournal) calls current
          ∧ current.book.SellsOut caller asset amount acted.commit.book := by
  have committed : acted.book.OwesNoMore caller acted.commit.book := by
    rw [book_commit]
    exact Book.owesNoMore_of_positions rfl
  cases borrows : call.borrows with
  | true => exact .inl rfl
  | false =>
      right
      rcases owesNoMore_dispatch sound.consistent.openJournal
        (by exact sound.valid) (by exact bounded)
        borrows dispatched with
        less | ⟨amount, limitPrice, terms, calls, current, sold, sale, updates, sells⟩
      · exact absurd grows (Nat.not_lt.mpr ((less.trans committed) asset))
      · have sells := sells.extend (.refl _) committed
        rcases sold.eq_or_eq_other asset with rfl | rfl
        · exact ⟨amount, limitPrice, terms, calls, current, sale, updates, sells⟩
        · rw [sells.repaid] at grows
          exact absurd grows (Nat.not_lt_zero _)

/-- In a reachable pool that bounds the leverage, a debt grows by an order of its own account only:
the command is a call of that account, which borrows, or sells so nearly all of the collateral
behind a debt that it repays, with a loss charged on it, that it opens a debt of little more than a
unit instead.
-/
theorem debt_grows_by_own_order (reachable : Reachable pool)
    (bounded : pool.book.parameters.leverageBound < .maximum) (command : Command V)
    (grows : pool.book.discountedDebtOf account asset
      < (endState (command.run pool)).book.discountedDebtOf account asset)
    : command.caller? = some account
      ∧ ∃ call, command.call? = some call
        ∧ (call.borrows
          ∨ ∃ amount limitPrice terms calls current, call = .sellCollateral amount limitPrice
              ∧ Updates terms (pool.withBook pool.book.openJournal) calls current
              ∧ current.book.SellsOut account asset amount (endState (command.run pool)).book) := by
  have sound := reachable.sound
  obtain ⟨anyone, notAccount⟩ := account.exists_other
  -- what is not done on behalf of the account raises none of its debts
  have unraised : ∀ {later : Book}, (∃ acted, pool.book.openJournal.Changes anyone account acted
      ∧ later = acted.commit) → pool.book.OwesNoMore account later := by
    rintro later ⟨acted, changes, rfl⟩
    exact Book.owesNoMore_commit changes notAccount
  rcases turn_of_run sound.idle command with
    same | ⟨caller, call, _, _, acted, called, calls, dispatched, ended⟩ | ⟨_, _, _, set⟩
    | ⟨_, _, _, shut⟩
  · rw [same] at grows
    exact absurd grows (Nat.lt_irrefl _)
  · rw [ended] at grows ⊢
    by_cases own : caller = account
    · subst own
      exact ⟨called, call, calls, order_of_dispatch sound bounded dispatched grows⟩
    · have less := Book.owesNoMore_commit (changes_dispatch dispatched) own
      rw [book_commit] at grows
      exact absurd grows (Nat.not_lt.mpr (less asset))
  · exact absurd grows (Nat.not_lt.mpr (unraised (changes_setParameters set) asset))
  · exact absurd grows (Nat.not_lt.mpr (unraised (changes_shutDown shut) asset))

end Commands

/-- After the lender's deposits the trader's leveraged deposit puts it into debt. -/
theorem debt_grows_by_own_order_sample
    : let pool := sample.after (sampleTrades.take 2)
      let command :=
        Command.executeCall (V := SimulatedVenue) ⟨20⟩ (.depositQuote 1000 2000 .zero none)
      pool.book.parameters.leverageBound < .maximum
        ∧ pool.book.discountedDebtOf ⟨20⟩ .base
          < (endState (command.run pool)).book.discountedDebtOf ⟨20⟩ .base
        ∧ command.caller? = some ⟨20⟩
        ∧ ∃ call, command.call? = some call ∧ call.borrows := by
  intro pool command
  have bounded : pool.book.parameters.leverageBound < .maximum := by decide +kernel
  have grows : pool.book.discountedDebtOf ⟨20⟩ .base
      < (endState (command.run pool)).book.discountedDebtOf ⟨20⟩ .base := by decide +kernel
  obtain ⟨own, call, calls, borrows | ⟨_, _, _, _, _, rfl, _⟩⟩ :=
    debt_grows_by_own_order (reachable_sample.after _) bounded command grows
  · exact ⟨bounded, grows, own, call, calls, borrows⟩
  · cases calls

/-- A trader's small short meets a large long whose loss, once the price of base has fallen, is
charged on the collateral of everybody who owes base.
-/
def chargedTrades : List (Command SimulatedVenue) :=
  [.executeCall ⟨10⟩ (.depositBase 100000 0 .zero none),
    .executeCall ⟨10⟩ (.depositQuote 10000 0 .zero none),
    .executeCall ⟨20⟩ (.depositQuote 1012 100 .zero none),
    .executeCall ⟨21⟩ (.depositBase 1000 10000 (.ofNat 10) none),
    .changeVenue ⟨⟨9 * Q96.unit / 10⟩, .zero, false, 0, false⟩,
    .setTime ⟨31536000⟩,
    .executeCall ⟨99⟩ .reinit]

/-- The trader owes base only, and selling all of its collateral repays it; but in the end it owes
quote against the base that it is left with.
-/
theorem sale_opens_debt
    : ∃ pool : Pool SimulatedVenue, Reachable pool
        ∧ pool.book.discountedDebtOf ⟨20⟩ .quote = 0
        ∧ pool.book.collateralOf ⟨20⟩ .quote = .ok 461
        ∧ (let later := endState ((Command.executeCall ⟨20⟩ (.sellCollateral 1000 .zero)).run pool)
          (Command.executeCall ⟨20⟩ (.sellCollateral 1000 .zero)).run pool = .ok () later
            ∧ later.book.discountedDebtOf ⟨20⟩ .base = 0
            ∧ later.book.discountedDebtOf ⟨20⟩ .quote = 1
            ∧ later.book.kindOf ⟨20⟩ = .long) := by
  refine ⟨sample.after chargedTrades, reachable_sample.after chargedTrades, ?_⟩
  decide +kernel

end Pool

end MarginLending
