import MarginLending.Proofs.Book.Deeds
import MarginLending.Proofs.Pool.Invariants

/-!
What calls do to the book, and for whom. An operation acts for its caller and for the owner of a
deposit; a margin call acts for nobody, since it seizes only positions that owe something. Between
the book before a call and the one after it lie actions of that kind, and freezes.
-/

namespace MarginLending

/-- The account that a call pays in for: the owner that a deposit names, else the caller. -/
def Call.payee (caller : AccountId) : Call → AccountId
  | .depositBase _ _ _ owner | .depositQuote _ _ _ owner => owner.getD caller
  | _ => caller

/-- The account whose position a call takes over, if it takes one over. -/
def Call.badAccount? : Call → Option AccountId
  | .receivePosition badAccount _ _ => some badAccount
  | _ => none

namespace Book

/-- What may become of a book in the course of a call: an action for the caller and the owner it
pays in for, or a freeze.
-/
inductive Change (caller owner : AccountId) : Book → Book → Prop
  | deed {book book' : Book} (done : Deed caller owner book book') : Change caller owner book book'
  | freeze (book : Book) (mode : Mode) (snapshot : Option Snapshot)
    : Change caller owner book { book with mode, snapshot }

/-- A sequence of actions and freezes. -/
abbrev Changes (caller owner : AccountId) : Book → Book → Prop :=
  Relation.ReflTransGen (Change caller owner)

theorem Deeds.changes {caller owner : AccountId} {book book' : Book}
    (deeds : book.Deeds caller owner book')
    : book.Changes caller owner book' :=
  Relation.ReflTransGen.mono (fun _ _ => Change.deed) _ _ deeds

end Book

namespace Pool

section Operations

variable {V : Type} {pool pool' : Pool V} {terms : Terms} {caller owner account : AccountId}
  {bad? : Option AccountId} {asset : Asset} {outcome : Outcome} {limitPrice : Q96}
  {amount leveraged : Nat}

/-- What is left of a deposit after it was checked belongs to the owner it names, else to the
caller.
-/
theorem depositOwner_eq {requested : Option AccountId}
    (owned : depositOwner caller leveraged requested = .ok owner)
    : owner = requested.getD caller := by
  simp only [depositOwner] at owned
  split at owned
  · exact (Except.throw_eq_ok.mp owned).elim
  · exact (Except.pure_eq_ok.mp owned).symm

/-- The booking of a deposit pays in for the account it is booked to. -/
theorem deals_bookDeposit (booked : bookDeposit terms asset amount owner pool = .ok () pool')
    : pool.book.Deals caller owner bad? pool'.book := by
  obtain ⟨paid, credited, _, pays, credits, rfl⟩ := bookDeposit_ok booked
  have atCredited : pool.book.Deals caller owner bad? credited :=
    .tail (.single (.payIn pays)) (.credit (.inr (.inl rfl)) credits)
  exact atCredited.tail (.reseat credited owner)

section Trades

variable [Venue V]

theorem deals_short (traded : short terms caller amount limitPrice pool = .ok outcome pool')
    : pool.book.Deals caller owner bad? pool'.book := by
  obtain ⟨_, _, _, _, _, _, settled, credited, paid, debited, dropped, book', _, _, settles, _,
    credits, pays, debits, drops, refreshes, rfl⟩ := short_ok traded
  have booked : pool.book.Deals caller owner bad? paid :=
    ((Book.Deals.settle settles).tail (.credit (.inl rfl) credits)).tail
      (.credit (.inr (.inr rfl)) pays)
  exact (booked.tail (.debit debits)).trans (Book.Deals.finish drops refreshes)

theorem deals_long (traded : long terms caller amount limitPrice pool = .ok outcome pool')
    : pool.book.Deals caller owner bad? pool'.book := by
  obtain ⟨_, _, _, _, _, _, _, _, settled, credited, debited, paid, dropped, book', _, settles, _,
    _, credits, debits, pays, drops, refreshes, rfl⟩ := long_ok traded
  have booked : pool.book.Deals caller owner bad? debited :=
    ((Book.Deals.settle settles).tail (.credit (.inl rfl) credits)).tail (.debit debits)
  exact (booked.tail (.credit (.inr (.inr rfl)) pays)).trans (Book.Deals.finish drops refreshes)

theorem deals_closePosition (closed : closePosition terms limitPrice pool = .ok outcome pool')
    : pool.book.Deals terms.caller owner bad? pool'.book := by
  obtain ⟨_, _, _, _, _, _, settled, credited, debited, dropped, book', _, _, settles, credits,
    debits, drops, refreshes, rfl⟩ := closePosition_ok closed
  have booked : pool.book.Deals terms.caller owner bad? credited :=
    (Book.Deals.settle settles).tail (.credit (.inl rfl) credits)
  exact (booked.tail (.debit debits)).trans (Book.Deals.finish drops refreshes)

theorem deals_sellCollateral
    (traded : sellCollateral terms amount limitPrice pool = .ok outcome pool')
    : pool.book.Deals terms.caller owner bad? pool'.book := by
  obtain ⟨_, _, _, _, _, _, settled, credited, debited, dropped, book', _, _, settles, credits,
    debits, drops, refreshes, rfl⟩ := sellCollateral_ok traded
  have booked : pool.book.Deals terms.caller owner bad? credited :=
    (Book.Deals.settle settles).tail (.credit (.inl rfl) credits)
  exact (booked.tail (.debit debits)).trans (Book.Deals.finish drops refreshes)

/-- A deposit pays in for its owner; a trade behind it is the caller's own. -/
theorem deals_deposit {requested : Option AccountId}
    (deposited : deposit terms asset amount leveraged limitPrice requested pool = .ok outcome pool')
    : pool.book.Deals terms.caller (requested.getD terms.caller) bad? pool'.book := by
  obtain ⟨account, middle, owned, booked, rest⟩ := deposit_ok deposited
  obtain rfl := depositOwner_eq owned
  have atMiddle : pool.book.Deals terms.caller (requested.getD terms.caller) bad? middle.book :=
    deals_bookDeposit booked
  rcases rest with ⟨_, rfl⟩ | ⟨opens, trade, traded⟩
  · exact atMiddle
  · rw [depositOwner_ok owned opens] at atMiddle traded ⊢
    cases asset with
    | base => exact atMiddle.trans (deals_long traded)
    | quote => exact atMiddle.trans (deals_short traded)

end Trades

theorem deals_withdraw (withdrawn : withdraw terms asset amount pool = .ok outcome pool')
    : pool.book.Deals terms.caller owner bad? pool'.book := by
  obtain ⟨available, real, debited, paid, dropped, _, _, _, _, debits, pays, drops, rfl⟩ :=
    withdraw_ok withdrawn
  have booked : pool.book.Deals terms.caller owner bad? paid :=
    .tail (.single (.debit debits)) (.payOut pays)
  exact (booked.tail (.reseat ..)).trans (Book.Deals.dropIfEmpty drops)

theorem deals_takeOver {badAccount : AccountId} {quoteAmount baseAmount : Nat}
    (taken : takeOver terms badAccount quoteAmount baseAmount pool = .ok outcome pool')
    : pool.book.Deals terms.caller owner (some badAccount) pool'.book := by
  obtain ⟨bad, debtAsset, quotePaid, basePaid, quoteCredited, baseCredited, book', _, _, found,
    owes, paysQuote, paysBase, creditsQuote, creditsBase, refreshes, rfl⟩ := takeOver_ok taken
  have paid : pool.book.Deals terms.caller owner (some badAccount) basePaid :=
    .tail (.tail (.single (.takeOver rfl found owes)) (.payIn paysQuote)) (.payIn paysBase)
  have credited := (paid.tail (.credit (.inl rfl) creditsQuote)).tail
    (.credit (.inl rfl) creditsBase)
  exact (credited.tail (.reseat ..)).tail (.refresh refreshes)

/-- An operation acts for its caller and the account it pays in for, and on the one it takes over.
-/
theorem deals_operate [Venue V] {call : Call}
    (operated : operate terms call pool = .ok outcome pool')
    : pool.book.Deals terms.caller (call.payee terms.caller) call.badAccount? pool'.book := by
  cases call with
  | depositBase amount longAmount limitPrice owner => exact deals_deposit operated
  | depositQuote amount shortAmount limitPrice owner => exact deals_deposit operated
  | withdrawBase amount unwrap => exact deals_withdraw operated
  | withdrawQuote amount unwrap => exact deals_withdraw operated
  | short amount limitPrice => exact deals_short operated
  | long amount limitPrice => exact deals_long operated
  | closePosition limitPrice => exact deals_closePosition operated
  | sellCollateral amount limitPrice => exact deals_sellCollateral operated
  | reinit =>
      obtain ⟨_, rfl⟩ := reinit_ok operated
      exact .refl
  | receivePosition badAccount quoteAmount baseAmount => exact deals_takeOver operated
  | emergencyWithdraw unwrap => exact (EStateM.throw_eq_ok.mp operated).elim

theorem deeds_operate [Venue V] {call : Call}
    (operated : operate terms call pool = .ok outcome pool')
    : pool.book.Deeds terms.caller (call.payee terms.caller) pool'.book :=
  (deals_operate operated).deeds

theorem deals_emergencyWithdraw
    (withdrawn : emergencyWithdraw caller pool = .ok outcome pool')
    : pool.book.Deals caller owner bad? pool'.book := by
  obtain ⟨_, _, _, _, _, _, _, _, _, _, _, removes, paysBase, paysQuote, _, rfl⟩ :=
    emergencyWithdraw_eq_ok.mp withdrawn
  exact ((Relation.ReflTransGen.single (.drop removes)).tail (.payOut paysBase)).tail
    (.payOut paysQuote)

theorem deeds_emergencyWithdraw
    (withdrawn : emergencyWithdraw caller pool = .ok outcome pool')
    : pool.book.Deeds caller owner pool'.book :=
  have deals : pool.book.Deals caller owner none pool'.book := deals_emergencyWithdraw withdrawn
  deals.deeds

end Operations

-----
-- Margin calls act for nobody
-----

section Calls

variable {V : Type} {pool pool' : Pool V} {terms : Terms} {caller owner account : AccountId}
  {asset : Asset} {shortfall kept : Nat}

theorem changes_freeze (froze : freeze terms asset pool = .ok () pool')
    : pool.book.Changes caller owner pool'.book := by
  obtain ⟨_, _, rfl⟩ := freeze_ok froze
  exact .single (.freeze ..)

/-- The kept collateral writes off less than all of the counterparties' debt. -/
theorem deeds_chargeCounterparties
    (charged : chargeCounterparties asset shortfall kept pool = .ok () pool')
    : pool.book.Deeds caller owner pool'.book := by
  obtain ⟨raised, debt, relieved, book', raises, owes, relieves, shares, rfl⟩ :=
    chargeCounterparties_ok charged
  rw [← Book.discountedDebt_chargeBorrowers raises] at relieves
  have atRelieved : raised.Deeds caller owner relieved :=
    .single (.relieve owes (Nat.min_le_right ..) relieves)
  exact (Relation.ReflTransGen.head (.charge raises) atRelieved).tail (.share shares)

theorem changes_chargeSameSide
    (charged : chargeSameSide terms asset shortfall kept pool = .ok () pool')
    : pool.book.Changes caller owner pool'.book := by
  obtain ⟨shared, shares, ending⟩ := chargeSameSide_ok charged
  have atShared : pool.book.Changes caller owner shared := .single (.deed (.share shares))
  rcases ending with ⟨_, froze⟩ | ⟨_, book', raises, rfl⟩
  · exact atShared.trans (changes_freeze froze)
  · exact atShared.tail (.deed (.raise raises))

theorem changes_placeShortfall
    (placed : placeShortfall terms asset shortfall kept pool = .ok () pool')
    : pool.book.Changes caller owner pool'.book := by
  obtain ⟨_, _, ⟨_, _, charged⟩ | charged⟩ := placeShortfall_ok placed
  · exact (deeds_chargeCounterparties charged).changes
  · exact changes_chargeSameSide charged

variable [Venue V]

theorem deeds_sellSeized {seized : Nat} {proceeds : Option Nat}
    (sold : sellSeized terms asset seized pool = .ok proceeds pool')
    : pool.book.Deeds caller owner pool'.book := by
  rcases sellSeized_ok sold with ⟨_, _, rfl⟩ | ⟨_, _, rfl⟩ | ⟨_, _, _, _, _, settles, _, rfl⟩
  · exact .refl
  · exact .refl
  · have settling : pool.book.Deals caller owner none _ := Book.Deals.settle settles
    exact settling.deeds

/-- A margin call seizes a position that owes something and places what it brings. -/
theorem changes_marginCall (called : marginCall terms account pool = .ok () pool')
    : pool.book.Changes caller owner pool'.book := by
  obtain ⟨position, debtAsset, seized, debt, removed, proceeds, sold, shared, _, found, owes, _, _,
    removes, sells, sharing, placing⟩ := marginCall_ok called
  have atSold : removed.Deeds caller owner sold.book := deeds_sellSeized sells
  have atShared : removed.Deeds caller owner shared := by
    rcases sharing with ⟨_, shares⟩ | ⟨_, rfl⟩
    · exact atSold.tail (.share shares)
    · exact atSold
  have seizes : pool.book.Changes caller owner shared :=
    (Book.Deeds.changes atShared).head (.deed (.seize found owes removes))
  rcases placing with ⟨_, placed⟩ | ⟨_, rfl⟩
  · exact seizes.trans (changes_placeShortfall placed)
  · exact seizes

/-- A chain of margin calls acts for nobody, by induction on the chain. -/
theorem Liquidation.changes {calls : List (Pool V × Pool V)}
    (chain : Liquidation terms pool calls pool')
    : pool.book.Changes caller owner pool'.book := by
  induction chain with
  | done => exact .refl
  | call _ called _ ih => exact (changes_marginCall called).trans ih
  | refresh refreshed _ ih => exact .head (.deed (.refresh refreshed)) ih

theorem Updates.changes {calls : List (Pool V × Pool V)} (updates : Updates terms pool calls pool')
    : pool.book.Changes caller owner pool'.book := by
  cases updates with
  | current => exact .refl
  | accrued accrues chain =>
      exact (Book.Deeds.changes (Book.Deeds.accrue accrues)).trans chain.changes

theorem changes_bringUpToDate {marginCalled : Bool}
    (updated : bringUpToDate terms pool = .ok marginCalled pool')
    : pool.book.Changes caller owner pool'.book := by
  obtain ⟨_, updates⟩ := bringUpToDate_ok updated
  exact updates.changes

end Calls

-----
-- Whole calls act for their caller and for the account they pay in for
-----

section Commands

variable {V : Type} [Venue V] {pool pool' : Pool V} {caller anyone owner : AccountId} {call : Call}
  {route : Nat} {outcome : Outcome}

theorem changes_dispatch (dispatched : dispatch caller call route pool = .ok outcome pool')
    : pool.book.Changes caller (call.payee caller) pool'.book := by
  cases mode : pool.book.mode.isEmergency with
  | true => exact (deeds_emergencyWithdraw (dispatch_frozen mode dispatched).2).changes
  | false =>
      obtain ⟨terms, _, middle, ⟨rfl, _⟩, updated, ending⟩ :=
        runRegular_ok (dispatch_regular mode dispatched).2
      rcases ending with ⟨_, _, rfl⟩ | ⟨_, _, operated⟩
      · exact changes_bringUpToDate updated
      · exact (changes_bringUpToDate updated).trans (deeds_operate operated).changes

/-- A shutdown acts for nobody, and so does a change of the parameters. -/
theorem changes_shutDown {mode : Mode} (shut : shutDown caller pool = .ok mode pool')
    : ∃ acted, pool.book.openJournal.Changes anyone owner acted ∧ pool'.book = acted.commit := by
  obtain ⟨_, terms, _, middle, acted, _, updated, freezes, rfl⟩ := shutDown_ok shut
  refine ⟨acted.book, ?_, book_commit acted⟩
  rcases freezes with rfl | ⟨_, _, froze⟩
  · exact changes_bringUpToDate updated
  · exact (changes_bringUpToDate updated).trans (changes_freeze froze)

theorem changes_setParameters {parameters : Parameters}
    (set : setParameters caller parameters pool = .ok () pool')
    : ∃ acted, pool.book.openJournal.Changes anyone owner acted ∧ pool'.book = acted.commit := by
  obtain ⟨_, _, accrued, payload, accrues, _, rfl⟩ := setParameters_ok set
  have sets : pool.book.openJournal.Deeds anyone owner { accrued with parameters } :=
    (Book.Deeds.accrue accrues).tail (.parameters ..)
  exact ⟨_, sets.changes, book_commit _⟩

end Commands

end Pool

/-- Who gives a command, unless it happens outside the pool. -/
def Command.caller? {V : Type} : Command V → Option AccountId
  | .execute caller _ | .executeCall caller _ | .setParameters caller _ | .shutDown caller =>
      some caller
  | .setTime _ | .changeVenue _ => none

/-- The call that a command makes, if it makes one. -/
def Command.call? {V : Type} : Command V → Option Call
  | .execute _ request => (Call.ofRequest request).toOption
  | .executeCall _ call => some call
  | .setParameters .. | .shutDown _ | .setTime _ | .changeVenue _ => none

namespace Pool

section Runs

variable {V : Type} [Venue V] {pool pool' : Pool V}

/-- What a command does to the book: nothing, as one that fails or happens outside it, or what a
call does that is dispatched between the opening of the journals and the commit, a change of the
parameters, or a shutdown.
-/
theorem turn_of_run (idle : pool.Idle) (command : Command V)
    : (endState (command.run pool)).book = pool.book
      ∨ (∃ caller call route outcome acted,
          command.caller? = some caller ∧ command.call? = some call
          ∧ dispatch caller call route (pool.withBook pool.book.openJournal) = .ok outcome acted
          ∧ endState (command.run pool) = acted.commit)
      ∨ (∃ caller parameters, command.caller? = some caller
          ∧ setParameters caller parameters pool = .ok () (endState (command.run pool)))
      ∨ (∃ caller mode, command.caller? = some caller
          ∧ shutDown caller pool = .ok mode (endState (command.run pool))) := by
  cases result : command.run pool with
  | error error pool' =>
      left
      change pool'.book = pool.book
      rw [run_error idle result, book_withVenue]
  | ok value pool' =>
      cases command with
      | execute caller request =>
          obtain ⟨outcome, _, executed, finished⟩ := EStateM.bind_eq_ok.mp result
          obtain ⟨_, rfl⟩ := EStateM.pure_eq_ok.mp finished
          obtain ⟨call, acted, turned, dispatched, ended⟩ := execute_ok executed
          have calls : (Command.execute (V := V) caller request).call? = some call := by
            rw [Command.call?, turned]
            rfl
          exact .inr (.inl ⟨caller, call, _, outcome, acted, rfl, calls, dispatched, ended⟩)
      | executeCall caller call =>
          obtain ⟨outcome, _, executed, finished⟩ := EStateM.bind_eq_ok.mp result
          obtain ⟨_, rfl⟩ := EStateM.pure_eq_ok.mp finished
          obtain ⟨acted, dispatched, ended⟩ := executeCall_ok executed
          exact .inr (.inl ⟨caller, call, _, outcome, acted, rfl, rfl, dispatched, ended⟩)
      | setParameters caller parameters =>
          exact .inr (.inr (.inl ⟨caller, parameters, rfl, result⟩))
      | shutDown caller =>
          obtain ⟨mode, _, shut, finished⟩ := EStateM.bind_eq_ok.mp result
          obtain ⟨_, rfl⟩ := EStateM.pure_eq_ok.mp finished
          exact .inr (.inr (.inr ⟨caller, mode, rfl, shut⟩))
      | setTime time =>
          obtain rfl := EStateM.modify_eq_ok.mp result
          exact .inl rfl
      | changeVenue venue =>
          obtain rfl := EStateM.modify_eq_ok.mp result
          exact .inl rfl

/-- A command leaves the book as it was, or acts on it for its caller and for somebody it pays in
for, between the opening of the journals and the commit.
-/
theorem changes_run (idle : pool.Idle) (command : Command V)
    : (endState (command.run pool)).book = pool.book
      ∨ ∃ caller owner acted, command.caller? = some caller
          ∧ pool.book.openJournal.Changes caller owner acted
          ∧ (endState (command.run pool)).book = acted.commit := by
  rcases turn_of_run idle command with
      same | ⟨caller, call, _, _, acted, called, _, dispatched, ended⟩
    | ⟨caller, _, called, set⟩ | ⟨caller, _, called, shut⟩
  · exact .inl same
  · rw [ended]
    exact .inr ⟨caller, _, acted.book, called, changes_dispatch dispatched, book_commit acted⟩
  · obtain ⟨acted, changes, committed⟩ := changes_setParameters set
    exact .inr ⟨caller, caller, acted, called, changes, committed⟩
  · obtain ⟨acted, changes, committed⟩ := changes_shutDown shut
    exact .inr ⟨caller, caller, acted, called, changes, committed⟩

end Runs

end Pool

end MarginLending
