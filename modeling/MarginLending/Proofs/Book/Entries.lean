import MarginLending.Proofs.Book.Changes

/-!
A call that goes through takes its book from entry to entry. No entry freezes the book, and none
takes a balance out of range; those that only pay, or place a gain or a loss, leave every seat where
it is.
-/

namespace MarginLending

namespace Book

-----
-- Small fields, which no booking touches
-----

/-- The small fields of a book, as a book of nobody. -/
def settings (book : Book) : Book :=
  { book with ledgers := .both .new, heaps := .both .empty, positions := .empty, journal := none }

/-- Two books work alike or are frozen alike. -/
structure Steady (book book' : Book) : Prop where
  mode : book'.mode = book.mode
  snapshot : book'.snapshot = book.snapshot

theorem Steady.refl (book : Book) : book.Steady book := ⟨rfl, rfl⟩

theorem Steady.trans {first second third : Book} (before : first.Steady second)
    (after : second.Steady third)
    : first.Steady third :=
  ⟨after.mode.trans before.mode, after.snapshot.trans before.snapshot⟩

theorem steady_of_settings {book book' : Book} (same : book'.settings = book.settings)
    : book.Steady book' :=
  ⟨(congrArg Book.mode same :), (congrArg Book.snapshot same :)⟩

section Seats

variable (book : Book) (account : AccountId) (asset : Asset)

@[simp] theorem settings_setLedger (ledger : Ledger)
    : (book.setLedger asset ledger).settings = book.settings :=
  rfl

@[simp] theorem settings_setHeap (heap : LeverageHeap)
    : (book.setHeap asset heap).settings = book.settings :=
  rfl

@[simp] theorem settings_putPosition (position : Position)
    : (book.putPosition account position).settings = book.settings := by
  rw [putPosition_eq]
  rfl

@[simp] theorem settings_erasePosition : (book.erasePosition account).settings = book.settings := by
  rw [erasePosition_eq]
  rfl

@[simp] theorem settings_applyMove (move : Move)
    : (book.applyMove move).settings = book.settings := by
  unfold applyMove
  split
  · exact book.settings_putPosition ..
  · rfl

/-- Replayed moves set positions, by induction on the moves. -/
@[simp] theorem settings_foldl_applyMove (moves : List Move)
    : (moves.foldl applyMove book).settings = book.settings := by
  induction moves generalizing book with
  | nil => rfl
  | cons move rest ih => rw [List.foldl_cons, ih, settings_applyMove]

@[simp] theorem settings_applyUpdate {α : Type} (update : HeapUpdate α)
    : (book.applyUpdate asset update).settings = book.settings := by
  rw [applyUpdate, settings_foldl_applyMove, settings_setHeap]

@[simp] theorem settings_unseat (slot : Nat)
    : (book.unseat asset slot).settings = book.settings :=
  book.settings_applyUpdate ..

/-- Seating an account anew replaces heaps and sets slots, in each of its cases. -/
@[simp] theorem settings_reseat : (book.reseat account).settings = book.settings := by
  unfold reseat
  split
  · rfl
  · simp only
    split
    · split
      · exact book.settings_applyUpdate ..
      · rfl
    · split <;> split <;> simp

@[simp] theorem settings_handOver (bad : Position) (badAccount : AccountId)
    : (book.handOver bad badAccount account).settings = book.settings := by
  unfold handOver
  split <;> simp

@[simp] theorem settings_rebook (ledger otherLedger : Ledger) (holding otherHolding : Holding)
    : (book.rebook account asset ledger otherLedger holding otherHolding).settings
      = book.settings := by
  simp [rebook]

end Seats

section Actions

variable {book book' : Book} {account : AccountId} {asset : Asset} {real : Nat}

theorem settings_credit (credited : credit account asset real book = .ok () book')
    : book'.settings = book.settings := by
  rcases credit_ok credited with ⟨_, rfl⟩ | ⟨_, _, _, _, _, _, _, rfl⟩
  · rfl
  · exact book.settings_rebook ..

theorem settings_debit (debited : debit account asset real book = .ok () book')
    : book'.settings = book.settings := by
  rcases debit_ok debited with ⟨_, rfl⟩ | ⟨_, _, _, _, _, _, _, _, _, _, rfl⟩
  · rfl
  · exact book.settings_rebook ..

theorem settings_removePosition (removed : removePosition account book = .ok () book')
    : book'.settings = book.settings := by
  rcases removePosition_ok removed with ⟨_, rfl⟩ | ⟨_, base, quote, evicted, _, _, _, evicting, rfl⟩
  · rfl
  · rw [settings_erasePosition, evicting]
    split <;> simp

theorem Steady.removePosition (removed : removePosition account book = .ok () book')
    : book.Steady book' :=
  steady_of_settings (settings_removePosition removed)

end Actions

-----
-- Gains and losses are placed without moving a seat
-----

/-- A payment, or a gain or a loss spread over those who lend or owe an asset. -/
inductive Placement : Book → Book → Prop
  | payOut {book book' : Book} {asset : Asset} {amount : Nat}
      (paid : payOut asset amount book = .ok () book')
    : Placement book book'
  | payIn {book book' : Book} {asset : Asset} {amount : Nat}
      (paid : payIn asset amount book = .ok () book')
    : Placement book book'
  | share {book book' : Book} {asset : Asset} {amount : Nat}
      (shared : shareAmongLenders asset amount book = .ok () book')
    : Placement book book'
  | charge {book book' : Book} {asset : Asset} {shortfall owed : Nat}
      (charged : chargeBorrowers asset shortfall owed book = .ok () book')
    : Placement book book'
  | relieve {book book' : Book} {asset : Asset} {amount owed : Nat}
      (relieved : relieveDebt asset amount owed book = .ok () book')
    : Placement book book'
  | raise {book book' : Book} {asset : Asset} {shortfall owed : Nat}
      (raised : raiseDebt asset shortfall owed book = .ok () book')
    : Placement book book'

/-- A sequence of payments, gains and losses. -/
abbrev Placements : Book → Book → Prop := Relation.ReflTransGen Placement

section Placing

variable {book book' : Book}

/-- A settled order is two payments. -/
theorem Placements.settle {order : SwapOrder} {fill : Fill}
    (settled : settle order fill book = .ok () book')
    : book.Placements book' := by
  obtain ⟨middle, out, into⟩ := settle_ok settled
  exact .tail (.single (.payOut out)) (.payIn into)

/-- A placement credits the fee holder, or replaces a ledger and leaves its balance in range. -/
theorem Placement.credit_or_setLedger (placed : book.Placement book')
    : (∃ asset real, credit .feeHolder asset real book = .ok () book')
      ∨ ∃ asset ledger, book' = book.setLedger asset ledger
          ∧ ((book.ledger asset).balance < amountLimit → ledger.balance < amountLimit) := by
  have nothing : credit .feeHolder .base 0 book = .ok () book := rfl
  cases placed with
  | payOut paid =>
      obtain ⟨_, rfl⟩ := payOut_ok paid
      exact .inr ⟨_, _, rfl, Nat.lt_of_le_of_lt (Nat.sub_le ..)⟩
  | payIn paid =>
      obtain ⟨ledger, changed, rfl⟩ := modifyLedger_ok.mp paid
      simp only [Except.bind_eq_ok, Except.pure_eq_ok, Except.liftMath_eq_ok,
        Amount.add_eq_ok_iff] at changed
      obtain ⟨_, ⟨rfl, small⟩, rfl⟩ := changed
      exact .inr ⟨_, _, rfl, fun _ => small⟩
  | share shared =>
      rcases shareAmongLenders_ok shared with ⟨_, rfl⟩ | ⟨_, credited⟩ | ⟨_, _, _, _, rfl⟩
      · exact .inl ⟨_, _, nothing⟩
      · exact .inl ⟨_, _, credited⟩
      · exact .inr ⟨_, _, rfl, id⟩
  | charge charged =>
      obtain ⟨_, _, _, _, rfl⟩ := chargeBorrowers_ok charged
      exact .inr ⟨_, _, rfl, id⟩
  | relieve relieved =>
      rcases relieveDebt_ok relieved with ⟨_, rfl⟩ | ⟨_, _, _, _, rfl⟩
      · exact .inl ⟨_, _, nothing⟩
      · exact .inr ⟨_, _, rfl, id⟩
  | raise raised =>
      obtain ⟨_, _, _, _, rfl⟩ := raiseDebt_ok raised
      exact .inr ⟨_, _, rfl, id⟩

theorem Placement.settings (placed : book.Placement book') : book'.settings = book.settings := by
  rcases placed.credit_or_setLedger with ⟨_, _, credited⟩ | ⟨_, _, rfl, _⟩
  · exact settings_credit credited
  · rfl

theorem settings_settle {order : SwapOrder} {fill : Fill}
    (settled : settle order fill book = .ok () book')
    : book'.settings = book.settings := by
  obtain ⟨_, out, into⟩ := settle_ok settled
  exact (Placement.payIn into).settings.trans (Placement.payOut out).settings

theorem heaps_credit {account : AccountId} {asset : Asset} {real : Nat}
    (credited : credit account asset real book = .ok () book')
    : book'.heaps = book.heaps := by
  rcases credit_ok credited with ⟨_, rfl⟩ | ⟨_, _, _, _, _, paid, rebased, rfl⟩
  · rfl
  · exact (rebooked_rebook paid.exchanges.normalized rebased.exchanges).heaps

/-- Placements move no node, by induction on the sequence. -/
theorem Placements.heaps (placed : book.Placements book') : book'.heaps = book.heaps := by
  induction placed with
  | refl => rfl
  | tail _ last ih =>
      rcases last.credit_or_setLedger with ⟨_, _, credited⟩ | ⟨_, _, rfl, _⟩
      · exact (heaps_credit credited).trans ih
      · exact ih

end Placing

-----
-- Everything that a call does to a book short of freezing it
-----

/-- One action of a book that went through: a placement, a booking, a change of seats, or an update
of one of the small fields.
-/
inductive Entry : Book → Book → Prop
  | place {book book' : Book} (placed : Placement book book') : Entry book book'
  | credit {book book' : Book} {account : AccountId} {asset : Asset} {real : Nat}
      (credited : credit account asset real book = .ok () book')
    : Entry book book'
  | debit {book book' : Book} {account : AccountId} {asset : Asset} {real : Nat}
      (debited : debit account asset real book = .ok () book')
    : Entry book book'
  | reseat (book : Book) (account : AccountId) : Entry book (book.reseat account)
  | remove {book book' : Book} {account : AccountId}
      (removed : removePosition account book = .ok () book')
    : Entry book book'
  | handOver (book : Book) (bad : Position) (badAccount receiver : AccountId)
    : Entry book (book.handOver bad badAccount receiver)
  | refresh {book book' : Book} {price : Q96}
      (refreshed : refreshLeverage price book = .ok () book')
    : Entry book book'
  | grow {book book' : Book} {interestRate feeGrowth : Q96} {seconds : Nat} {asset : Asset}
      (accrued : accrueSide interestRate feeGrowth seconds asset book = .ok () book')
    : Entry book book'
  | stamp (book : Book) (time : Timestamp) : Entry book { book with lastAccrual := time }
  | parameters (book : Book) (parameters : Parameters) : Entry book { book with parameters }

/-- A sequence of entries. -/
abbrev Entries : Book → Book → Prop := Relation.ReflTransGen Entry

section Entering

variable {book book' : Book}

theorem Placements.entries (placed : book.Placements book') : book.Entries book' :=
  Relation.ReflTransGen.mono (fun _ _ => Entry.place) _ _ placed

theorem settings_accrueSide {interestRate feeGrowth : Q96} {seconds : Nat} {asset : Asset}
    (accrued : accrueSide interestRate feeGrowth seconds asset book = .ok () book')
    : book'.settings = book.settings := by
  rcases accrueSide_ok accrued with ⟨_, rfl⟩ | ⟨_, _, _, _, _, _, _, credited⟩
  · rfl
  · exact (settings_credit credited).trans (book.settings_setLedger ..)

/-- No entry freezes a book or touches its snapshot. -/
theorem Entry.steady (entry : book.Entry book') : book.Steady book' := by
  cases entry with
  | place placed => exact steady_of_settings placed.settings
  | credit credited => exact steady_of_settings (settings_credit credited)
  | debit debited => exact steady_of_settings (settings_debit debited)
  | reseat account => exact steady_of_settings (book.settings_reseat account)
  | remove removed => exact .removePosition removed
  | handOver => exact steady_of_settings (book.settings_handOver ..)
  | refresh refreshed =>
      obtain ⟨_, rfl⟩ := refreshLeverage_ok refreshed
      exact ⟨rfl, rfl⟩
  | grow accrued => exact steady_of_settings (settings_accrueSide accrued)
  | stamp time => exact ⟨rfl, rfl⟩
  | parameters parameters => exact ⟨rfl, rfl⟩

/-- Entries keep the mode, by induction on the sequence. -/
theorem Entries.steady (entries : book.Entries book') : book.Steady book' := by
  induction entries with
  | refl => exact .refl book
  | tail _ last ih => exact ih.trans last.steady

end Entering

-----
-- Balances stay in range
-----

/-- Both balances are amounts. -/
def Funded (book : Book) : Prop := ∀ asset, (book.ledger asset).balance < amountLimit

section Funding

variable {book book' : Book} {account : AccountId} {asset : Asset}

theorem funded_new (parameters : Parameters) (start : Timestamp)
    : (Book.new parameters start).Funded := by
  intro asset
  have ledger : (Book.new parameters start).ledger asset = .new := PerAsset.get_both _ _
  rw [ledger]
  decide

theorem Funded.of_balance (funded : book.Funded)
    (same : ∀ asset, (book'.ledger asset).balance = (book.ledger asset).balance)
    : book'.Funded :=
  fun asset => same asset ▸ funded asset

theorem Funded.setLedger (funded : book.Funded) {ledger : Ledger}
    (small : ledger.balance < amountLimit)
    : (book.setLedger asset ledger).Funded := by
  intro other
  rcases asset.eq_or_eq_other other with rfl | rfl
  · rwa [ledger_setLedger_same]
  · rw [ledger_setLedger_other]
    exact funded _

theorem Ledger.Exchanges.balance_eq {before after : Ledger} {old new : Holding}
    (exchanges : before.Exchanges after old new)
    : after.balance = before.balance := by
  rw [exchanges.rest]

/-- A booking moves no token. -/
theorem Rebooked.balance_eq {after : Position} (rebooked : book.Rebooked account after book')
    (asset : Asset)
    : (book'.ledger asset).balance = (book.ledger asset).balance :=
  Ledger.Exchanges.balance_eq (rebooked.booked asset)

theorem balance_credit {real : Nat} (credited : credit account asset real book = .ok () book')
    (side : Asset)
    : (book'.ledger side).balance = (book.ledger side).balance := by
  rcases credit_ok credited with ⟨_, rfl⟩ | ⟨_, _, _, _, _, paid, rebased, rfl⟩
  · rfl
  · exact (rebooked_rebook paid.exchanges.normalized rebased.exchanges).balance_eq side

theorem balance_debit {real : Nat} (debited : debit account asset real book = .ok () book')
    (side : Asset)
    : (book'.ledger side).balance = (book.ledger side).balance := by
  rcases debit_ok debited with ⟨_, rfl⟩ | ⟨_, _, _, _, _, _, _, taken, rebased, _, rfl⟩
  · rfl
  · exact (rebooked_rebook taken.exchanges.normalized rebased.exchanges).balance_eq side

theorem balance_removePosition (removed : removePosition account book = .ok () book')
    (side : Asset)
    : (book'.ledger side).balance = (book.ledger side).balance := by
  rcases removed_of_removePosition removed with ⟨_, rfl⟩ | ⟨_, _, gone⟩
  · rfl
  · exact Ledger.Exchanges.balance_eq (gone.exchanged side)

/-- Growth moves no token. -/
theorem balance_grow {ledger after : Ledger} {interestGrowth feeGrowth : Q96} {fee : Nat}
    (grown : ledger.grow interestGrowth feeGrowth = .ok (after, fee))
    : after.balance = ledger.balance := by
  have grown := grow_rest grown
  rw [grown]

/-- Every entry keeps the balances in range. -/
theorem Funded.entry (funded : book.Funded) (entry : book.Entry book') : book'.Funded := by
  cases entry with
  | place placed =>
      rcases placed.credit_or_setLedger with ⟨_, _, credited⟩ | ⟨_, _, rfl, small⟩
      · exact funded.of_balance (balance_credit credited)
      · exact funded.setLedger (small (funded _))
  | credit credited => exact funded.of_balance (balance_credit credited)
  | debit debited => exact funded.of_balance (balance_debit debited)
  | reseat account =>
      exact funded.of_balance fun side =>
        congrArg Ledger.balance ((book.reranked_reseat account).ledger side)
  | remove removed => exact funded.of_balance (balance_removePosition removed)
  | handOver => exact funded.of_balance fun side => congrArg Ledger.balance (ledger_handOver side)
  | refresh refreshed =>
      obtain ⟨_, rfl⟩ := refreshLeverage_ok refreshed
      exact funded
  | grow accrued =>
      rcases accrueSide_ok accrued with ⟨_, rfl⟩ | ⟨_, _, _, _, _, _, grown, credited⟩
      · exact funded
      · have small := balance_grow grown ▸ funded _
        exact (funded.setLedger small).of_balance (balance_credit credited)
  | stamp => exact funded
  | parameters => exact funded

/-- Entries keep the balances in range, by induction on the sequence. -/
theorem Funded.entries (funded : book.Funded) (entries : book.Entries book') : book'.Funded := by
  induction entries with
  | refl => exact funded
  | tail _ last ih => exact ih.entry last

end Funding

end Book

end MarginLending
