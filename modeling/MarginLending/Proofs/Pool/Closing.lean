import MarginLending.Proofs.Pool.Trades

/-!
Closing a position. A debt is bought back by the whole amount that it comes to, so that nothing is
left of it and the account is a lender again, or nobody. But a debt that was written down to less
than one comes to nothing at all, and closing leaves it where it is.
-/

namespace MarginLending

namespace Book

/-- An account owes nothing, is a lender or nobody, and sits in neither heap. -/
structure Closed (account : AccountId) (book : Book) : Prop where
  unowed : ∀ side, book.discountedDebtOf account side = 0
  kind : book.kindOf account = .lend ∨ book.kindOf account = .uninitialized
  unseated : ∀ side, account ∉ (book.heap side).accounts

/-- In the end it is enough that an account owes nothing. -/
theorem Consistent.closed {book : Book} (consistent : book.Consistent none) {account : AccountId}
    (unowed : ∀ side, book.discountedDebtOf account side = 0)
    : book.Closed account := by
  have kind : (book.kindOf account).debtAsset? = none := by
    unfold kindOf
    unfold discountedDebtOf positionOf at unowed
    cases found : book.position? account with
    | none => rfl
    | some position =>
        rw [found] at unowed
        exact Position.debtAsset?_eq_none_iff.mpr unowed
  refine ⟨unowed, ?_, fun side seated => ?_⟩
  · cases known : book.kindOf account with
    | lend => exact .inl rfl
    | uninitialized => exact .inr rfl
    | short => rw [known] at kind; cases kind
    | long => rw [known] at kind; cases kind
  · rw [consistent.mem_iff_kindOf, ← PositionKind.debtAsset?_eq_some_iff, kind] at seated
    cases seated

end Book

namespace Pool

section Operations

variable {V : Type} [Venue V] {pool pool' : Pool V} {terms : Terms} {account : AccountId}
  {asset : Asset} {outcome : Outcome} {limitPrice : Q96}

/-- Closing ends both debts of its account if the one it closes comes to something, and neither of
them if not.
-/
theorem debts_of_closePosition (consistent : pool.book.Consistent none)
    (bounded : pool.book.parameters.leverageBound < .maximum)
    (closed : closePosition terms limitPrice pool = .ok outcome pool')
    : ∃ debtAsset debt, requireDebtor pool.book terms.caller = .ok debtAsset
        ∧ pool.book.debtOf terms.caller debtAsset = .ok debt
        ∧ (debt ≠ 0 → ∀ side, pool'.book.discountedDebtOf terms.caller side = 0)
        ∧ (debt = 0 → ∀ side,
            pool'.book.discountedDebtOf terms.caller side
              = pool.book.discountedDebtOf terms.caller side) := by
  have owesNoMore := owesNoMore_closePosition consistent bounded closed
  obtain ⟨debtAsset, debt, _, fill, _, _, settled, credited, debited, dropped, book', debtor, owes,
    _, settles, credits, debits, _, drops, refreshes, rfl⟩ := closePosition_eq closed
  have moved : pool.book.Isolates (fun _ => False) settled := Book.isolates_settle settles
  have finishes := Book.standsAlike_finish drops refreshes
  have debitBooks : credited.Books terms.caller debtAsset.other fill.amountIn debited := .inr debits
  have kept := debitBooks.discountedDebtOf_other
  rw [Asset.other_other] at kept
  -- the other asset was not owed before, and is not owed more than that
  have unowed : pool.book.discountedDebtOf terms.caller debtAsset.other = 0 := by
    have oneSided := consistent.positionOf_oneSided terms.caller debtAsset
    exact oneSided.resolve_left (owes_of_debtor debtor)
  have unowedAfter : book'.discountedDebtOf terms.caller debtAsset.other = 0 :=
    Nat.eq_zero_of_le_zero (unowed ▸ owesNoMore debtAsset.other)
  refine ⟨debtAsset, debt, debtor, owes, fun some side => ?_, fun nothing side => ?_⟩
  · rw [← moved.debtOf id] at owes
    rcases debtAsset.eq_or_eq_other side with rfl | rfl
    · rw [book_recording, book_withBook, finishes.debt, kept]
      exact Book.unowed_of_credit owes some (Nat.le_refl _) credits
    · exact unowedAfter
  · obtain ⟨_, rfl⟩ := (Book.holdings_of_credit credits).resolve_right fun some => some.1 nothing
    rcases debtAsset.eq_or_eq_other side with rfl | rfl
    · rw [book_recording, book_withBook, finishes.debt, kept, moved.discountedDebtOf]
    · exact unowedAfter.trans unowed.symm

end Operations

section Commands

variable {V : Type} [Venue V] {pool pool' : Pool V} {caller : AccountId}

/-- A closing went through: it closed the account if the debt came to something when the pool was up
to date, and left every debt as it was if it came to nothing.
-/
def ClosesThrough (pool' : Pool V) (terms : Terms) (middle : Pool V) : Prop :=
  ∃ debtAsset debt, requireDebtor middle.book terms.caller = .ok debtAsset
    ∧ middle.book.debtOf terms.caller debtAsset = .ok debt
    ∧ (pool'.book.Closed terms.caller ↔ debt ≠ 0)
    ∧ (debt = 0 → ∀ side,
        pool'.book.discountedDebtOf terms.caller side
          = middle.book.discountedDebtOf terms.caller side)

/-- In a reachable pool that bounds the leverage, a closing that is committed closes the account
exactly if its debt comes to a unit at least, unless it stopped.
-/
theorem closing_closes_unless_floored (reachable : Reachable pool)
    (bounded : pool.book.parameters.leverageBound < .maximum) {limitPrice : Q96} {route : Nat}
    {outcome : Outcome}
    (committed : executeRouted caller (.closePosition limitPrice) route pool = .ok outcome pool')
    : UnlessStopped pool caller route pool' (ClosesThrough pool') := by
  have consistent := (reachable.sound_of_executeRouted committed).consistent
  have notWayOut : ∀ unwrap, Call.closePosition limitPrice ≠ .emergencyWithdraw unwrap :=
    fun _ => nofun
  refine (unlessStopped_executeRouted notWayOut committed).imp ?_
  rintro terms middle rfl ⟨acted, calls, _, updates, operated, rfl⟩
  have sound := reachable.sound
  have parameters : middle.book.parameters = pool.book.parameters :=
    (updates.storesWithin sound.valid).parameters
  rw [← parameters] at bounded
  obtain ⟨debtAsset, debt, debtor, owes, ends, leaves⟩ :=
    debts_of_closePosition (updates.consistent sound.consistent.openJournal) bounded operated
  have sameDebts : ∀ side, acted.commit.book.discountedDebtOf terms.caller side
      = acted.book.discountedDebtOf terms.caller side := fun side => by rw [book_commit]; rfl
  refine ⟨debtAsset, debt, debtor, owes, ⟨fun closed nothing => ?_, fun some => ?_⟩,
    fun nothing side => ?_⟩
  · refine owes_of_debtor debtor ?_
    rw [← leaves nothing, ← sameDebts, closed.unowed]
  · exact consistent.closed fun side => (sameDebts side).trans (ends some side)
  · exact (sameDebts side).trans (leaves nothing side)

end Commands

/-- The short owes 2000 base and buys them back. -/
theorem closing_closes_unless_floored_sample
    : let pool := sample.after (sampleTrades.take 3)
      let closed := endState (executeRouted ⟨20⟩ (.closePosition .zero) 0 pool)
      pool.book.parameters.leverageBound < .maximum
        ∧ executeRouted ⟨20⟩ (.closePosition .zero) 0 pool = .ok ⟨⟨2000, 2000⟩, 0, false⟩ closed
        ∧ pool.book.kindOf ⟨20⟩ = .short ∧ closed.book.Closed ⟨20⟩ := by
  intro pool closed
  have bounded : pool.book.parameters.leverageBound < .maximum := by decide +kernel
  have committed : executeRouted ⟨20⟩ (.closePosition .zero) 0 pool
      = .ok ⟨⟨2000, 2000⟩, 0, false⟩ closed := by decide +kernel
  have still : pool.now.since pool.book.lastAccrual = 0 := by decide +kernel
  have regular : pool.book.mode.isEmergency = false := by decide +kernel
  have reachable : Reachable pool := reachable_sample.after _
  have known : requireDebtor pool.book.openJournal ⟨20⟩ = .ok .base
      ∧ pool.book.openJournal.debtOf ⟨20⟩ .base = .ok 2000 := by decide +kernel
  obtain ⟨terms, ⟨called, _⟩, debtAsset, debt, debtor, owes, closes, _⟩ :=
    (closing_closes_unless_floored reachable bounded committed).of_still still regular
  rw [book_withBook, called, known.1, Except.ok.injEq] at debtor
  rw [book_withBook, called, ← debtor, known.2, Except.ok.injEq] at owes
  rw [called, ← owes] at closes
  exact ⟨bounded, committed, by decide +kernel, closes.mpr (by decide)⟩

/-- Two longs whose debt is all but written down. The loss of a short that could not be sold
relieves everybody who owes quote, to less than a unit each.
-/
def relievedTrades : List (Command SimulatedVenue) :=
  [.executeCall ⟨10⟩ (.depositBase 100000 0 .zero none),
    .executeCall ⟨10⟩ (.depositQuote 100000 0 .zero none),
    .executeCall ⟨20⟩ (.depositBase 1000 1000 (.ofNat 10) none),
    .executeCall ⟨21⟩ (.depositBase 1000 1000 (.ofNat 10) none),
    .executeCall ⟨22⟩ (.depositQuote 500 3000 .zero none),
    .changeVenue ⟨⟨12 * Q96.unit / 10⟩, .zero, true, 0, false⟩,
    .setTime ⟨1⟩,
    .executeCall ⟨99⟩ .reinit,
    .changeVenue ⟨⟨12 * Q96.unit / 10⟩, .zero, false, 0, false⟩]

/-- Closing one of the longs is committed, and leaves it the long with the discounted debt that it
was.
-/
theorem closing_leaves_floored_debt
    : ∃ pool pool' : Pool SimulatedVenue, Reachable pool ∧ pool.now.since pool.book.lastAccrual = 0
        ∧ executeRouted ⟨20⟩ (.closePosition .zero) 0 pool = .ok ⟨⟨0, 0⟩, 1, false⟩ pool'
        ∧ (pool.book.mode.isEmergency = false ∧ pool'.book.mode.isEmergency = false)
        ∧ pool.book.debtOf ⟨20⟩ .quote = .ok 0
        ∧ pool'.book.discountedDebtOf ⟨20⟩ .quote = 1000
        ∧ pool'.book.kindOf ⟨20⟩ = .long
        ∧ ⟨20⟩ ∈ (pool'.book.heap .quote).accounts := by
  refine ⟨sample.after relievedTrades,
    endState (executeRouted ⟨20⟩ (.closePosition .zero) 0 (sample.after relievedTrades)),
    reachable_sample.after relievedTrades, ?_⟩
  decide +kernel

end Pool

end MarginLending
