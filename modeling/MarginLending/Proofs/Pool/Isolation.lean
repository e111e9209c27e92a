import MarginLending.Proofs.Book.Isolation
import MarginLending.Proofs.Pool.Calls
import MarginLending.Proofs.Pool.Lenders

/-!
Commands at an unmoved clock. As long as the clock has not passed the last accrual, nothing accrues
and nobody is liquidated, so that a command does no more than its own operation. It moves no
coefficient, leaves everybody that it does not involve what it had, and takes nothing from the fee
holder.
-/

namespace MarginLending

/-- A command involves the account that gives it, the owner that it pays in for, and the bad account
that it takes over.
-/
def Command.Involves {V : Type} (command : Command V) (account : AccountId) : Prop :=
  ∃ caller, command.caller? = some caller
    ∧ (account = caller
      ∨ ∃ call, command.call? = some call
          ∧ (account = call.payee caller ∨ call.badAccount? = some account))

/-- The parties of a command are those that it involves, and the fee holder. -/
def Command.Party {V : Type} (command : Command V) (account : AccountId) : Prop :=
  command.Involves account ∨ account = .feeHolder

/-- A command involves the parties of the call that it makes. -/
theorem Command.party_of_call {V : Type} {command : Command V} {caller account : AccountId}
    {call : Call} (called : command.caller? = some caller) (calls : command.call? = some call)
    (party : Book.Party caller (call.payee caller) call.badAccount? account)
    : command.Party account := by
  rcases party with isCaller | isOwner | isBad | isFee
  · exact .inl ⟨caller, called, .inl isCaller⟩
  · exact .inl ⟨caller, called, .inr ⟨call, calls, .inl isOwner⟩⟩
  · exact .inl ⟨caller, called, .inr ⟨call, calls, .inr isBad⟩⟩
  · exact .inr isFee

namespace Pool

section Isolation

variable {V : Type} [Venue V] {pool pool' : Pool V} {terms : Terms} {caller : AccountId}
  {party : AccountId → Prop}

/-- A call at an unmoved clock is its operation, or a way out. -/
theorem isolates_dispatch {call : Call} {route : Nat} {outcome : Outcome}
    (still : pool.now.since pool.book.lastAccrual = 0)
    (dispatched : dispatch caller call route pool = .ok outcome pool')
    : pool.book.Isolates (Book.Party caller (call.payee caller) call.badAccount?) pool'.book := by
  cases mode : pool.book.mode.isEmergency with
  | true => exact (deals_emergencyWithdraw (dispatch_frozen mode dispatched).2).isolates
  | false =>
      obtain ⟨terms, _, middle, ⟨rfl, _, _, now⟩, updated, ending⟩ :=
        runRegular_ok (dispatch_regular mode dispatched).2
      rw [← now] at still
      obtain ⟨_, rfl⟩ := bringUpToDate_still still updated
      rcases ending with ⟨_, _, rfl⟩ | ⟨_, _, operated⟩
      · exact .refl _
      · exact (deals_operate operated).isolates

/-- Opening the journals before a call and committing it reach nobody. -/
theorem isolates_commit {command : Command V} {call : Call} {route : Nat} {outcome : Outcome}
    {acted : Pool V} (still : pool.now.since pool.book.lastAccrual = 0)
    (called : command.caller? = some caller) (calls : command.call? = some call)
    (dispatched : dispatch caller call route (pool.withBook pool.book.openJournal)
      = .ok outcome acted)
    : pool.book.Isolates command.Party acted.commit.book := by
  have opened : pool.book.Isolates command.Party pool.book.openJournal :=
    Book.isolates_of_positions (fun _ => rfl) rfl
  have acts := (isolates_dispatch (by exact still) dispatched).mono fun _ =>
    Command.party_of_call called calls
  rw [book_commit]
  exact (opened.trans acts).trans (Book.isolates_of_positions (fun _ => rfl) rfl)

/-- A shutdown at an unmoved clock freezes the pool and does nothing else. -/
theorem isolates_shutDown {mode : Mode} (still : pool.now.since pool.book.lastAccrual = 0)
    (shut : shutDown caller pool = .ok mode pool')
    : pool.book.Isolates party pool'.book := by
  obtain ⟨_, terms, _, middle, acted, ⟨_, _, _, now⟩, updated, freezes, rfl⟩ := shutDown_ok shut
  rw [← now] at still
  obtain ⟨_, rfl⟩ := bringUpToDate_still (by exact still) updated
  rw [book_commit]
  rcases freezes with rfl | ⟨_, _, froze⟩
  · exact Book.isolates_of_positions (fun _ => rfl) rfl
  · obtain ⟨_, _, rfl⟩ := freeze_ok froze
    exact Book.isolates_of_positions (fun _ => rfl) rfl

theorem isolates_setParameters {parameters : Parameters}
    (still : pool.now.since pool.book.lastAccrual = 0)
    (set : setParameters caller parameters pool = .ok () pool')
    : pool.book.Isolates party pool'.book := by
  obtain ⟨_, _, accrued, payload, accrues, _, rfl⟩ := setParameters_ok set
  obtain rfl := Book.accrue_still (by exact still) accrues
  rw [book_commit]
  exact Book.isolates_of_positions (fun _ => rfl) rfl

/-- A command at an unmoved clock reaches its parties only, whether it goes through or fails. -/
theorem isolates_run (idle : pool.Idle) (still : pool.now.since pool.book.lastAccrual = 0)
    (command : Command V)
    : pool.book.Isolates command.Party (endState (command.run pool)).book := by
  rcases turn_of_run idle command with same | ⟨_, _, _, _, _, called, calls, dispatched, ended⟩
    | ⟨_, _, _, set⟩ | ⟨_, _, _, shut⟩
  · rw [same]
    exact .refl _
  · rw [ended]
    exact isolates_commit still called calls dispatched
  · exact isolates_setParameters still set
  · exact isolates_shutDown still shut

/-- In a reachable pool whose clock has not passed the last accrual, no command moves a coefficient,
whether it goes through or fails. Whoever it does not involve holds and owes what it did before,
down to the discounted amount, and the fee holder owes nothing and holds no less unless it gives the
command itself.
-/
theorem command_isolates_others (reachable : Reachable pool)
    (still : pool.now.since pool.book.lastAccrual = 0) (command : Command V)
    : let later := (endState (command.run pool)).book
      (∀ asset,
        (later.ledger asset).collateralCoeff = (pool.book.ledger asset).collateralCoeff
          ∧ (later.ledger asset).debtCoeff = (pool.book.ledger asset).debtCoeff
          ∧ (later.ledger asset).chargeCoeff = (pool.book.ledger asset).chargeCoeff
          ∧ (later.ledger asset).debtRelief = (pool.book.ledger asset).debtRelief)
        ∧ (∀ account, ¬command.Involves account → account ≠ .feeHolder →
            later.holdingsOf? account = pool.book.holdingsOf? account
              ∧ ∀ asset, later.realAmount account asset = pool.book.realAmount account asset
                ∧ later.collateralOf account asset = pool.book.collateralOf account asset
                ∧ later.debtOf account asset = pool.book.debtOf account asset)
        ∧ (command.caller? ≠ some .feeHolder →
            pool.book.OwesNothing .feeHolder ∧ later.OwesNothing .feeHolder
              ∧ ∀ asset, ((pool.book.positionOf .feeHolder).holding asset).collateralAmount
                ≤ ((later.positionOf .feeHolder).holding asset).collateralAmount) := by
  have sound := reachable.sound
  have isolates := isolates_run sound.idle still command
  refine ⟨?_, ?_, ?_⟩
  · intro asset
    have rates := isolates.rates asset
    exact ⟨(congrArg Ledger.collateralCoeff rates :), (congrArg Ledger.debtCoeff rates :),
      (congrArg Ledger.chargeCoeff rates :), (congrArg Ledger.debtRelief rates :)⟩
  · intro account uninvolved notFee
    have outside : ¬command.Party account := not_or.mpr ⟨uninvolved, notFee⟩
    exact ⟨isolates.holdings account outside, fun asset => ⟨isolates.realAmount outside asset,
      isolates.collateralOf outside asset, isolates.debtOf outside asset⟩⟩
  · intro notCaller
    have clear : pool.book.OwesNothing .feeHolder := by
      intro asset
      rcases pool.book.positionOf_cases .feeHolder with found | ⟨_, empty⟩
      · exact sound.consistent.feeHolderClear _ found asset
      · rw [empty]
        cases asset <;> rfl
    have spares := spares_run sound.idle notCaller clear
    exact ⟨clear, spares.clear, spares.held⟩

end Isolation

/-- A day's interest is booked, and then a trader adds to its short: it owes more, while the other
trader owes what it did, down to the unit.
-/
theorem command_isolates_others_sample
    : let pool := (sample.after sampleTrades).after [.executeCall ⟨10⟩ .reinit]
      let command :=
        Command.executeCall (V := SimulatedVenue) ⟨20⟩ (.depositQuote 500 100 .zero none)
      let later := (endState (command.run pool)).book
      pool.now.since pool.book.lastAccrual = 0 ∧ ¬command.Involves ⟨21⟩
        ∧ later.holdingsOf? ⟨21⟩ = pool.book.holdingsOf? ⟨21⟩
        ∧ later.debtOf ⟨21⟩ .base = pool.book.debtOf ⟨21⟩ .base
        ∧ pool.book.debtOf ⟨20⟩ .base ≠ later.debtOf ⟨20⟩ .base := by
  intro pool command later
  have still : pool.now.since pool.book.lastAccrual = 0 := by decide +kernel
  have uninvolved : ¬command.Involves ⟨21⟩ := by
    rintro ⟨caller, called, isCaller | ⟨call, calls, isOwner | isBad⟩⟩
    · subst isCaller
      cases called
    · cases called
      cases calls
      cases isOwner
    · cases calls
      cases isBad
  have reached : Reachable pool := (reachable_sample.after sampleTrades).after _
  obtain ⟨held, amounts⟩ :=
    (command_isolates_others reached still command).2.1 ⟨21⟩ uninvolved (by decide)
  refine ⟨still, uninvolved, held, (amounts .base).2.2, ?_⟩
  decide +kernel

end Pool

end MarginLending
