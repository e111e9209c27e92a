import MarginLending.Proofs.Book.StoredLeverage
import MarginLending.Proofs.Pool.Calls
import MarginLending.Proofs.Pool.Runs

/-!
The stored leverage over a run. A command stores it, if it does, under the bound that it finds, so
that it stays within the bound until the administrator lowers that. Once lowered, the bound is kept
to again by the next trade, and by the next call after some time.
-/

namespace MarginLending

/-- Whether the operation of a call ends by storing the leverage, which every trade and takeover
does.
-/
def Call.storesLeverage : Call → Bool
  | .depositBase _ leveraged _ _ | .depositQuote _ leveraged _ _ => leveraged != 0
  | .short .. | .long .. | .closePosition .. | .sellCollateral .. | .receivePosition .. => true
  | .withdrawBase .. | .withdrawQuote .. | .reinit | .emergencyWithdraw .. => false

namespace Pool

section Storing

variable {V : Type} {pool pool' : Pool V} {terms : Terms} {caller account : AccountId}
  {asset : Asset} {outcome : Outcome} {limitPrice : Q96} {amount : Nat} {call : Call}

theorem storesWithin_freeze (froze : freeze terms asset pool = .ok () pool')
    : pool.book.StoresWithin pool'.book := by
  obtain ⟨_, _, rfl⟩ := freeze_ok froze
  exact ⟨rfl, .inl rfl⟩

variable [Venue V]

/-- A margin call stores no leverage. -/
theorem storesWithin_marginCall (called : marginCall terms account pool = .ok () pool')
    : pool.book.StoresWithin pool'.book := by
  obtain ⟨removed, removes, placed | ⟨_, middle, placed, froze⟩⟩ := placements_marginCall called
  · exact (Book.storesWithin_of_settings (Book.settings_removePosition removes)).trans
      placed.storesWithin
  · exact (Book.storesWithin_of_settings (Book.settings_removePosition removes)).trans
      (placed.storesWithin.trans (storesWithin_freeze froze))

/-- A chain of margin calls may store it at its end, by induction on the chain. -/
theorem Liquidation.storesWithin {calls : List (Pool V × Pool V)}
    (chain : Liquidation terms pool calls pool') (valid : pool.book.parameters.violation? = none)
    : pool.book.StoresWithin pool'.book := by
  induction chain with
  | done => exact .refl _
  | call _ called _ ih =>
      have first := storesWithin_marginCall called
      exact first.trans (ih (first.valid valid))
  | refresh refreshed _ ih =>
      have first := Book.storesWithin_refresh valid refreshed
      exact first.trans (ih (first.valid valid))

theorem Updates.storesWithin {calls : List (Pool V × Pool V)}
    (updates : Updates terms pool calls pool') (valid : pool.book.parameters.violation? = none)
    : pool.book.StoresWithin pool'.book := by
  cases updates with
  | current => exact .refl _
  | accrued accrues chain =>
      have accrual := (Book.storesWithin_accrue valid accrues).1
      exact accrual.trans (chain.storesWithin (accrual.valid valid))

/-- Once time has passed, the accrual stores the leverage, and what follows keeps it within the
bound.
-/
theorem within_bringUpToDate (valid : pool.book.parameters.violation? = none)
    (regular : pool.book.mode.isEmergency = false)
    (later : terms.now.since pool.book.lastAccrual ≠ 0) {marginCalled : Bool}
    (updated : bringUpToDate terms pool = .ok marginCalled pool')
    : pool'.book.LeverageWithin pool'.book.parameters.leverageBound := by
  rcases bringUpToDate_accrues updated with ⟨_, _, accrues⟩ | ⟨book, _, accrues, chain⟩
  · cases Book.accrue_later regular later accrues
  · obtain ⟨accrual, within⟩ := Book.storesWithin_accrue valid accrues
    exact (chain.storesWithin (accrual.valid valid)).within (within rfl)

-----
-- Trades and takeovers end by storing the leverage
-----

theorem within_short (valid : pool'.book.parameters.violation? = none)
    (traded : short terms account amount limitPrice pool = .ok outcome pool')
    : pool'.book.LeverageWithin pool'.book.parameters.leverageBound := by
  obtain ⟨_, _, _, _, _, _, _, _, _, _, _, _, _, _, _, _, _, _, _, _, refreshes, rfl⟩ :=
    short_ok traded
  exact Book.leverageWithin_refresh valid refreshes

theorem within_long (valid : pool'.book.parameters.violation? = none)
    (traded : long terms account amount limitPrice pool = .ok outcome pool')
    : pool'.book.LeverageWithin pool'.book.parameters.leverageBound := by
  obtain ⟨_, _, _, _, _, _, _, _, _, _, _, _, _, _, _, _, _, _, _, _, _, _, refreshes, rfl⟩ :=
    long_ok traded
  exact Book.leverageWithin_refresh valid refreshes

/-- The operation of a call that stores the leverage leaves it within the bound. -/
theorem within_operate (stores : call.storesLeverage)
    (valid : pool'.book.parameters.violation? = none)
    (operated : operate terms call pool = .ok outcome pool')
    : pool'.book.LeverageWithin pool'.book.parameters.leverageBound := by
  have ofDeposit : ∀ {asset amount leveraged limitPrice owner}, leveraged ≠ 0 →
      deposit terms asset amount leveraged limitPrice owner pool = .ok outcome pool' →
      pool'.book.LeverageWithin pool'.book.parameters.leverageBound := by
    intro asset amount leveraged limitPrice owner opens deposited
    obtain ⟨account, middle, _, _, ⟨opensNothing, _⟩ | ⟨_, trade, traded⟩⟩ := deposit_ok deposited
    · exact absurd opensNothing opens
    · cases asset with
      | base => exact within_long valid traded
      | quote => exact within_short valid traded
  cases call with
  | depositBase amount longAmount limitPrice owner =>
      exact ofDeposit (bne_iff_ne.mp stores) operated
  | depositQuote amount shortAmount limitPrice owner =>
      exact ofDeposit (bne_iff_ne.mp stores) operated
  | short amount limitPrice => exact within_short valid operated
  | long amount limitPrice => exact within_long valid operated
  | closePosition limitPrice =>
      obtain ⟨_, _, _, _, _, _, _, _, _, _, _, _, _, _, _, _, _, refreshes, rfl⟩ :=
        closePosition_ok operated
      exact Book.leverageWithin_refresh valid refreshes
  | sellCollateral amount limitPrice =>
      obtain ⟨_, _, _, _, _, _, _, _, _, _, _, _, _, _, _, _, _, refreshes, rfl⟩ :=
        sellCollateral_ok operated
      exact Book.leverageWithin_refresh valid refreshes
  | receivePosition badAccount quoteAmount baseAmount =>
      obtain ⟨_, _, _, _, _, _, _, _, _, _, _, _, _, _, _, refreshes, rfl⟩ := takeOver_ok operated
      exact Book.leverageWithin_refresh valid refreshes
  | withdrawBase | withdrawQuote | reinit | emergencyWithdraw => cases stores

-----
-- Commands store leverage under the bound that they find
-----

/-- What an entry point did left the leverage as it was, or within the bound that it found. -/
theorem Acts.leverage {calls : List (Pool V × Pool V)} (acts : Acts pool calls pool')
    (valid : pool.book.parameters.violation? = none)
    : pool'.book.leverage = pool.book.leverage
      ∨ pool'.book.LeverageWithin pool.book.parameters.leverageBound := by
  have ofStored : ∀ {book : Book}, pool.book.StoresWithin book →
      book.leverage = pool.book.leverage
        ∨ book.LeverageWithin pool.book.parameters.leverageBound := by
    intro book stored
    have stores := stored.leverage
    rwa [stored.parameters] at stores
  cases acts with
  | leave _ withdrawn =>
      have left : pool.book.Deals _ .feeHolder none pool'.book := deals_emergencyWithdraw withdrawn
      exact ofStored (left.storesWithin valid)
  | update _ _ updates => exact ofStored (updates.storesWithin valid)
  | operate _ _ updates _ operated =>
      have first := updates.storesWithin valid
      exact ofStored (first.trans ((deals_operate operated).storesWithin (first.valid valid)))
  | freeze _ updates froze =>
      exact ofStored ((updates.storesWithin valid).trans (storesWithin_freeze froze))
  | parameters accrues =>
      have accrual := ofStored (Book.storesWithin_accrue valid accrues).1
      exact accrual

theorem leverage_run (sound : pool.Sound) (command : Command V)
    : (endState (command.run pool)).book.leverage = pool.book.leverage
      ∨ (endState (command.run pool)).book.LeverageWithin pool.book.parameters.leverageBound := by
  cases result : command.run pool with
  | error error pool' =>
      left
      change pool'.book.leverage = _
      rw [run_error sound.idle result, book_withVenue]
  | ok value pool' =>
      rcases run_ok result with ⟨_, acted, acts, rfl⟩ | ⟨_, rfl⟩ | ⟨_, rfl⟩
      · change (Pool.commit acted).book.leverage = _
          ∨ Book.LeverageWithin (Pool.commit acted).book _
        rw [book_commit]
        exact acts.leverage sound.valid
      · exact .inl rfl
      · exact .inl rfl

end Storing

end Pool

/-- Whether a command stores the leverage of a pool under the bound that it leaves, once it goes
through: a call or a shutdown of a pool that works does so after some time, and a trade or a
takeover always.
-/
def Command.Stores {V : Type} (command : Command V) (pool : Pool V) : Prop :=
  pool.book.mode.isEmergency = false
    ∧ match command with
      | .execute .. | .executeCall .. =>
          pool.now.since pool.book.lastAccrual ≠ 0
            ∨ ∃ call, command.call? = some call ∧ call.storesLeverage
      | .shutDown _ => pool.now.since pool.book.lastAccrual ≠ 0
      | .setParameters .. | .setTime _ | .changeVenue _ => False

namespace Pool

section Running

variable {V : Type} [Venue V] {pool pool' : Pool V} {command : Command V} {cap wider : Q96}

/-- A call that accrues or trades leaves the leverage within the bound. -/
theorem within_dispatch {caller : AccountId} {call : Call} {route : Nat} {outcome : Outcome}
    (valid : pool.book.parameters.violation? = none) (regular : pool.book.mode.isEmergency = false)
    (stores : pool.now.since pool.book.lastAccrual ≠ 0 ∨ call.storesLeverage)
    (dispatched : dispatch caller call route pool = .ok outcome pool')
    : pool'.book.LeverageWithin pool'.book.parameters.leverageBound := by
  have written : Writes pool pool' := (steps_dispatch ..).of_ok dispatched
  have validAfter := written.book.valid valid
  obtain ⟨terms, marginCalled, middle, ⟨_, _, _, now⟩, updated, ending⟩ :=
    runRegular_ok (dispatch_regular regular dispatched).2
  rw [← now] at stores
  by_cases still : terms.now.since pool.book.lastAccrual = 0
  · obtain ⟨rfl, rfl⟩ := bringUpToDate_still still updated
    rcases ending with ⟨stopped, _, _⟩ | ⟨_, _, operated⟩
    · simp [regular] at stopped
    · exact within_operate (stores.resolve_left (not_not.mpr still)) validAfter operated
  · have within := within_bringUpToDate valid regular still updated
    rcases ending with ⟨_, _, rfl⟩ | ⟨_, _, operated⟩
    · exact within
    · have updates : Writes pool middle := (steps_bringUpToDate ..).of_ok updated
      exact ((deals_operate operated).storesWithin (updates.book.valid valid)).within within

/-- A shutdown that accrues leaves the leverage within the bound, too. -/
theorem within_shutDown {caller : AccountId} {mode : Mode}
    (valid : pool.book.parameters.violation? = none)
    (later : pool.now.since pool.book.lastAccrual ≠ 0)
    (shut : shutDown caller pool = .ok mode pool')
    : pool'.book.LeverageWithin pool'.book.parameters.leverageBound := by
  obtain ⟨regular, terms, _, middle, acted, ⟨_, _, _, now⟩, updated, freezes, rfl⟩ :=
    shutDown_ok shut
  rw [← now] at later
  have within := within_bringUpToDate (by exact valid) (by exact regular) (by exact later) updated
  rw [book_commit]
  rcases freezes with rfl | ⟨_, _, froze⟩
  · exact within
  · exact (storesWithin_freeze froze).within within

/-- A command that stores the leverage leaves it within the bound. -/
theorem within_of_stores (sound : pool.Sound) (stores : command.Stores pool)
    (went : command.run pool = .ok () pool')
    : pool'.book.LeverageWithin pool'.book.parameters.leverageBound := by
  obtain ⟨regular, stores⟩ := stores
  have ofDispatch : ∀ {caller call route outcome acted},
      (pool.now.since pool.book.lastAccrual ≠ 0 ∨ call.storesLeverage) →
      dispatch caller call route (pool.withBook pool.book.openJournal) = .ok outcome acted →
      acted.commit.book.LeverageWithin acted.commit.book.parameters.leverageBound := by
    intro caller call route outcome acted stores dispatched
    rw [book_commit]
    exact within_dispatch (by exact sound.valid) (by exact regular) (by exact stores) dispatched
  cases command with
  | execute caller request =>
      obtain ⟨_, _, executed, finished⟩ := EStateM.bind_eq_ok.mp went
      obtain ⟨_, rfl⟩ := EStateM.pure_eq_ok.mp finished
      obtain ⟨call, acted, turned, dispatched, rfl⟩ := execute_ok executed
      refine ofDispatch (stores.imp_right ?_) dispatched
      rintro ⟨other, calls, stores⟩
      rw [Command.call?, turned] at calls
      exact Option.some.inj calls ▸ stores
  | executeCall caller call =>
      obtain ⟨_, _, executed, finished⟩ := EStateM.bind_eq_ok.mp went
      obtain ⟨_, rfl⟩ := EStateM.pure_eq_ok.mp finished
      obtain ⟨acted, dispatched, rfl⟩ := executeCall_ok executed
      refine ofDispatch (stores.imp_right ?_) dispatched
      rintro ⟨other, calls, stores⟩
      exact Option.some.inj calls ▸ stores
  | shutDown caller =>
      obtain ⟨_, _, shut, finished⟩ := EStateM.bind_eq_ok.mp went
      obtain ⟨_, rfl⟩ := EStateM.pure_eq_ok.mp finished
      exact within_shutDown sound.valid stores shut
  | setParameters | setTime | changeVenue => exact stores.elim

/-- The bounds that the leverage of a pool may have been stored under are at most a cap: it is one
at the start, a command that stores it does so under the bound that it leaves, and any other command
may have done so under the bound that it found.
-/
inductive StoredUnder (cap : Q96) : Pool V → Prop
  | new {options : PoolOptions} {parameters : Parameters} {venue : V} {start : Timestamp}
      {pool : Pool V} (created : Pool.new options parameters venue start = .ok pool)
    : StoredUnder cap pool
  | stored {pool pool' : Pool V} {command : Command V} (before : Reachable pool)
      (stores : command.Stores pool) (went : command.run pool = .ok () pool')
      (within : pool'.book.parameters.leverageBound ≤ cap)
    : StoredUnder cap pool'
  | kept {pool : Pool V} (before : StoredUnder cap pool)
      (within : pool.book.parameters.leverageBound ≤ cap) (command : Command V)
    : StoredUnder cap (endState (command.run pool))

theorem StoredUnder.reachable (stored : StoredUnder cap pool) : Reachable pool := by
  induction stored with
  | new created => exact .new created
  | stored before _ went =>
      have next := before.run ‹Command V›
      rwa [went] at next
  | kept _ _ command ih => exact ih.run command

/-- What is at most a cap is at most a higher one, by induction on the run. -/
theorem StoredUnder.mono (stored : StoredUnder cap pool) (le : cap ≤ wider)
    : StoredUnder wider pool := by
  induction stored with
  | new created => exact .new created
  | stored before stores went within => exact .stored before stores went (Nat.le_trans within le)
  | kept _ within command ih => exact ih.kept (Nat.le_trans within le) command

/-- A command that does not lower the bound stores no leverage above it. -/
theorem StoredUnder.unlowered (stored : StoredUnder pool.book.parameters.leverageBound pool)
    (command : Command V)
    (unlowered : pool.book.parameters.leverageBound
      ≤ (endState (command.run pool)).book.parameters.leverageBound)
    : StoredUnder (endState (command.run pool)).book.parameters.leverageBound
        (endState (command.run pool)) :=
  (stored.mono unlowered).kept unlowered command

/-- In every reachable pool the stored leverage is one at least, by induction on the commands. -/
theorem Reachable.one_le_leverage (reachable : Reachable pool) (side : Asset)
    : .one ≤ pool.book.leverage.get side := by
  induction reachable with
  | new created =>
      rw [(new_ok created).2.1]
      cases side <;> exact Nat.le_refl _
  | run before command ih =>
      rcases leverage_run before.sound command with kept | within
      · rw [kept]
        exact ih
      · exact (within side).1

/-- The leverage of both sides is at most the bounds that it may have been stored under, by
induction on the run.
-/
theorem StoredUnder.leverage_le (stored : StoredUnder cap pool) (one : .one ≤ cap) (side : Asset)
    : pool.book.leverage.get side ≤ cap := by
  induction stored with
  | new created =>
      rw [(new_ok created).2.1]
      cases side <;> exact one
  | stored before stores went within =>
      exact Nat.le_trans (within_of_stores before.sound stores went side).2 within
  | kept before within command ih =>
      rcases leverage_run before.reachable.sound command with kept | anew
      · rw [kept]
        exact ih
      · exact Nat.le_trans (anew side).2 within

/-- In every reachable pool the stored leverage of each side is one at least. It is at most the
bound, too, unless the bound was lowered since a command stored it: more generally, it is at most
any cap that no bound was above which it may have been stored under.
-/
theorem stored_leverage_within_bound (reachable : Reachable pool) (side : Asset)
    : .one ≤ pool.book.leverage.get side
      ∧ (StoredUnder pool.book.parameters.leverageBound pool →
          pool.book.leverage.get side ≤ pool.book.parameters.leverageBound)
      ∧ ∀ cap, .one ≤ cap → StoredUnder cap pool → pool.book.leverage.get side ≤ cap := by
  have one := Parameters.one_le_leverageBound reachable.sound.valid
  exact ⟨reachable.one_le_leverage side, fun stored => stored.leverage_le one side,
    fun _ one stored => stored.leverage_le one side⟩

end Running

/-- After a day a trader has the leverage stored, under the bound in force. -/
theorem storedUnder_sample
    : let pool := (sample.after sampleTrades).after [.executeCall ⟨20⟩ .reinit]
      StoredUnder pool.book.parameters.leverageBound pool := by
  intro pool
  have stores : (Command.executeCall (V := SimulatedVenue) ⟨20⟩ .reinit).Stores
      (sample.after sampleTrades) := by
    refine ⟨?_, .inl ?_⟩ <;> decide +kernel
  have went : (Command.executeCall ⟨20⟩ .reinit).run (sample.after sampleTrades) = .ok () pool := by
    decide +kernel
  exact .stored (reachable_sample.after sampleTrades) stores went (Nat.le_refl _)

/-- The leverage of the shorts is then below two, and below the bound. -/
theorem stored_leverage_within_bound_sample
    : let pool := (sample.after sampleTrades).after [.executeCall ⟨20⟩ .reinit]
      StoredUnder pool.book.parameters.leverageBound pool
        ∧ .one ≤ pool.book.leverage.get .base
        ∧ pool.book.leverage.get .base ≤ pool.book.parameters.leverageBound
        ∧ pool.book.leverage.get .base < .ofNat 2 := by
  intro pool
  have stored : StoredUnder pool.book.parameters.leverageBound pool := storedUnder_sample
  obtain ⟨one, within, _⟩ := stored_leverage_within_bound stored.reachable .base
  exact ⟨stored, one, within stored, by decide +kernel⟩

/-- A lender lends base, a trader goes short at a leverage of ten, and the administrator lowers the
bound to five.
-/
def loweredBound : List (Command SimulatedVenue) :=
  [.executeCall ⟨10⟩ (.depositBase 10000 0 .zero none),
    .executeCall ⟨20⟩ (.depositQuote 100 900 .zero none),
    .setParameters ⟨1⟩ { Parameters.testnet with maxLeverage := 5 }]

/-- The stored leverage is still ten. -/
theorem lowered_bound_leaves_leverage_above
    : ∃ pool : Pool SimulatedVenue, Reachable pool
        ∧ pool.book.parameters = { Parameters.testnet with maxLeverage := 5 }
        ∧ pool.book.leverage.get .base = .ofNat 10
        ∧ pool.book.parameters.leverageBound < pool.book.leverage.get .base := by
  refine ⟨sample.after loweredBound, reachable_sample.after loweredBound, ?_⟩
  decide +kernel

end Pool

end MarginLending
