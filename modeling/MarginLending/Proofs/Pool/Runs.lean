import MarginLending.Proofs.Pool.Guarantees

/-!
Runs of a pool. A run keeps a record of each call that went through, with the pools around each of
its margin calls. Every reachable pool has a run. The runs of a simulated pool can be computed turn
by turn, and checked.
-/

namespace MarginLending

/-- What an entry point did that went through: the pool it found, the pools around each of its
margin calls, and the pool it left to be committed.
-/
structure CallRecord (V : Type) where
  found : Pool V
  marginCalls : List (Pool V × Pool V)
  acted : Pool V

namespace Pool

section Runs

variable {V : Type} [Venue V] {pool pool' : Pool V} {records : List (CallRecord V)}

/-- The pools that commands lead to from a new one, with a record of each call that went through,
the latest first.
-/
inductive Run : Pool V → List (CallRecord V) → Prop
  | new {options : PoolOptions} {parameters : Parameters} {venue : V} {start : Timestamp}
      {pool : Pool V} (created : Pool.new options parameters venue start = .ok pool)
    : Run pool []
  | committed {pool acted : Pool V} {records : List (CallRecord V)} {calls : List (Pool V × Pool V)}
      {command : Command V} (before : Run pool records)
      (acts : Acts (pool.withBook pool.book.openJournal) calls acted)
      (went : command.run pool = .ok () acted.commit)
    : Run acted.commit (⟨pool, calls, acted⟩ :: records)
  | failed {pool pool' : Pool V} {records : List (CallRecord V)} {command : Command V}
      {error : PoolError} (before : Run pool records)
      (fails : command.run pool = .error error pool')
    : Run pool' records
  | setTime {pool : Pool V} {records : List (CallRecord V)} (before : Run pool records)
      (time : Timestamp)
    : Run (pool.setTime time) records
  | changeVenue {pool : Pool V} {records : List (CallRecord V)} (before : Run pool records)
      (venue : V)
    : Run (pool.withVenue venue) records

/-- Runs lead to reachable pools, by induction on the run. -/
theorem Run.reachable (run : Run pool records) : Reachable pool := by
  induction run with
  | new created => exact .new created
  | committed _ _ went ih =>
      have next := ih.run ‹Command V›
      rwa [went] at next
  | failed _ fails ih =>
      have next := ih.run ‹Command V›
      rwa [fails] at next
  | setTime _ time ih => exact ih.run (.setTime time)
  | changeVenue _ venue ih => exact ih.run (.changeVenue venue)

/-- Whatever a command does continues a run. -/
theorem Run.continues (run : Run pool records) (command : Command V)
    : ∃ added, Run (endState (command.run pool)) (added ++ records) := by
  cases result : command.run pool with
  | ok value pool' =>
      rcases run_ok result with ⟨calls, acted, acts, rfl⟩ | ⟨time, rfl⟩ | ⟨venue, rfl⟩
      · exact ⟨[⟨pool, calls, acted⟩], .committed run acts result⟩
      · exact ⟨[], run.setTime time⟩
      · exact ⟨[], run.changeVenue venue⟩
  | error error pool' => exact ⟨[], run.failed result⟩

/-- Every reachable pool has a run, by induction on the commands. -/
theorem Reachable.exists_run (reachable : Reachable pool) : ∃ records, Run pool records := by
  induction reachable with
  | new created => exact ⟨[], .new created⟩
  | run _ command ih =>
      obtain ⟨records, run⟩ := ih
      obtain ⟨added, continued⟩ := run.continues command
      exact ⟨added ++ records, continued⟩

end Runs

end Pool

deriving instance DecidableEq for BookJournal
deriving instance DecidableEq for Book
deriving instance DecidableEq for PoolOptions
deriving instance DecidableEq for SimulatedVenue
deriving instance DecidableEq for Pool

instance decidableEqResult {ε σ α : Type} [DecidableEq ε] [DecidableEq σ] [DecidableEq α]
    : DecidableEq (EStateM.Result ε σ α)
  | .ok a s, .ok b t => decidable_of_iff (a = b ∧ s = t) (by simp)
  | .error e s, .error f t => decidable_of_iff (e = f ∧ s = t) (by simp)
  | .ok _ _, .error _ _ => .isFalse nofun
  | .error _ _, .ok _ _ => .isFalse nofun

/-- Running an action decides whether it goes through to a state. -/
instance decidableGoesTo {ε σ α : Type} [DecidableEq σ] (x : EStateM ε σ α) (s t : σ)
    : Decidable (∃ a, x s = .ok a t) :=
  match x s with
  | .ok _ u => decidable_of_iff (u = t) (by simp)
  | .error _ _ => .isFalse (by simp)

/-- Running a calculation decides what holds of its result. -/
instance decidableForallOk {ε α : Type} (x : Except ε α) (p : α → Prop) [DecidablePred p]
    : Decidable (∀ a, x = .ok a → p a) :=
  match x with
  | .ok a => decidable_of_iff (p a) (by simp)
  | .error _ => .isTrue (by simp)

namespace Pool

-----
-- Runs of a simulated pool, computed turn by turn
-----

/-- A pool with the records of the calls that led to it. -/
structure History where
  pool : Pool SimulatedVenue
  records : List (CallRecord SimulatedVenue)

/-- A turn of a computed run: a call when nothing is due, or one that does nothing but call the
margin of accounts first, or a new price, or a later time.
-/
inductive Turn where
  | call (caller : AccountId) (call : Call)
  | reinit (caller : AccountId) (accounts : List AccountId)
  | quote (price : Q96)
  | wait (time : Timestamp)

/-- The pools around the margin calls of accounts, one after the other, and the pool at the end. -/
def liquidate (terms : Terms) (pool : Pool SimulatedVenue)
    : List AccountId → List (Pool SimulatedVenue × Pool SimulatedVenue) × Pool SimulatedVenue
  | [] => ([], pool.withBook (endState (Book.refreshLeverage terms.price pool.book)))
  | account :: rest =>
      let called := endState (marginCall terms account pool)
      let (calls, last) := liquidate terms called rest
      ((pool, called) :: calls, last)

/-- Whether the margin calls of accounts go through. -/
def Liquidates (terms : Terms) (pool : Pool SimulatedVenue) : List AccountId → Prop
  | [] => Book.refreshLeverage terms.price pool.book
      = .ok () (endState (Book.refreshLeverage terms.price pool.book))
  | account :: rest =>
      let called := endState (marginCall terms account pool)
      pool.book.mode.isEmergency = false ∧ marginCall terms account pool = .ok () called
        ∧ Liquidates terms called rest

instance decidableLiquidates (terms : Terms) (pool : Pool SimulatedVenue)
    : (accounts : List AccountId) → Decidable (Liquidates terms pool accounts)
  | [] => inferInstanceAs (Decidable (_ = _))
  | account :: rest =>
      have := decidableLiquidates terms (endState (marginCall terms account pool)) rest
      inferInstanceAs (Decidable (_ ∧ _ ∧ _))

/-- Margin calls that go through are a chain, by induction on the accounts. -/
theorem liquidation_liquidate {terms : Terms} {pool : Pool SimulatedVenue}
    {accounts : List AccountId} (liquidates : Liquidates terms pool accounts)
    : Liquidation terms pool (liquidate terms pool accounts).1
        (liquidate terms pool accounts).2 := by
  induction accounts generalizing pool with
  | nil => exact .refresh liquidates (.done _)
  | cons account rest ih =>
      obtain ⟨regular, called, later⟩ := liquidates
      exact .call regular called (ih later)

namespace History

/-- The terms of a call now. -/
def terms (history : History) (caller : AccountId) : Terms :=
  ⟨caller, history.pool.venue.price, 0, history.pool.now⟩

/-- The pool with its journal open. -/
def opened (history : History) : Pool SimulatedVenue :=
  history.pool.withBook history.pool.book.openJournal

/-- What an accrual makes of the book. -/
def accrual (history : History) : EStateM.Result PoolError Book Bool :=
  Book.accrue history.pool.now history.pool.venue.price history.opened.book

/-- The pool after an accrual, which is reported. -/
def accrued (history : History) : Pool SimulatedVenue :=
  (history.opened.withBook (endState history.accrual)).recording
    (.reinit (history.pool.now.since history.pool.book.lastAccrual)
      (endState history.accrual).leverage)

/-- A history with one more record, committed. -/
def commit (history : History) (calls : List (Pool SimulatedVenue × Pool SimulatedVenue))
    (acted : Pool SimulatedVenue) : History :=
  ⟨acted.commit, ⟨history.pool, calls, acted⟩ :: history.records⟩

/-- A history after one more turn. -/
def turn (history : History) : Turn → History
  | .call caller call =>
      history.commit [] (endState (operate (history.terms caller) call history.opened))
  | .reinit caller accounts =>
      let (calls, acted) := liquidate (history.terms caller) history.accrued accounts
      history.commit calls acted
  | .quote price =>
      { history with pool := history.pool.withVenue { history.pool.venue with price } }
  | .wait time => { history with pool := history.pool.setTime time }

/-- Whether a turn goes through. -/
def Allows (history : History) : Turn → Prop
  | .call caller call =>
      history.pool.book.mode.isEmergency = false ∧ caller ≠ .feeHolder
        ∧ (∃ outcome, operate (history.terms caller) call history.opened
            = .ok outcome (endState (operate (history.terms caller) call history.opened)))
        ∧ (Command.executeCall caller call).run history.pool
          = .ok () (history.turn (.call caller call)).pool
  | .reinit caller accounts =>
      history.pool.book.mode.isEmergency = false
        ∧ history.accrual = .ok true (endState history.accrual)
        ∧ Liquidates (history.terms caller) history.accrued accounts
        ∧ (Command.executeCall caller .reinit).run history.pool
          = .ok () (history.turn (.reinit caller accounts)).pool
  | .quote _ => True
  | .wait _ => True

instance (history : History) (turn : Turn) : Decidable (history.Allows turn) :=
  match turn with
  | .call _ _ => inferInstanceAs (Decidable (_ ∧ _ ∧ _ ∧ _))
  | .reinit _ _ => inferInstanceAs (Decidable (_ ∧ _ ∧ _ ∧ _))
  | .quote _ => .isTrue trivial
  | .wait _ => .isTrue trivial

/-- A turn that goes through continues a run. -/
theorem run_turn {history : History} {turn : Turn} (run : Run history.pool history.records)
    (allows : history.Allows turn)
    : Run (history.turn turn).pool (history.turn turn).records := by
  cases turn with
  | call caller call =>
      obtain ⟨regular, named, ⟨outcome, operated⟩, went⟩ := allows
      exact .committed run
        (.operate regular rfl .current (fun isFee => absurd isFee named) operated) went
  | reinit caller accounts =>
      obtain ⟨regular, accrues, liquidates, went⟩ := allows
      have now : (history.terms caller).now = history.opened.now := rfl
      exact .committed run
        (.update regular now (.accrued accrues (liquidation_liquidate liquidates))) went
  | quote price => exact .changeVenue run _
  | wait time => exact .setTime run time

/-- A history after some turns. -/
def play (history : History) : List Turn → History
  | [] => history
  | turn :: rest => (history.turn turn).play rest

/-- Whether all turns go through. -/
def Plays (history : History) : List Turn → Prop
  | [] => True
  | turn :: rest => history.Allows turn ∧ (history.turn turn).Plays rest

instance decidablePlays (history : History) : (turns : List Turn) → Decidable (history.Plays turns)
  | [] => .isTrue trivial
  | turn :: rest =>
      have := decidablePlays (history.turn turn) rest
      inferInstanceAs (Decidable (_ ∧ _))

/-- Turns that go through continue a run, by induction on the turns. -/
theorem run_play {history : History} {turns : List Turn} (run : Run history.pool history.records)
    (plays : history.Plays turns)
    : Run (history.play turns).pool (history.play turns).records := by
  induction turns generalizing history with
  | nil => exact run
  | cons turn rest ih => exact ih (run_turn run plays.1) plays.2

end History

end Pool

end MarginLending
