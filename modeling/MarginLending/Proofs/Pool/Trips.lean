import MarginLending.Proofs.Book.Exits
import MarginLending.Proofs.Pool.Calls

/-!
Freezing is the last thing that a pool does. A margin call that freezes the pool ends there, the
pass stops, and no operation runs. So the snapshot holds the balances and the total worth of the
very book that the call leaves behind.
-/

namespace MarginLending

namespace Book

section Fresh

variable {book book' : Book}

/-- If the book is frozen, it is as it tripped. -/
def Fresh (book : Book) : Prop :=
  book.mode.isEmergency = true → ∃ frozen, book.Tripped frozen

theorem fresh_of_regular (regular : book.mode.isEmergency = false) : book.Fresh := by
  intro emergency
  rw [regular] at emergency
  cases emergency

/-- Entries do not freeze a book. -/
theorem Entries.fresh (entries : book.Entries book') (regular : book.mode.isEmergency = false)
    : book'.Fresh :=
  fresh_of_regular (entries.steady.mode ▸ regular)

theorem Fresh.unmoved (fresh : book.Fresh) (unmoved : book.Unmoved book') : book'.Fresh := by
  intro emergency
  rw [unmoved.mode] at emergency
  obtain ⟨frozen, trips⟩ := fresh emergency
  exact ⟨frozen, trips.unmoved unmoved⟩

theorem unmoved_commit (book : Book) : book.Unmoved book.commit := ⟨⟨rfl, rfl⟩, rfl, rfl⟩

theorem Unmoved.refreshLeverage {price : Q96}
    (refreshed : Book.refreshLeverage price book = .ok () book')
    : book.Unmoved book' := by
  obtain ⟨_, rfl⟩ := refreshLeverage_ok refreshed
  exact ⟨⟨rfl, rfl⟩, rfl, rfl⟩

end Fresh

end Book

namespace Pool

section Trips

variable {V : Type} {pool pool' : Pool V} {terms : Terms} {asset : Asset}

/-- Freezing takes the snapshot of the book that it leaves. -/
theorem fresh_freeze (froze : freeze terms asset pool = .ok () pool') : pool'.book.Fresh := by
  intro _
  obtain ⟨total, known, rfl⟩ := freeze_ok froze
  refine ⟨_, rfl, ?_, fun _ => PerAsset.get_map .., known⟩
  cases asset <;> rfl

variable [Venue V] {account caller : AccountId} {call : Call} {outcome : Outcome}

/-- A margin call freezes the pool at its end or not at all. -/
theorem fresh_marginCall (regular : pool.book.mode.isEmergency = false)
    (called : marginCall terms account pool = .ok () pool')
    : pool'.book.Fresh := by
  obtain ⟨removed, removes, placed | ⟨_, _, _, froze⟩⟩ := placements_marginCall called
  · have entries : pool.book.Entries pool'.book := .head (.remove removes) placed.entries
    exact entries.fresh regular
  · exact fresh_freeze froze

/-- No margin call follows the one that froze the pool, by induction on the chain. -/
theorem Liquidation.fresh {calls : List (Pool V × Pool V)}
    (chain : Liquidation terms pool calls pool') (fresh : pool.book.Fresh)
    : pool'.book.Fresh := by
  induction chain with
  | done => exact fresh
  | call regular called _ ih => exact ih (fresh_marginCall regular called)
  | refresh refreshed _ ih => exact ih (fresh.unmoved (.refreshLeverage refreshed))

theorem fresh_bringUpToDate {marginCalled : Bool} (regular : pool.book.mode.isEmergency = false)
    (updated : bringUpToDate terms pool = .ok marginCalled pool')
    : pool'.book.Fresh := by
  obtain ⟨_, updates⟩ := bringUpToDate_ok updated
  cases updates with
  | current => exact Book.fresh_of_regular regular
  | accrued accrues chain =>
      refine chain.fresh ?_
      exact (Book.Entries.accrue accrues).fresh regular

/-- A call on a pool that works runs no operation on a frozen one. -/
theorem Serves.fresh (serves : Serves caller call pool outcome pool')
    (regular : pool.book.mode.isEmergency = false)
    : pool'.book.Fresh := by
  cases serves with
  | stopped _ _ updated => exact fresh_bringUpToDate regular updated
  | operated _ _ _ regularMiddle _ operated => exact (entries_operate operated).fresh regularMiddle

/-- Whatever command leaves a pool frozen that worked before, the book is as it tripped. -/
theorem fresh_run (idle : pool.Idle) (regular : pool.book.mode.isEmergency = false)
    (command : Command V)
    : (endState (command.run pool)).book.Fresh := by
  have opened : (pool.withBook pool.book.openJournal).book.mode.isEmergency = false := regular
  have committed : ∀ acted : Pool V, acted.book.Fresh → acted.commit.book.Fresh := by
    intro acted fresh
    rw [book_commit]
    exact fresh.unmoved acted.book.unmoved_commit
  cases result : command.run pool with
  | error error pool' =>
      change pool'.book.Fresh
      rw [run_error idle result]
      exact Book.fresh_of_regular regular
  | ok value pool' =>
      change pool'.book.Fresh
      cases command with
      | execute caller request =>
          obtain ⟨_, _, executed, finished⟩ := EStateM.bind_eq_ok.mp result
          obtain ⟨_, rfl⟩ := EStateM.pure_eq_ok.mp finished
          obtain ⟨_, acted, _, dispatched, rfl⟩ := execute_ok executed
          exact committed acted ((serves_dispatch opened dispatched).fresh opened)
      | executeCall caller call =>
          obtain ⟨_, _, executed, finished⟩ := EStateM.bind_eq_ok.mp result
          obtain ⟨_, rfl⟩ := EStateM.pure_eq_ok.mp finished
          obtain ⟨acted, dispatched, rfl⟩ := executeCall_ok executed
          exact committed acted ((serves_dispatch opened dispatched).fresh opened)
      | setParameters caller parameters =>
          obtain ⟨_, _, accrued, _, accrues, _, rfl⟩ := setParameters_ok result
          have entries : pool.book.openJournal.Entries { accrued with parameters } :=
            (Book.Entries.accrue accrues).tail (.parameters accrued parameters)
          exact committed _ (entries.fresh regular)
      | shutDown caller =>
          obtain ⟨_, _, executed, finished⟩ := EStateM.bind_eq_ok.mp result
          obtain ⟨_, rfl⟩ := EStateM.pure_eq_ok.mp finished
          obtain ⟨_, _, _, middle, acted, _, updated, freezes, rfl⟩ := shutDown_ok executed
          refine committed acted ?_
          rcases freezes with rfl | ⟨_, _, froze⟩
          · exact fresh_bringUpToDate opened updated
          · exact fresh_freeze froze
      | setTime time =>
          obtain rfl := EStateM.modify_eq_ok.mp result
          exact Book.fresh_of_regular regular
      | changeVenue venue =>
          obtain rfl := EStateM.modify_eq_ok.mp result
          exact Book.fresh_of_regular regular

end Trips

end Pool

end MarginLending
