import MarginLending.Proofs.Pool.Atomicity
import MarginLending.Proofs.Pool.Consistency
import MarginLending.Proofs.Pool.Reachable

/-!
What holds of a pool between any two commands: no call is in progress, the parameters are valid, and
the book is consistent. A failed command changes the venue at most.
-/

namespace MarginLending

namespace Book

variable {book : Book} {stale : Option AccountId}

theorem heap_openJournal (asset : Asset)
    : book.openJournal.heap asset = (book.heap asset).openJournal :=
  PerAsset.get_map _ _ _

theorem heap_commit (asset : Asset) : book.commit.heap asset = (book.heap asset).commit :=
  PerAsset.get_map _ _ _

/-- Opening the journals keeps the book consistent. -/
theorem Consistent.openJournal (consistent : book.Consistent stale)
    : book.openJournal.Consistent stale := by
  refine consistent.of_same ?_ rfl (fun _ => rfl) (fun _ => rfl)
  intro asset
  rw [heap_openJournal]
  rfl

/-- Closing the journals keeps the book consistent. -/
theorem Consistent.commit (consistent : book.Consistent stale)
    : book.commit.Consistent stale := by
  refine consistent.of_same ?_ rfl (fun _ => rfl) (fun _ => rfl)
  intro asset
  rw [heap_commit]
  rfl

end Book

namespace Pool

section Commands

variable {V : Type} [Venue V] {pool pool' : Pool V}

/-- A failed command leaves everything but the venue as it was. -/
theorem run_error {command : Command V} {error : PoolError} (idle : pool.Idle)
    (failed : command.run pool = .error error pool')
    : pool' = pool.withVenue pool'.venue := by
  cases command with
  | execute caller request =>
      rcases EStateM.bind_eq_error.mp failed with failed | ⟨_, _, _, failed⟩
      · exact execute_error idle failed
      · cases failed
  | executeCall caller call =>
      rcases EStateM.bind_eq_error.mp failed with failed | ⟨_, _, _, failed⟩
      · exact executeRouted_error idle failed
      · cases failed
  | setParameters caller parameters => exact setParameters_error idle failed
  | shutDown caller =>
      rcases EStateM.bind_eq_error.mp failed with failed | ⟨_, _, _, failed⟩
      · exact shutDown_error idle failed
      · cases failed
  | setTime time => cases failed
  | changeVenue venue => cases failed

end Commands

-----
-- Every command keeps what holds between commands
-----

section Between

variable {V : Type} {pool pool' : Pool V}

/-- What holds of a pool between any two commands. -/
structure Sound (pool : Pool V) : Prop where
  idle : pool.Idle
  consistent : pool.book.Consistent none
  valid : pool.book.parameters.violation? = none

theorem sound_new {options : PoolOptions} {parameters : Parameters} {venue : V} {start : Timestamp}
    (created : Pool.new options parameters venue start = .ok pool)
    : pool.Sound := by
  obtain ⟨valid, book, pending⟩ := new_ok created
  refine ⟨⟨?_, pending⟩, ?_, ?_⟩
  · rw [book]
    exact Book.settled_new ..
  · rw [book]
    exact Book.consistent_new ..
  · rw [book]
    exact valid

/-- What an entry point does keeps the book consistent. -/
theorem Acts.consistent [Venue V] {calls : List (Pool V × Pool V)} (acts : Acts pool calls pool')
    (consistent : pool.book.Consistent none)
    : pool'.book.Consistent none := by
  cases acts with
  | leave _ withdrawn => exact consistent_emergencyWithdraw consistent withdrawn
  | update _ _ updates => exact updates.consistent consistent
  | operate _ _ updates allowed operated =>
      exact consistent_operate (updates.consistent consistent) operated allowed
  | freeze _ updates froze => exact consistent_freeze (updates.consistent consistent) froze
  | parameters accrues _ =>
      exact (consistent.accrue accrues).of_same (fun _ => rfl) rfl (fun _ => rfl) (fun _ => rfl)

/-- A sound pool is sound again once what an entry point did to it is committed. -/
theorem Acts.sound [Venue V] {calls : List (Pool V × Pool V)} {acted : Pool V}
    (acts : Acts (pool.withBook pool.book.openJournal) calls acted) (sound : pool.Sound)
    : acted.commit.Sound := by
  refine ⟨acted.idle_commit, ?_, ?_⟩
  · rw [book_commit]
    exact (acts.consistent sound.consistent.openJournal).commit
  · rw [book_commit]
    exact acts.writes.book.valid sound.valid

/-- Every command leaves a sound pool sound, whether it goes through or fails. -/
theorem Sound.run [Venue V] (sound : pool.Sound) (command : Command V)
    : Sound (endState (command.run pool)) := by
  cases result : command.run pool with
  | ok value pool' =>
      change Sound pool'
      rcases run_ok result with ⟨_, acted, acts, rfl⟩ | ⟨time, rfl⟩ | ⟨venue, rfl⟩
      · exact acts.sound sound
      · exact ⟨⟨sound.idle.settled, sound.idle.pending⟩, sound.consistent, sound.valid⟩
      · exact ⟨⟨sound.idle.settled, sound.idle.pending⟩, sound.consistent, sound.valid⟩
  | error error pool' =>
      change Sound pool'
      rw [run_error sound.idle result]
      exact ⟨⟨sound.idle.settled, sound.idle.pending⟩, sound.consistent, sound.valid⟩

/-- Every reachable pool is sound, by induction on the commands. -/
theorem Reachable.sound [Venue V] (reachable : Reachable pool) : pool.Sound := by
  induction reachable with
  | new created => exact sound_new created
  | run _ command ih => exact ih.run command

end Between

end Pool

end MarginLending
