import MarginLending.Proofs.Book.Rollback
import MarginLending.Proofs.Pool.Writes

/-!
Calls are atomic. A failed call leaves everything but the venue as it found it, at whatever point it
failed, and a call that went through leaves no journal open and no event pending.
-/

namespace MarginLending

namespace Pool

section Atomicity

variable {V : Type} {pool pool' : Pool V}

/-- Between calls no journal is open and no event is pending. -/
structure Idle (pool : Pool V) : Prop where
  settled : pool.book.Settled
  pending : pool.pending = []

/-- An atomic action that fails leaves everything but the venue as it was. -/
theorem atomically_error {α : Type} {action : PoolM V α} {error : PoolError} (idle : pool.Idle)
    (steps : Steps Write action (pool.withBook pool.book.openJournal))
    (failed : atomically action pool = .error error pool')
    : pool' = pool.withVenue pool'.venue := by
  unfold atomically at failed
  split at failed
  · cases failed
  · next acted fails =>
      have written : Writes (pool.withBook pool.book.openJournal) acted := steps.of_error fails
      have restored := Book.rollback_of_writes idle.settled written.book
      cases failed
      rw [rollback, restored, written.frame, ← idle.pending]
      rfl

/-- Emitting events changes neither the book nor the venue nor what is pending, by induction on the
events.
-/
theorem foldl_emit (payloads : List EventPayload) (pool : Pool V)
    : (payloads.foldl emit pool).book = pool.book
      ∧ (payloads.foldl emit pool).venue = pool.venue
      ∧ (payloads.foldl emit pool).pending = pool.pending := by
  induction payloads generalizing pool with
  | nil => exact ⟨rfl, rfl, rfl⟩
  | cons payload rest ih => exact ih (pool.emit payload)

@[simp] theorem book_commit (pool : Pool V) : pool.commit.book = pool.book.commit :=
  (foldl_emit _ _).1

@[simp] theorem venue_commit (pool : Pool V) : pool.commit.venue = pool.venue :=
  (foldl_emit _ _).2.1

theorem idle_commit (pool : Pool V) : pool.commit.Idle := by
  refine ⟨?_, (foldl_emit _ _).2.2⟩
  rw [book_commit]
  exact pool.book.settled_commit

end Atomicity

-----
-- A failed command is rolled back, wherever it failed
-----

section Commands

variable {V : Type} [Venue V] {pool pool' : Pool V}

theorem executeRouted_error {caller : AccountId} {call : Call} {route : Nat} {error : PoolError}
    (idle : pool.Idle)
    (failed : executeRouted caller call route pool = .error error pool')
    : pool' = pool.withVenue pool'.venue :=
  atomically_error idle (steps_dispatch ..) failed

theorem execute_error {caller : AccountId} {request : Request} {error : PoolError}
    (idle : pool.Idle) (failed : execute caller request pool = .error error pool')
    : pool' = pool.withVenue pool'.venue := by
  unfold execute at failed
  cases turned : Call.ofRequest request with
  | error refusal =>
      rw [turned] at failed
      cases failed
      rfl
  | ok call =>
      rw [turned] at failed
      exact executeRouted_error idle failed

theorem setParameters_error {caller : AccountId} {parameters : Parameters} {error : PoolError}
    (idle : pool.Idle) (failed : setParameters caller parameters pool = .error error pool')
    : pool' = pool.withVenue pool'.venue := by
  simp only [setParameters] at failed
  rw [get_bind_apply] at failed
  split at failed
  · cases failed
    rfl
  · cases violated : parameters.violation? with
    | some broken =>
        simp only [violated] at failed
        cases failed
        rfl
    | none =>
        simp only [violated] at failed
        refine atomically_error idle ?_ failed
        refine steps_readBook_bind ?_
        split
        · exact .bind (steps_readPrice _) fun _ _ _ => .get_bind
            (steps_liftBook_bind (Book.steps_accrue ..) fun _ _ =>
              steps_liftBook_bind (.of_modify (.single (.parameters _ violated))) fun _ _ =>
                steps_record _)
        · exact steps_liftBook_bind (.of_modify (.single (.parameters _ violated))) fun _ _ =>
            steps_record _

theorem shutDown_error {caller : AccountId} {error : PoolError}
    (idle : pool.Idle) (failed : shutDown caller pool = .error error pool')
    : pool' = pool.withVenue pool'.venue := by
  refine atomically_error idle ?_ failed
  refine steps_readBook_bind ?_
  split
  · exact .of_throw _
  · refine .bind (steps_startTerms ..) fun _ _ _ => .bind (steps_bringUpToDate ..) fun _ _ _ =>
      steps_readBook_bind ?_
    split
    · exact .of_pure _
    · refine .lift_bind ?_
      intro side _
      cases side with
      | some asset =>
          exact .bind (steps_freeze ..) fun _ _ _ => steps_readBook_bind (.of_pure _)
      | none => exact .of_throw _

end Commands

end Pool

end MarginLending
