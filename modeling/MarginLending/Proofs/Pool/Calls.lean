import MarginLending.Proofs.Pool.Passes

/-!
What a call that goes through did. Where time has passed since the last accrual, bringing the pool
up to date ran a whole liquidation pass; a call that leaves the pool regular found it regular; and
any call leaves a reachable pool sound, whatever route its swaps take.
-/

namespace MarginLending

/-- A book that works accrues once time has passed. -/
theorem Book.accrue_later {book book' : Book} {now : Timestamp} {price : Q96} {moved : Bool}
    (regular : book.mode.isEmergency = false) (later : now.since book.lastAccrual ≠ 0)
    (accrued : Book.accrue now price book = .ok moved book')
    : moved = true := by
  simp only [Book.accrue, EStateM.bind_eq_ok, EStateM.get_eq_ok] at accrued
  obtain ⟨_, _, ⟨rfl, rfl⟩, accrued⟩ := accrued
  rw [if_neg (by simp [regular]), if_neg later] at accrued
  simp only [EStateM.bind_eq_ok, EStateM.modify_eq_ok, EStateM.pure_eq_ok] at accrued
  obtain ⟨_, _, _, _, _, _, rfl, _⟩ := accrued
  rfl

/-- An accrual at an unmoved clock does nothing. -/
theorem Book.accrue_still {book book' : Book} {now : Timestamp} {price : Q96} {moved : Bool}
    (still : now.since book.lastAccrual = 0)
    (accrued : Book.accrue now price book = .ok moved book')
    : book' = book := by
  rcases accrue_ok accrued with ⟨_, same⟩ | ⟨_, _, later, _⟩
  · exact same
  · exact absurd still later

namespace Pool

section Calls

variable {V : Type} [Venue V] {pool pool' : Pool V} {terms : Terms} {caller : AccountId}
  {call : Call} {route : Nat} {outcome : Outcome}

/-- While no time has passed there is nothing to bring up to date. -/
theorem bringUpToDate_still (still : terms.now.since pool.book.lastAccrual = 0)
    {marginCalled : Bool} (updated : bringUpToDate terms pool = .ok marginCalled pool')
    : marginCalled = false ∧ pool' = pool := by
  rcases bringUpToDate_accrues updated with ⟨notCalled, same, _⟩ | ⟨_, _, accrues, _⟩
  · exact ⟨notCalled, same⟩
  · rcases Book.accrue_ok accrues with ⟨unmoved, _⟩ | ⟨_, _, later, _⟩
    · cases unmoved
    · exact absurd still later

/-- Once time has passed, bringing a pool up to date accrues and runs a pass, and ends with the pass
unless it reports that the caller was margin called.
-/
theorem bringUpToDate_later (regular : pool.book.mode.isEmergency = false)
    (later : terms.now.since pool.book.lastAccrual ≠ 0) {marginCalled : Bool}
    (updated : bringUpToDate terms pool = .ok marginCalled pool')
    : ∃ book liquidated passed, Book.accrue terms.now terms.price pool.book = .ok true book
        ∧ liquidateDue terms ((pool.withBook book).recording
            (.reinit (terms.now.since pool.book.lastAccrual) book.leverage)) = .ok liquidated passed
        ∧ (marginCalled = false → pool' = passed) := by
  simp only [bringUpToDate, EStateM.bind_eq_ok, readBook_eq_ok, liftBook_eq_ok] at updated
  obtain ⟨_, _, ⟨rfl, rfl⟩, moved, _, ⟨book, accrues, rfl⟩, updated⟩ := updated
  obtain rfl := Book.accrue_later regular later accrues
  simp only [Bool.not_true, Bool.false_eq_true, if_false, EStateM.bind_eq_ok, readBook_eq_ok,
    record_eq_ok] at updated
  obtain ⟨_, _, ⟨rfl, rfl⟩, _, _, rfl, liquidated, passed, liquidates, updated⟩ := updated
  refine ⟨book, liquidated, passed, accrues, liquidates, ?_⟩
  rintro rfl
  split at updated
  · cases (EStateM.pure_eq_ok.mp updated).1
  · simp only [EStateM.bind_eq_ok, readBook_eq_ok] at updated
    obtain ⟨_, _, ⟨rfl, rfl⟩, updated⟩ := updated
    split at updated
    · exact (EStateM.pure_eq_ok.mp updated).2.symm
    · simp only [EStateM.bind_eq_ok, EStateM.lift_eq_ok] at updated
      obtain ⟨due, _, ⟨_, rfl⟩, updated⟩ := updated
      split at updated
      · next isDue =>
          simp only [EStateM.bind_eq_ok, EStateM.pure_eq_ok] at updated
          obtain ⟨_, _, _, _, _, _, notDue, _⟩ := updated
          rw [notDue] at isDue
          cases isDue
      · exact (EStateM.pure_eq_ok.mp updated).2.symm

/-- A reinit only brings the pool up to date. -/
theorem Serves.reinit (serves : Serves caller .reinit pool outcome pool')
    : ∃ terms, pool.price = .ok terms.price ∧ terms.now = pool.now
        ∧ bringUpToDate terms pool = .ok outcome.marginCalled pool' := by
  cases serves with
  | stopped quoted now updated => exact ⟨_, quoted, now, updated⟩
  | operated quoted now updated _ _ operated =>
      obtain ⟨rfl, rfl⟩ := reinit_ok operated
      exact ⟨_, quoted, now, updated⟩

/-- A call that leaves the pool regular found it regular, and served it before it committed. -/
theorem serves_executeRouted (went : executeRouted caller call route pool = .ok outcome pool')
    (regular : pool'.book.mode.isEmergency = false)
    : ∃ acted, Serves caller call (pool.withBook pool.book.openJournal) outcome acted
        ∧ pool.book.mode.isEmergency = false ∧ pool' = acted.commit := by
  obtain ⟨acted, dispatched, rfl⟩ := atomically_ok went
  have written : Writes (pool.withBook pool.book.openJournal) acted :=
    (steps_dispatch ..).of_ok dispatched
  rw [book_commit] at regular
  have found := written.book.regular regular
  exact ⟨acted, serves_dispatch found dispatched, found, rfl⟩

/-- A call that goes through leaves a reachable pool sound, whatever route its swaps take. -/
theorem Reachable.sound_of_executeRouted (reachable : Reachable pool)
    (went : executeRouted caller call route pool = .ok outcome pool')
    : pool'.Sound := by
  obtain ⟨acted, dispatched, rfl⟩ := atomically_ok went
  obtain ⟨calls, acts⟩ := dispatch_acts dispatched
  exact acts.sound reachable.sound

/-- What a call came to on a pool that works: once the pool was up to date it stopped, because the
caller was margin called or the pool frozen, or went on to a result from there.
-/
def UnlessStopped (pool : Pool V) (caller : AccountId) (route : Nat) (pool' : Pool V)
    (result : Terms → Pool V → Prop)
    : Prop :=
  ∃ terms marginCalled middle, TermsOf pool caller route terms
    ∧ bringUpToDate terms (pool.withBook pool.book.openJournal) = .ok marginCalled middle
    ∧ ((marginCalled = true ∨ middle.book.mode.isEmergency = true) ∧ pool' = middle.commit
      ∨ result terms middle)

theorem UnlessStopped.imp {result result' : Terms → Pool V → Prop}
    (ended : UnlessStopped pool caller route pool' result)
    (implies : ∀ terms middle, terms.caller = caller → result terms middle → result' terms middle)
    : UnlessStopped pool caller route pool' result' := by
  obtain ⟨terms, marginCalled, middle, fixed, updated, ending⟩ := ended
  exact ⟨terms, marginCalled, middle, fixed, updated, ending.imp_right (implies _ _ fixed.caller)⟩

/-- Where no time has passed, a call on a pool that works does not stop. -/
theorem UnlessStopped.of_still {result : Terms → Pool V → Prop}
    (ended : UnlessStopped pool caller route pool' result)
    (still : pool.now.since pool.book.lastAccrual = 0)
    (regular : pool.book.mode.isEmergency = false)
    : ∃ terms, TermsOf pool caller route terms
        ∧ result terms (pool.withBook pool.book.openJournal) := by
  obtain ⟨terms, marginCalled, middle, fixed, updated, ending⟩ := ended
  obtain ⟨notCalled, rfl⟩ := bringUpToDate_still (by rw [fixed.now]; exact still) updated
  refine ⟨terms, fixed, ending.resolve_left ?_⟩
  rintro ⟨stops | stops, _⟩
  · rw [notCalled] at stops
    cases stops
  · rw [book_withBook] at stops
    exact Bool.false_ne_true (regular.symm.trans stops)

/-- A call other than the way out of a frozen pool brings the pool up to date and, unless it stops
there, runs an operation that its caller may ask for, and commits.
-/
theorem unlessStopped_executeRouted (notWayOut : ∀ unwrap, call ≠ .emergencyWithdraw unwrap)
    (went : executeRouted caller call route pool = .ok outcome pool')
    : UnlessStopped pool caller route pool' fun terms middle =>
        ∃ acted calls, (caller = .feeHolder → call.allowedForFeeHolder)
          ∧ Updates terms (pool.withBook pool.book.openJournal) calls middle
          ∧ operate terms call middle = .ok outcome acted ∧ pool' = acted.commit := by
  obtain ⟨acted, dispatched, rfl⟩ := atomically_ok went
  cases mode : pool.book.mode.isEmergency with
  | true =>
      obtain ⟨⟨unwrap, isWayOut⟩, _⟩ := dispatch_frozen (by exact mode) dispatched
      exact absurd isWayOut (notWayOut unwrap)
  | false =>
      obtain ⟨allowed, ran⟩ := dispatch_regular (by exact mode) dispatched
      obtain ⟨terms, marginCalled, middle, fixed, updated, ending⟩ := runRegular_ok ran
      obtain ⟨calls, updates⟩ := bringUpToDate_ok updated
      refine ⟨terms, marginCalled, middle, fixed.ofOpened, updated, ?_⟩
      rcases ending with ⟨stops, _, rfl⟩ | ⟨_, _, operated⟩
      · exact .inl ⟨stops, rfl⟩
      · exact .inr ⟨acted, calls, allowed, updates, operated, rfl⟩

end Calls

end Pool

end MarginLending
