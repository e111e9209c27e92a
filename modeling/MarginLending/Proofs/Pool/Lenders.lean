import MarginLending.Proofs.Book.Lenders
import MarginLending.Proofs.Pool.Growth

/-!
Lenders are never cut. Whatever others call, whether it goes through or fails, and whatever is
accrued, liquidated, written off or frozen on the way, the real collateral of an account that owes
nothing does not fall.
-/

namespace MarginLending

/-- Nor does a freeze take anything from anybody, by induction on the changes. -/
theorem Book.Changes.spares {caller owner account : AccountId} {book book' : Book}
    (changes : book.Changes caller owner book') (notCaller : caller ≠ account)
    (clear : book.OwesNothing account)
    : book.Spares account book' := by
  induction changes with
  | refl => exact .refl clear
  | tail _ last ih =>
      cases last with
      | deed done => exact ih.trans (done.spares notCaller ih.clear)
      | freeze mode snapshot => exact ih.trans (spares_of_positions ih.clear rfl)

namespace Pool

section Lenders

variable {V : Type} [Venue V] {pool : Pool V} {account : AccountId}

/-- A command of others spares an account that owes nothing, whether it goes through or fails. -/
theorem spares_run (idle : pool.Idle) {command : Command V}
    (others : command.caller? ≠ some account) (clear : pool.book.OwesNothing account)
    : pool.book.Spares account (endState (command.run pool)).book := by
  rcases changes_run idle command with same | ⟨caller, _, acted, called, changes, committed⟩
  · rw [same]
    exact .refl clear
  · have notCaller : caller ≠ account := by
      rintro rfl
      exact others called
    have opened : pool.book.Spares account pool.book.openJournal :=
      Book.spares_of_positions clear rfl
    have spared := opened.trans (changes.spares notCaller opened.clear)
    rw [committed]
    exact spared.trans (Book.spares_of_positions spared.clear rfl)

/-- So does a run of others, by induction on its commands. -/
theorem Reachable.spares (reachable : Reachable pool) {commands : List (Command V)}
    (others : ∀ command ∈ commands, command.caller? ≠ some account)
    (clear : pool.book.OwesNothing account)
    : pool.book.Spares account (pool.after commands).book := by
  induction commands generalizing pool with
  | nil => exact .refl clear
  | cons command rest ih =>
      have first := spares_run reachable.sound.idle (others command List.mem_cons_self) clear
      have later := ih (reachable.run command)
        (fun next member => others next (List.mem_cons_of_mem _ member)) first.clear
      exact first.trans later

/-- From a reachable pool on, as long as only others call, the real collateral of an account that
owes nothing never falls in either asset. It is known before and after unless it is too large for an
amount.
-/
theorem lender_never_cut (reachable : Reachable pool) {commands : List (Command V)}
    (others : ∀ command ∈ commands, command.caller? ≠ some account)
    (clear : pool.book.OwesNothing account) (asset : Asset)
    : let later := (pool.after commands).book
      pool.book.lent account asset ≤ later.lent account asset
        ∧ pool.book.collateralOf account asset
          = (Amount.ofWide (pool.book.lent account asset) : Except MathError Nat)
        ∧ later.collateralOf account asset
          = (Amount.ofWide (later.lent account asset) : Except MathError Nat) := by
  have spares := reachable.spares others clear
  exact ⟨Book.lent_le spares (reachable.rises commands) asset,
    Book.collateralOf_of_owesNothing clear asset,
    Book.collateralOf_of_owesNothing spares.clear asset⟩

end Lenders

/-- A month after two others went short, one of them has the interest booked, and the lender has
more.
-/
theorem lender_never_cut_sample
    : let traded := sample.after sampleTrades
      let later := traded.after [.setTime ⟨30 * secondsInDay⟩, .executeCall ⟨20⟩ .reinit]
      traded.book.OwesNothing ⟨10⟩ ∧ traded.book.lent ⟨10⟩ .base = 10000
        ∧ 10000 ≤ later.book.lent ⟨10⟩ .base ∧ later.book.collateralOf ⟨10⟩ .base = .ok 10039 := by
  have others : ∀ command ∈ [Command.setTime ⟨30 * secondsInDay⟩,
      Command.executeCall (V := SimulatedVenue) ⟨20⟩ .reinit], command.caller? ≠ some ⟨10⟩ := by
    simp [Command.caller?]
  have clear : (sample.after sampleTrades).book.OwesNothing ⟨10⟩ := by
    intro asset
    cases asset <;> decide +kernel
  have lent : (sample.after sampleTrades).book.lent ⟨10⟩ .base = 10000 := by decide +kernel
  obtain ⟨more, _, known⟩ :=
    lender_never_cut (reachable_sample.after sampleTrades) others clear .base
  refine ⟨clear, lent, lent ▸ more, known.trans ?_⟩
  decide +kernel

end Pool

end MarginLending
