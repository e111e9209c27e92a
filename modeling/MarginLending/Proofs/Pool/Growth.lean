import MarginLending.Proofs.Book.Growth
import MarginLending.Proofs.Pool.Deeds
import MarginLending.Proofs.Pool.Guarantees

/-!
Coefficients over a run. No command lets a coefficient fall, and every reachable pool has
coefficients of one at least and an effective debt coefficient above zero.
-/

namespace MarginLending

/-- No freeze touches a ledger. -/
theorem Book.Changes.rises {caller owner : AccountId} {book book' : Book}
    (changes : book.Changes caller owner book')
    : book.Rises book' := by
  induction changes with
  | refl => exact .refl book
  | tail _ last ih =>
      cases last with
      | deed done => exact ih.trans done.rises
      | freeze mode snapshot => exact ih

namespace Pool

section Commands

variable {V : Type} [Venue V] {pool : Pool V}

/-- No command lets a coefficient fall, whether it goes through or fails. -/
theorem rises_run (idle : pool.Idle) (command : Command V)
    : pool.book.Rises (endState (command.run pool)).book := by
  rcases changes_run idle command with same | ⟨_, _, acted, _, changes, committed⟩
  · rw [same]
    exact .refl _
  · rw [committed]
    have opened : pool.book.Rises pool.book.openJournal := .refl _
    exact (opened.trans changes.rises).trans (.refl acted)

/-- Nor does a run, by induction on its commands. -/
theorem Reachable.rises (reachable : Reachable pool) (commands : List (Command V))
    : pool.book.Rises (pool.after commands).book := by
  induction commands generalizing pool with
  | nil => exact .refl _
  | cons command rest ih =>
      exact (rises_run reachable.sound.idle command).trans (ih (reachable.run command))

/-- The coefficients of a reachable pool are in their range, by induction on the commands. -/
theorem Reachable.indexed (reachable : Reachable pool) : pool.book.Indexed := by
  induction reachable with
  | new created =>
      rw [(new_ok created).2.1]
      exact Book.indexed_new _ _
  | run before command ih => exact (rises_run before.sound.idle command).indexed ih

/-- From a reachable pool no run lets a coefficient fall, and in the pool itself the coefficients of
collateral and debt are one at least, and the relief is below the debt coefficient, so that what a
unit of debt amounts to is known and positive.
-/
theorem coefficients_never_fall (reachable : Reachable pool) (commands : List (Command V))
    (asset : Asset)
    : let before := pool.book.ledger asset
      let after := (pool.after commands).book.ledger asset
      (before.collateralCoeff ≤ after.collateralCoeff ∧ before.debtCoeff ≤ after.debtCoeff
          ∧ before.chargeCoeff ≤ after.chargeCoeff ∧ before.debtRelief ≤ after.debtRelief)
        ∧ Q96.one ≤ before.collateralCoeff ∧ Q96.one ≤ before.debtCoeff
        ∧ before.debtRelief < before.debtCoeff
        ∧ ∃ coeff, before.effectiveDebtCoeff = .ok coeff ∧ .zero < coeff := by
  have rises := reachable.rises commands asset
  have indexed := reachable.indexed asset
  exact ⟨⟨rises.collateral, rises.debt, rises.charge, rises.relief⟩, indexed.collateral,
    indexed.debt, indexed.relief, indexed.effectiveDebtCoeff⟩

end Commands

/-- After a day the traders' debt has compounded, and a unit of it still amounts to something. -/
theorem coefficients_never_fall_sample
    : let traded := (sample.after sampleTrades).book.ledger .base
      let later := ((sample.after sampleTrades).after [.executeCall ⟨10⟩ .reinit]).book.ledger .base
      traded.debtCoeff < later.debtCoeff ∧ traded.collateralCoeff ≤ later.collateralCoeff
        ∧ traded.debtRelief < traded.debtCoeff := by
  have bounds := coefficients_never_fall (reachable_sample.after sampleTrades)
    [.executeCall ⟨10⟩ .reinit] .base
  refine ⟨?_, bounds.1.1, bounds.2.2.2.1⟩
  decide +kernel

end Pool

end MarginLending
