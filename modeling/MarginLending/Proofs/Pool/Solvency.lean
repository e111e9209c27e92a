import MarginLending.Proofs.Pool.Cuts

/-!
Solvency of runs. From a new pool on, each call and each margin call opens the gap between claims
and backing by a few tokens at most, as long as what margin calls cut from the collateral of
counterparties is taken in full. Where somebody's share of a cut exceeds what they have, the rest is
cut from nobody, and the claims outgrow what backs them.
-/

namespace MarginLending

namespace Pool

section Growth

variable {V : Type} [Venue V] {pool pool' : Pool V} {terms : Terms} {asset : Asset}
  {calls : List (Pool V × Pool V)}

/-- A chain of margin calls opens a gap by two tokens for each of them, by induction on the chain.
The end of the chain is not frozen, so that no pool on the way is.
-/
theorem Liquidation.gap_le (chain : Liquidation terms pool calls pool')
    (consistent : pool.book.Consistent none) (regular : pool'.book.mode.isEmergency = false)
    (full : ∀ call ∈ calls, CutInFull asset call.1 call.2)
    : pool'.book.gap asset ≤ pool.book.gap asset + 2 * calls.length * Q96.unit := by
  induction chain with
  | done => simp
  | call _ called rest ih =>
      have head := gap_marginCall asset consistent called
        (rest.writes.book.regular regular) (full _ List.mem_cons_self)
      have tail := ih (consistent_marginCall consistent called) regular
        fun call member => full call (List.mem_cons_of_mem _ member)
      simp only [List.length_cons]
      push_cast
      linarith
  | refresh refreshed rest ih =>
      have tail := ih (consistent.refreshLeverage refreshed) regular full
      rwa [Pool.book_withBook, Book.gap_refreshLeverage refreshed] at tail

/-- Bringing a pool up to date opens a gap by three tokens for the accrual, and two for each margin
call.
-/
theorem Updates.gap_le (updates : Updates terms pool calls pool')
    (consistent : pool.book.Consistent none) (regular : pool'.book.mode.isEmergency = false)
    (small : (pool.book.ledger asset).discountedDebt < Nat.pow 2 94)
    (slow : ∀ annual growth, pool.book.parameters.annualFee = .ok annual →
      growthFactor annual (terms.now.since pool.book.lastAccrual) = .ok growth →
      growth.raw < 4 * Q96.unit)
    (full : ∀ call ∈ calls, CutInFull asset call.1 call.2)
    : pool'.book.gap asset ≤ pool.book.gap asset + (3 + 2 * calls.length) * Q96.unit := by
  cases updates with
  | current =>
      have positive := Q96.unit_pos
      simp only [List.length_nil]
      push_cast
      linarith
  | accrued accrues chain =>
      have accrual := Book.gap_accrue consistent accrues small slow
      have liquidations := chain.gap_le (consistent.accrue accrues) regular full
      rw [Pool.book_recording, Pool.book_withBook] at liquidations
      linarith

/-- What an entry point does opens a gap by six tokens, and two more for each margin call, unless
the pool is frozen at the end.
-/
theorem Acts.gap_le (acts : Acts pool calls pool') (consistent : pool.book.Consistent none)
    (regular : pool'.book.mode.isEmergency = false)
    (small : (pool.book.ledger asset).discountedDebt < Nat.pow 2 94)
    (slow : ∀ annual growth, pool.book.parameters.annualFee = .ok annual →
      growthFactor annual (pool.now.since pool.book.lastAccrual) = .ok growth →
      growth.raw < 4 * Q96.unit)
    (full : ∀ call ∈ calls, CutInFull asset call.1 call.2)
    : pool'.book.gap asset ≤ pool.book.gap asset + (6 + 2 * calls.length) * Q96.unit := by
  have positive := Q96.unit_pos
  cases acts with
  | leave frozen withdrawn =>
      have written : Writes pool pool' := (steps_emergencyWithdraw ..).of_ok withdrawn
      rw [written.book.isEmergency frozen] at regular
      cases regular
  | update _ now updates =>
      rw [← now] at slow
      have update := updates.gap_le consistent regular small slow full
      linarith
  | @operate _ _ middle _ _ _ _ now updates _ operated =>
      rw [← now] at slow
      have written : Writes middle pool' := (steps_operate ..).of_ok operated
      have update := updates.gap_le consistent (written.book.regular regular) small slow full
      have operation := gap_operate asset operated
      linarith
  | @freeze _ side _ _ _ _ _ froze =>
      obtain ⟨_, _, rfl⟩ := freeze_ok froze
      cases side <;> cases regular
  | @parameters _ _ accrued parameters _ accrues _ =>
      have accrual := Book.gap_accrue consistent accrues small slow
      have same : ({ accrued with parameters } : Book).gap asset = accrued.gap asset :=
        Book.gap_congr rfl rfl
      rw [Pool.book_recording, Pool.book_withBook, same]
      simp only [List.length_nil]
      push_cast
      linarith

end Growth

-----
-- A run opens a gap by a few tokens for each call and each margin call
-----

section Scale

variable {V : Type}

/-- How much fees grew since the last accrual that a call found. -/
def feeGrowth (record : CallRecord V) : Except PoolError Q96 := do
  growthFactor (← record.found.book.parameters.annualFee)
    (record.found.now.since record.found.book.lastAccrual)

theorem feeGrowth_eq_ok {record : CallRecord V} {factor : Q96}
    : feeGrowth record = .ok factor
      ↔ ∃ annual, record.found.book.parameters.annualFee = .ok annual
          ∧ growthFactor annual (record.found.now.since record.found.book.lastAccrual)
            = .ok factor := by
  simp only [feeGrowth, Except.bind_eq_ok, Except.liftMath_eq_ok]

/-- A call that found an asset at an ordinary scale: its discounted debt is less than two to the
power of 94, and fees grew less than fourfold since the last accrual.
-/
structure InScale (asset : Asset) (record : CallRecord V) : Prop where
  debt : (record.found.book.ledger asset).discountedDebt < Nat.pow 2 94
  growth : ∀ factor, feeGrowth record = .ok factor → factor.raw < 4 * Q96.unit

/-- How many margin calls there were. -/
def marginCallCount (records : List (CallRecord V)) : Nat :=
  (records.map fun record => record.marginCalls.length).sum

end Scale

section Solvency

variable {V : Type} [Venue V] {pool : Pool V} {records : List (CallRecord V)}

/-- A run opens a gap by six tokens for each call and two for each margin call, by induction on the
run.
-/
theorem Run.gap_le {asset : Asset} (run : Run pool records)
    (regular : pool.book.mode.isEmergency = false)
    (inScale : ∀ record ∈ records, InScale asset record)
    (full : ∀ record ∈ records, ∀ call ∈ record.marginCalls, CutInFull asset call.1 call.2)
    : pool.book.gap asset
      ≤ (6 * records.length + 2 * marginCallCount records : Nat) * Q96.unit := by
  induction run with
  | new created =>
      obtain ⟨_, book, _⟩ := new_ok created
      rw [book, Book.gap_new]
      simp [marginCallCount]
  | @committed pool acted records calls _ before acts went ih =>
      have sound := before.reachable.sound
      rw [book_commit] at regular
      have found := ih (acts.writes.book.regular regular)
        (fun record member => inScale record (List.mem_cons_of_mem _ member))
        (fun record member => full record (List.mem_cons_of_mem _ member))
      have here := inScale _ List.mem_cons_self
      have step := acts.gap_le sound.consistent.openJournal regular here.debt
        (fun annual factor fee grown =>
          here.growth factor (feeGrowth_eq_ok.mpr ⟨annual, fee, grown⟩))
        (full _ List.mem_cons_self)
      have opened : (pool.withBook pool.book.openJournal).book.gap asset = pool.book.gap asset :=
        Book.gap_congr rfl rfl
      have closed : acted.commit.book.gap asset = acted.book.gap asset := by
        rw [book_commit]
        exact Book.gap_congr rfl rfl
      rw [closed]
      rw [opened] at step
      simp only [marginCallCount, List.map_cons, List.sum_cons, List.length_cons] at found ⊢
      push_cast at found ⊢
      linarith
  | failed before fails ih =>
      rw [run_error before.reachable.sound.idle fails] at regular ⊢
      exact ih regular inScale full
  | setTime _ _ ih => exact ih regular inScale full
  | changeVenue _ _ ih => exact ih regular inScale full

/-- In a pool that is not frozen the collateral of all positions is covered by the tokens and the
debt, but for eight tokens for each call and each margin call, as long as what margin calls cut from
the collateral of counterparties was taken in full.
-/
theorem collateral_is_backed {asset : Asset} (run : Run pool records)
    (regular : pool.book.mode.isEmergency = false)
    (inScale : ∀ record ∈ records, InScale asset record)
    (full : ∀ record ∈ records, ∀ call ∈ record.marginCalls, CutInFull asset call.1 call.2)
    {amounts : List Nat} {debt : Nat}
    (known : pool.book.positions.values.mapM (fun position => pool.book.collateralIn position asset)
      = .ok amounts)
    (owed : (pool.book.ledger asset).totalRealDebt = .ok debt)
    : amounts.sum ≤ (pool.book.ledger asset).balance + debt
      + (8 * records.length + 8 * marginCallCount records) := by
  have sum := Book.sum_collateralIn_le (run.gap_le regular inScale full) known owed
  omega

/-- So it is as long as every borrower could bear what each margin call charged to the
counterparties.
-/
theorem collateral_is_backed_of_bearable {asset : Asset} (run : Run pool records)
    (regular : pool.book.mode.isEmergency = false)
    (inScale : ∀ record ∈ records, InScale asset record)
    (bearable : ∀ record ∈ records, ∀ call ∈ record.marginCalls, Bearable call.1 call.2)
    {amounts : List Nat} {debt : Nat}
    (known : pool.book.positions.values.mapM (fun position => pool.book.collateralIn position asset)
      = .ok amounts)
    (owed : (pool.book.ledger asset).totalRealDebt = .ok debt)
    : amounts.sum ≤ (pool.book.ledger asset).balance + debt
      + (8 * records.length + 8 * marginCallCount records) := by
  have gap := run.gap_le regular inScale (run.cutInFull bearable)
  have sum := Book.sum_collateralIn_le gap known owed
  omega

end Solvency

end Pool

-----
-- A short squeeze that one long can bear and another cannot
-----

namespace EventPayload

/-- The loss that was reported. -/
def deleverage? : EventPayload → Option DeleverageEvent
  | .deleverage loss => some loss
  | _ => none

theorem deleverage?_eq_some_iff {payload : EventPayload} {loss : DeleverageEvent}
    : payload.deleverage? = some loss ↔ payload = .deleverage loss := by
  cases payload <;> simp [deleverage?]

instance (payloads : List EventPayload) (p : DeleverageEvent → Prop) [DecidablePred p]
    : Decidable (∀ loss, EventPayload.deleverage loss ∈ payloads → p loss) :=
  decidable_of_iff (∀ loss ∈ payloads.filterMap deleverage?, p loss) (by
    simp [List.mem_filterMap, deleverage?_eq_some_iff])

end EventPayload

namespace Pool

instance {V : Type} (asset : Asset) (before after : Pool V)
    : Decidable (CutInFull asset before after) :=
  inferInstanceAs (Decidable (∀ loss, EventPayload.deleverage loss ∈ recordedSince before after →
    loss.asset = asset → loss.absorbedBy = .counterparties →
      after.book.claims asset + loss.shortfall * Q96.unit ≤ before.book.claims asset))

instance (book : Book) (asset : Asset) (chargeCoeff : Q96)
    : Decidable (book.Covers asset chargeCoeff) :=
  inferInstanceAs (Decidable (∀ position ∈ book.positions.values,
    chargeCoeff.raw * (position.holding asset.other).debtAmount
      ≤ (book.ledger asset).collateralCoeff.raw * (position.holding asset).collateralAmount))

instance {V : Type} (before after : Pool V) : Decidable (Bearable before after) :=
  inferInstanceAs (Decidable (∀ loss, EventPayload.deleverage loss ∈ recordedSince before after →
    loss.absorbedBy = .counterparties → before.book.Covers loss.asset loss.chargeCoeff))

instance {V : Type} (asset : Asset) (record : CallRecord V) : Decidable (InScale asset record) :=
  decidable_of_iff
    ((record.found.book.ledger asset).discountedDebt < Nat.pow 2 94
      ∧ ∀ factor, feeGrowth record = .ok factor → factor.raw < 4 * Q96.unit)
    ⟨fun ⟨debt, growth⟩ => ⟨debt, growth⟩, fun ⟨debt, growth⟩ => ⟨debt, growth⟩⟩

namespace History

/-- Two longs and a short at half the price. The price doubles back, the short cannot repay what it
owes, and the rest is charged to the longs by what they owe. The first long put in a deposit; the
accounts are those that are margin called.
-/
def squeezeTurns (deposit : Nat) (accounts : List AccountId) : List Turn :=
  [ .call ⟨10⟩ (.depositBase 100000 0 .zero none),
    .call ⟨10⟩ (.depositQuote 100000 0 .zero none),
    .call ⟨20⟩ (.depositBase deposit 17000 (.ofNat 10) none),
    .call ⟨21⟩ (.depositBase 100000 1000 (.ofNat 10) none),
    .quote ⟨Q96.unit / 2⟩,
    .call ⟨22⟩ (.depositQuote 3000 50000 .zero none),
    .quote .one,
    .wait ⟨1⟩,
    .reinit ⟨99⟩ accounts ]

/-- The pool after the squeeze, with its records. -/
def squeeze (deposit : Nat) (accounts : List AccountId) : History :=
  play ⟨sample, []⟩ (squeezeTurns deposit accounts)

end History

/-- The first long can bear its part of the charge, so that the cut is taken in full and the pool
stays solvent.
-/
theorem collateral_is_backed_squeeze
    : [100000, 96222, 99777].sum
      ≤ ((History.squeeze 100000 [⟨22⟩]).pool.book.ledger .base).balance + 0
        + (8 * (History.squeeze 100000 [⟨22⟩]).records.length
          + 8 * marginCallCount (History.squeeze 100000 [⟨22⟩]).records) := by
  have plays : History.Plays ⟨sample, []⟩ (History.squeezeTurns 100000 [⟨22⟩]) := by decide +kernel
  have run : Run (History.squeeze 100000 [⟨22⟩]).pool (History.squeeze 100000 [⟨22⟩]).records :=
    History.run_play (.new new_sample) plays
  refine collateral_is_backed run ?regular ?inScale ?full ?known ?owed
  all_goals decide +kernel

/-- It could not if it had put in a hundredth of that. -/
example
    : (∀ record ∈ (History.squeeze 100000 [⟨22⟩]).records, ∀ call ∈ record.marginCalls,
        Bearable call.1 call.2)
      ∧ ¬∀ record ∈ (History.squeeze 1000 [⟨22⟩, ⟨20⟩]).records, ∀ call ∈ record.marginCalls,
        Bearable call.1 call.2 := by
  decide +kernel

/-- The first long cannot bear its part: the charge takes all it has, and what is missing is cut
from nobody, so that the collateral of the others is no longer backed.
-/
theorem collateral_is_not_backed_squeeze
    : ∃ (pool : Pool SimulatedVenue) (records : List (CallRecord SimulatedVenue))
        (amounts : List Nat) (debt : Nat),
        Run pool records ∧ pool.book.mode.isEmergency = false
          ∧ (∀ record ∈ records, ∀ asset, InScale asset record)
          ∧ pool.book.positions.values.mapM (fun position => pool.book.collateralIn position .base)
            = .ok amounts
          ∧ (pool.book.ledger .base).totalRealDebt = .ok debt
          ∧ (pool.book.ledger .base).balance + debt
              + (8 * records.length + 8 * marginCallCount records) < amounts.sum := by
  have plays : History.Plays ⟨sample, []⟩ (History.squeezeTurns 1000 [⟨22⟩, ⟨20⟩]) := by
    decide +kernel
  refine ⟨_, _, [100000, 99777], 0, History.run_play (.new new_sample) plays, ?_, ?_, ?_, ?_, ?_⟩
  · decide +kernel
  · have inScale : ∀ record ∈ (History.squeeze 1000 [⟨22⟩, ⟨20⟩]).records,
        InScale .base record ∧ InScale .quote record := by decide +kernel
    intro record member asset
    cases asset
    · exact (inScale record member).1
    · exact (inScale record member).2
  · decide +kernel
  · decide +kernel
  · decide +kernel

end Pool

end MarginLending
