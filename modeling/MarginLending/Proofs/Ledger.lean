import MarginLending.Proofs.Actions
import Mathlib.Tactic.SplitIfs

/-!
Holdings and totals. Whatever is booked to a holding, the totals of its ledger change by exactly as
much as the holding does, and nothing else of the ledger changes.
-/

namespace MarginLending

namespace Ledger

/-- A holding was exchanged for another and the totals followed. -/
structure Exchanges (before after : Ledger) (old new : Holding) : Prop where
  collateral
    : after.discountedCollateral + old.collateralAmount
      = before.discountedCollateral + new.collateralAmount
  debt : after.discountedDebt + old.debtAmount = before.discountedDebt + new.debtAmount
  rest
    : after = { before with
        discountedCollateral := after.discountedCollateral
        discountedDebt := after.discountedDebt }

theorem Exchanges.refl (ledger : Ledger) (holding : Holding)
    : ledger.Exchanges ledger holding holding :=
  ⟨rfl, rfl, rfl⟩

/-- Spelling an empty debt as collateral changes no total. -/
theorem Exchanges.normalized {before after : Ledger} {old new : Holding}
    (exchanges : before.Exchanges after old new)
    : before.Exchanges after old new.normalized :=
  ⟨by simpa using exchanges.collateral, by simpa using exchanges.debt, exchanges.rest⟩

section Totals

variable {ledger after : Ledger} {discounted : Nat}

theorem addCollateral_eq_ok
    : ledger.addCollateral discounted = .ok after
      ↔ ledger.discountedCollateral + discounted < amountLimit
        ∧ after = { ledger with
            discountedCollateral := ledger.discountedCollateral + discounted } := by
  simp only [addCollateral, Except.bind_eq_ok, Except.pure_eq_ok, Except.liftMath_eq_ok,
    Amount.add_eq_ok_iff]
  constructor
  · rintro ⟨_, ⟨rfl, inRange⟩, rfl⟩
    exact ⟨inRange, rfl⟩
  · rintro ⟨inRange, rfl⟩
    exact ⟨_, ⟨rfl, inRange⟩, rfl⟩

theorem removeCollateral_eq_ok
    : ledger.removeCollateral discounted = .ok after
      ↔ discounted ≤ ledger.discountedCollateral
        ∧ after = { ledger with
            discountedCollateral := ledger.discountedCollateral - discounted } := by
  simp only [removeCollateral, Except.bind_eq_ok, Except.pure_eq_ok, Except.liftMath_eq_ok,
    Amount.sub_eq_ok_iff]
  constructor
  · rintro ⟨_, ⟨rfl, enough⟩, rfl⟩
    exact ⟨enough, rfl⟩
  · rintro ⟨enough, rfl⟩
    exact ⟨_, ⟨rfl, enough⟩, rfl⟩

theorem addDebt_eq_ok
    : ledger.addDebt discounted = .ok after
      ↔ ledger.discountedDebt + discounted < amountLimit
        ∧ after = { ledger with discountedDebt := ledger.discountedDebt + discounted } := by
  simp only [addDebt, Except.bind_eq_ok, Except.pure_eq_ok, Except.liftMath_eq_ok,
    Amount.add_eq_ok_iff]
  constructor
  · rintro ⟨_, ⟨rfl, inRange⟩, rfl⟩
    exact ⟨inRange, rfl⟩
  · rintro ⟨inRange, rfl⟩
    exact ⟨_, ⟨rfl, inRange⟩, rfl⟩

theorem removeDebt_eq_ok
    : ledger.removeDebt discounted = .ok after
      ↔ discounted ≤ ledger.discountedDebt
        ∧ after = { ledger with discountedDebt := ledger.discountedDebt - discounted } := by
  simp only [removeDebt, Except.bind_eq_ok, Except.pure_eq_ok, Except.liftMath_eq_ok,
    Amount.sub_eq_ok_iff]
  constructor
  · rintro ⟨_, ⟨rfl, enough⟩, rfl⟩
    exact ⟨enough, rfl⟩
  · rintro ⟨enough, rfl⟩
    exact ⟨_, ⟨rfl, enough⟩, rfl⟩

end Totals

theorem effectiveDebtCoeff_eq_ok {ledger : Ledger} {coeff : Q96}
    : ledger.effectiveDebtCoeff = .ok coeff
      ↔ ledger.debtCoeff.sub ledger.debtRelief = .ok coeff := by
  simp only [effectiveDebtCoeff, Except.liftMath_eq_ok]

theorem realCollateral_eq_ok {ledger : Ledger} {discounted real : Nat}
    : ledger.realCollateral discounted = .ok real
      ↔ ledger.collateralCoeff.scale discounted = .ok real := by
  simp only [realCollateral, Except.liftMath_eq_ok]

theorem realDebt_eq_ok {ledger : Ledger} {discounted real : Nat}
    : ledger.realDebt discounted = .ok real
      ↔ ∃ coeff, ledger.effectiveDebtCoeff = .ok coeff ∧ coeff.scale discounted = .ok real := by
  simp only [realDebt, Except.bind_eq_ok, Except.liftMath_eq_ok]

/-- Who owes nothing, or nothing that is charged for, is charged nothing. -/
theorem charge_eq_ok {ledger : Ledger} {otherDebt charge : Nat}
    : ledger.charge otherDebt = .ok charge
      ↔ if otherDebt = 0 ∨ ledger.chargeCoeff.isZero then charge = 0
        else ledger.chargeCoeff.scaleUp otherDebt = .ok charge := by
  unfold Ledger.charge
  split
  · rw [Except.pure_eq_ok, eq_comm]
  · rw [Except.liftMath_eq_ok]

/-- Net collateral is real collateral less the charge, no lower than zero. -/
theorem netCollateral_eq_ok {ledger : Ledger} {discounted otherDebt net : Nat}
    : ledger.netCollateral discounted otherDebt = .ok net
      ↔ ∃ real charge, ledger.realCollateral discounted = .ok real
          ∧ ledger.charge otherDebt = .ok charge ∧ net = real - charge := by
  simp only [netCollateral, Except.bind_eq_ok, Except.pure_eq_ok, eq_comm (a := net)]
  constructor
  · rintro ⟨real, foundReal, charge, foundCharge, net⟩
    exact ⟨real, charge, foundReal, foundCharge, net⟩
  · rintro ⟨real, charge, foundReal, foundCharge, net⟩
    exact ⟨real, foundReal, charge, foundCharge, net⟩

-----
-- Credits repay debt before they add collateral
-----

/-- What crediting a real amount to a holding does: it repays part of the debt, or all of it and
adds the rest to collateral, or there is no debt and all of it is added.
-/
inductive Credit (ledger : Ledger) (real : Nat) : Holding → Holding → Ledger → Prop
  | partly {debt owed repaid : Nat} {coeff : Q96} (owes : ledger.realDebt debt = .ok owed)
      (less : real < owed) (effective : ledger.effectiveDebtCoeff = .ok coeff)
      (repays : coeff.unscale real = .ok repaid) (held : repaid ≤ debt)
      (booked : repaid ≤ ledger.discountedDebt)
    : ledger.Credit real (.debt debt) (.debt (debt - repaid))
        { ledger with discountedDebt := ledger.discountedDebt - repaid }
  | wholly {debt owed added : Nat} (owes : ledger.realDebt debt = .ok owed) (enough : owed ≤ real)
      (adds : ledger.collateralCoeff.unscale (real - owed) = .ok added)
      (booked : debt ≤ ledger.discountedDebt)
    : ledger.Credit real (.debt debt) (.collateral added)
        { ledger with
          discountedDebt := ledger.discountedDebt - debt
          discountedCollateral := ledger.discountedCollateral + added }
  | adds {holding : Holding} {added : Nat} (owesNothing : holding.debtAmount = 0)
      (adds : ledger.collateralCoeff.unscale real = .ok added)
    : ledger.Credit real holding (.collateral (holding.collateralAmount + added))
        { ledger with discountedCollateral := ledger.discountedCollateral + added }

theorem creditHolding_ok {ledger after : Ledger} {old new : Holding} {real : Nat}
    (credited : ledger.creditHolding old real = .ok (new, after))
    : ledger.Credit real old new after := by
  have noDebt : ∀ holding : Holding, holding.debtAmount = 0 →
      (do
        let added ← ledger.collateralCoeff.unscale real
        let ledger ← ledger.addCollateral added
        return (Holding.collateral (← Amount.add holding.collateralAmount added), ledger)
          : Except PoolError (Holding × Ledger)) = .ok (new, after) →
      ledger.Credit real holding new after := by
    intro holding owesNothing added
    simp only [Except.bind_eq_ok, Except.liftMath_eq_ok, Except.pure_eq_ok, addCollateral_eq_ok,
      Amount.add_eq_ok_iff, Prod.mk.injEq] at added
    obtain ⟨added, adds, _, ⟨_, rfl⟩, _, ⟨rfl, _⟩, rfl, rfl⟩ := added
    exact .adds owesNothing adds
  unfold creditHolding at credited
  split at credited
  · next debt =>
      simp only [Except.bind_eq_ok] at credited
      obtain ⟨owed, owes, credited⟩ := credited
      split at credited
      · next less =>
          simp only [Except.bind_eq_ok, Except.liftMath_eq_ok, Except.pure_eq_ok,
            removeDebt_eq_ok, Amount.sub_eq_ok_iff, Prod.mk.injEq] at credited
          obtain ⟨coeff, effective, repaid, repays, _, ⟨booked, rfl⟩, _, ⟨rfl, held⟩, rfl, rfl⟩ :=
            credited
          exact .partly owes less effective repays held booked
      · next enough =>
          simp only [Except.bind_eq_ok, Except.liftMath_eq_ok, Except.pure_eq_ok,
            removeDebt_eq_ok, addCollateral_eq_ok, Prod.mk.injEq] at credited
          obtain ⟨_, ⟨booked, rfl⟩, added, adds, _, ⟨_, rfl⟩, rfl, rfl⟩ := credited
          exact .wholly owes (Nat.le_of_not_lt enough) adds booked
  · next notDebt =>
      refine noDebt old ?_ credited
      cases old with
      | collateral amount => rfl
      | debt amount =>
          cases amount with
          | zero => rfl
          | succ amount => exact absurd rfl (notDebt amount)

theorem Credit.exchanges {ledger after : Ledger} {old new : Holding} {real : Nat}
    (credit : ledger.Credit real old new after)
    : ledger.Exchanges after old new := by
  cases credit with
  | partly _ _ _ _ held booked =>
      refine ⟨rfl, ?_, rfl⟩
      simp only [Holding.debtAmount]
      omega
  | wholly _ _ _ booked =>
      constructor
      · simp only [Holding.collateralAmount, Nat.add_zero]
      · simp only [Holding.debtAmount, Nat.add_zero]
        omega
      · rfl
  | adds owesNothing _ =>
      constructor
      · simp only [Holding.collateralAmount]
        omega
      · rw [owesNothing]
        rfl
      · rfl

/-- A credit adds no debt. -/
theorem Credit.debtAmount_le {ledger after : Ledger} {old new : Holding} {real : Nat}
    (credit : ledger.Credit real old new after)
    : new.debtAmount ≤ old.debtAmount := by
  cases credit with
  | partly => exact Nat.sub_le _ _
  | wholly => exact Nat.zero_le _
  | adds => exact Nat.zero_le _

-----
-- Debits take collateral before they add debt
-----

/-- What debiting a real amount does to a holding: it takes part of the collateral, or all of it and
adds the rest to debt, or there is no collateral and all of it is owed.
-/
inductive Debit (ledger : Ledger) (real charge : Nat) : Holding → Holding → Ledger → Prop
  | partly {collateral whole taken : Nat} (holds : ledger.realCollateral collateral = .ok whole)
      (less : real < whole - charge) (takes : ledger.collateralCoeff.unscaleUp real = .ok taken)
      (booked : min taken collateral ≤ ledger.discountedCollateral)
    : ledger.Debit real charge (.collateral collateral)
        (.collateral (collateral - min taken collateral))
        { ledger with
          discountedCollateral := ledger.discountedCollateral - min taken collateral }
  | wholly {collateral whole added : Nat} {coeff : Q96}
      (holds : ledger.realCollateral collateral = .ok whole) (enough : whole - charge ≤ real)
      (effective : ledger.effectiveDebtCoeff = .ok coeff)
      (adds : coeff.unscaleUp (real - (whole - charge)) = .ok added)
      (booked : collateral ≤ ledger.discountedCollateral)
    : ledger.Debit real charge (.collateral collateral) (.debt added)
        { ledger with
          discountedCollateral := ledger.discountedCollateral - collateral
          discountedDebt := ledger.discountedDebt + added }
  | adds {holding : Holding} {added : Nat} {coeff : Q96}
      (holdsNothing : holding.collateralAmount = 0)
      (effective : ledger.effectiveDebtCoeff = .ok coeff) (adds : coeff.unscaleUp real = .ok added)
    : ledger.Debit real charge holding (.debt (holding.debtAmount + added))
        { ledger with discountedDebt := ledger.discountedDebt + added }

theorem debitHolding_ok {ledger after : Ledger} {old new : Holding} {real charge : Nat}
    (debited : ledger.debitHolding old real charge = .ok (new, after))
    : ledger.Debit real charge old new after := by
  unfold debitHolding at debited
  split at debited
  · next collateral =>
      simp only [Except.bind_eq_ok] at debited
      obtain ⟨whole, holds, debited⟩ := debited
      split at debited
      · next less =>
          simp only [Except.bind_eq_ok, Except.liftMath_eq_ok, Except.pure_eq_ok,
            removeCollateral_eq_ok, Prod.mk.injEq] at debited
          obtain ⟨taken, takes, _, ⟨booked, rfl⟩, rfl, rfl⟩ := debited
          exact .partly holds less takes booked
      · next enough =>
          simp only [Except.bind_eq_ok, Except.liftMath_eq_ok, Except.pure_eq_ok,
            removeCollateral_eq_ok, addDebt_eq_ok, Prod.mk.injEq] at debited
          obtain ⟨_, ⟨booked, rfl⟩, coeff, effective, added, adds, _, ⟨_, rfl⟩, rfl, rfl⟩ := debited
          exact .wholly holds (Nat.le_of_not_lt enough) effective adds booked
  · next notCollateral =>
      simp only [Except.bind_eq_ok, Except.liftMath_eq_ok, Except.pure_eq_ok, addDebt_eq_ok,
        Amount.add_eq_ok_iff, Prod.mk.injEq] at debited
      obtain ⟨coeff, effective, added, adds, _, ⟨_, rfl⟩, _, ⟨rfl, _⟩, rfl, rfl⟩ := debited
      refine .adds ?_ effective adds
      cases old with
      | debt amount => rfl
      | collateral amount =>
          cases amount with
          | zero => rfl
          | succ amount => exact absurd rfl (notCollateral amount)

theorem Debit.exchanges {ledger after : Ledger} {old new : Holding} {real charge : Nat}
    (debit : ledger.Debit real charge old new after)
    : ledger.Exchanges after old new := by
  cases debit with
  | partly _ _ _ booked =>
      constructor
      · simp only [Holding.collateralAmount]
        omega
      · rfl
      · rfl
  | wholly _ _ _ _ booked =>
      constructor
      · simp only [Holding.collateralAmount]
        omega
      · simp only [Holding.debtAmount, Nat.add_zero]
      · rfl
  | adds holdsNothing _ _ =>
      constructor
      · rw [holdsNothing]
        rfl
      · simp only [Holding.debtAmount]
        omega
      · rfl

-----
-- A rebase keeps charges where they were
-----

/-- What rebasing does to a holding: a debt and uncharged collateral stay, new debt in the other
asset adds the collateral that its charge would take, and repaid debt takes what it was charged.
-/
inductive Rebase (ledger : Ledger) (debtBefore debtAfter : Nat)
    : Holding → Holding → Ledger → Prop
  | debt (amount : Nat) : ledger.Rebase debtBefore debtAfter (.debt amount) (.debt amount) ledger
  | same {collateral : Nat} (unmoved : ledger.chargeCoeff.isZero ∨ debtBefore = debtAfter)
    : ledger.Rebase debtBefore debtAfter (.collateral collateral) (.collateral collateral) ledger
  | more {collateral wide : Nat} (grows : debtBefore < debtAfter)
      (uncharges : mulDiv ledger.chargeCoeff.raw (debtAfter - debtBefore)
        ledger.collateralCoeff.raw = .ok wide)
    : ledger.Rebase debtBefore debtAfter (.collateral collateral) (.collateral (collateral + wide))
        { ledger with discountedCollateral := ledger.discountedCollateral + wide }
  | less {collateral wide : Nat} (shrinks : debtAfter < debtBefore)
      (charges : mulDivUp ledger.chargeCoeff.raw (debtBefore - debtAfter)
        ledger.collateralCoeff.raw = .ok wide)
      (booked : min wide collateral ≤ ledger.discountedCollateral)
    : ledger.Rebase debtBefore debtAfter (.collateral collateral)
        (.collateral (collateral - min wide collateral))
        { ledger with
          discountedCollateral := ledger.discountedCollateral - min wide collateral }

theorem rebase_ok {ledger after : Ledger} {old new : Holding} {debtBefore debtAfter : Nat}
    (rebased : ledger.rebase old debtBefore debtAfter = .ok (new, after))
    : ledger.Rebase debtBefore debtAfter old new after := by
  unfold rebase at rebased
  split at rebased
  · next amount =>
      simp only [Except.pure_eq_ok, Prod.mk.injEq] at rebased
      obtain ⟨rfl, rfl⟩ := rebased
      exact .debt amount
  · next collateral =>
      split at rebased
      · next unmoved =>
          simp only [Except.pure_eq_ok, Prod.mk.injEq] at rebased
          obtain ⟨rfl, rfl⟩ := rebased
          exact .same unmoved
      · next moved =>
          split at rebased
          · next grows =>
              simp only [Except.bind_eq_ok, Except.liftMath_eq_ok, Except.pure_eq_ok,
                addCollateral_eq_ok, Amount.add_eq_ok_iff, Amount.ofWide_eq_ok_iff,
                Prod.mk.injEq] at rebased
              obtain ⟨wide, uncharges, _, ⟨rfl, _⟩, _, ⟨_, rfl⟩, _, ⟨rfl, _⟩, rfl, rfl⟩ := rebased
              exact .more grows uncharges
          · next shrinks =>
              simp only [Except.bind_eq_ok, Except.liftMath_eq_ok, Except.pure_eq_ok,
                removeCollateral_eq_ok, Amount.ofWide_eq_ok_iff, Prod.mk.injEq] at rebased
              obtain ⟨wide, charges, _, ⟨rfl, _⟩, _, ⟨booked, rfl⟩, rfl, rfl⟩ := rebased
              rw [not_or] at moved
              exact .less (by omega) charges booked

theorem Rebase.exchanges {ledger after : Ledger} {old new : Holding} {debtBefore debtAfter : Nat}
    (rebase : ledger.Rebase debtBefore debtAfter old new after)
    : ledger.Exchanges after old new := by
  cases rebase with
  | debt amount => exact .refl ledger _
  | same _ => exact .refl ledger _
  | more _ _ =>
      constructor
      · simp only [Holding.collateralAmount]
        omega
      · rfl
      · rfl
  | less _ _ booked =>
      constructor
      · simp only [Holding.collateralAmount]
        omega
      · rfl
      · rfl

/-- Rebasing changes no debt. -/
theorem Rebase.debtAmount_eq {ledger after : Ledger} {old new : Holding}
    {debtBefore debtAfter : Nat}
    (rebase : ledger.Rebase debtBefore debtAfter old new after)
    : new.debtAmount = old.debtAmount := by
  cases rebase <;> rfl

/-- While debt stays as it is, rebasing changes nothing. -/
theorem Rebase.unmoved {ledger after : Ledger} {old new : Holding} {debt : Nat}
    (rebase : ledger.Rebase debt debt old new after)
    : new = old ∧ after = ledger := by
  cases rebase with
  | debt amount => exact ⟨rfl, rfl⟩
  | same => exact ⟨rfl, rfl⟩
  | more grows => exact absurd grows (Nat.lt_irrefl _)
  | less shrinks => exact absurd shrinks (Nat.lt_irrefl _)

/-- Releasing a holding takes it out of the totals. -/
theorem release_ok {ledger after : Ledger} {holding : Holding}
    (released : ledger.release holding = .ok after)
    : ledger.Exchanges after holding .empty := by
  cases holding with
  | collateral amount =>
      obtain ⟨booked, rfl⟩ := removeCollateral_eq_ok.mp released
      constructor
      · simp only [Holding.empty, Holding.collateralAmount]
        omega
      · rfl
      · rfl
  | debt amount =>
      obtain ⟨booked, rfl⟩ := removeDebt_eq_ok.mp released
      constructor
      · rfl
      · simp only [Holding.empty, Holding.debtAmount]
        omega
      · rfl

end Ledger

end MarginLending
