import MarginLending.Proofs.Fixed
import MarginLending.Proofs.Ledger
import Mathlib.Tactic.Linarith
import Mathlib.Tactic.Zify

/-!
What a ledger owes and what it is owed, exactly. Coefficients count in fractions of a token, and so
do claims and backing here: nothing is rounded, so that what every booking rounds off can be summed
up. A booking rounds in favour of the pool, except that debt which is paid back in full was rounded
down.
-/

namespace MarginLending

namespace Ledger

/-- The exact collateral of a position, net of its charge, no lower than zero. -/
def claim (ledger : Ledger) (discounted otherDebt : Nat) : Nat :=
  ledger.collateralCoeff.raw * discounted - ledger.chargeCoeff.raw * otherDebt

/-- The exact debt coefficient, net of relief. -/
def netDebtCoeff (ledger : Ledger) : Int := ledger.debtCoeff.raw - ledger.debtRelief.raw

/-- The exact worth of a holding: what it claims less what it owes. -/
def worth (ledger : Ledger) (holding : Holding) (otherDebt : Nat) : Int :=
  ledger.claim holding.collateralAmount otherDebt - ledger.netDebtCoeff * holding.debtAmount

/-- What stands behind the collateral, exactly: the tokens and all debt. -/
def backing (ledger : Ledger) : Int :=
  ledger.balance * Q96.unit + ledger.netDebtCoeff * ledger.discountedDebt

section Exact

variable {ledger after : Ledger} {old new : Holding} {real charge discounted otherDebt : Nat}

@[simp] theorem claim_zero (ledger : Ledger) (otherDebt : Nat) : ledger.claim 0 otherDebt = 0 := by
  simp [claim]

/-- Claims depend on the two coefficients of collateral only. -/
theorem claim_congr (coeff : after.collateralCoeff = ledger.collateralCoeff)
    (charge : after.chargeCoeff = ledger.chargeCoeff)
    : after.claim = ledger.claim := by
  funext discounted otherDebt
  unfold claim
  rw [coeff, charge]

theorem claim_le (ledger : Ledger) (discounted otherDebt : Nat)
    : ledger.claim discounted otherDebt ≤ ledger.collateralCoeff.raw * discounted :=
  Nat.sub_le _ _

/-- More discounted collateral adds to the claim what it is worth at most. -/
theorem claim_add_le (ledger : Ledger) (discounted added otherDebt : Nat)
    : ledger.claim (discounted + added) otherDebt
      ≤ ledger.claim discounted otherDebt + added * ledger.collateralCoeff.raw := by
  unfold claim
  rw [Nat.mul_add, Nat.mul_comm added]
  omega

@[simp] theorem worth_normalized (ledger : Ledger) (holding : Holding) (otherDebt : Nat)
    : ledger.worth holding.normalized otherDebt = ledger.worth holding otherDebt := by
  simp [worth]

@[simp] theorem worth_collateral (ledger : Ledger) (amount otherDebt : Nat)
    : ledger.worth (.collateral amount) otherDebt = ledger.claim amount otherDebt := by
  simp [worth, Holding.collateralAmount, Holding.debtAmount]

@[simp] theorem worth_debt (ledger : Ledger) (amount otherDebt : Nat)
    : ledger.worth (.debt amount) otherDebt = -(ledger.netDebtCoeff * amount) := by
  simp [worth, Holding.collateralAmount, Holding.debtAmount]

theorem netDebtCoeff_eq {coeff : Q96} (effective : ledger.effectiveDebtCoeff = .ok coeff)
    : ledger.netDebtCoeff = coeff.raw := by
  obtain ⟨enough, raw⟩ := Q96.sub_eq_ok.mp (effectiveDebtCoeff_eq_ok.mp effective)
  unfold netDebtCoeff
  omega

/-- Real debt is the exact debt rounded down. -/
theorem realDebt_bounds {owed : Nat} (owes : ledger.realDebt discounted = .ok owed)
    : owed * Q96.unit ≤ ledger.netDebtCoeff * discounted
      ∧ ledger.netDebtCoeff * discounted < owed * Q96.unit + Q96.unit := by
  obtain ⟨coeff, effective, scaled⟩ := realDebt_eq_ok.mp owes
  have bounds := Q96.scale_ok scaled
  rw [netDebtCoeff_eq effective]
  constructor
  · exact_mod_cast bounds.1
  · exact_mod_cast bounds.2

theorem realDebt_lt {owed : Nat} (owes : ledger.realDebt discounted = .ok owed)
    : owed < amountLimit := by
  obtain ⟨_, _, scaled⟩ := realDebt_eq_ok.mp owes
  exact Q96.scale_lt scaled

theorem netCollateral_lt {net : Nat} (holds : ledger.netCollateral discounted otherDebt = .ok net)
    : net < amountLimit := by
  obtain ⟨whole, charge, holdsWhole, _, rfl⟩ := netCollateral_eq_ok.mp holds
  exact Nat.lt_of_le_of_lt (Nat.sub_le _ _) (Q96.scale_lt (realCollateral_eq_ok.mp holdsWhole))

/-- A charge is no less than the exact one. -/
theorem le_charge (charged : ledger.charge otherDebt = .ok charge)
    : ledger.chargeCoeff.raw * otherDebt ≤ charge * Q96.unit := by
  have cases := charge_eq_ok.mp charged
  split at cases
  · next free =>
      rcases free with rfl | free
      · simp
      · rw [show ledger.chargeCoeff.raw = 0 by simpa [Q96.isZero] using free]
        simp
  · exact (Q96.scaleUp_ok cases).1

/-- A charge is less than a token above the exact one. -/
theorem charge_lt (charged : ledger.charge otherDebt = .ok charge)
    : charge * Q96.unit < ledger.chargeCoeff.raw * otherDebt + Q96.unit := by
  rw [charge_eq_ok] at charged
  split at charged
  · rw [charged, Nat.zero_mul]
    exact Nat.add_pos_right _ Q96.unit_pos
  · exact (Q96.scaleUp_ok charged).2

/-- Real collateral less a charge is no more than the exact claim. -/
theorem sub_charge_le_claim {whole : Nat} (holds : ledger.realCollateral discounted = .ok whole)
    (charged : ledger.charge otherDebt = .ok charge)
    : (whole - charge) * Q96.unit ≤ ledger.claim discounted otherDebt := by
  have lower := (Q96.scale_ok (realCollateral_eq_ok.mp holds)).1
  have upper := le_charge charged
  unfold claim
  rw [Nat.sub_mul]
  omega

theorem netCollateral_le_claim {net : Nat}
    (holds : ledger.netCollateral discounted otherDebt = .ok net)
    : net * Q96.unit ≤ ledger.claim discounted otherDebt := by
  obtain ⟨whole, charge, holdsWhole, charged, rfl⟩ := netCollateral_eq_ok.mp holds
  exact sub_charge_le_claim holdsWhole charged

-----
-- Bookings round in favour of the pool
-----

/-- A credit adds to the worth of a holding what is paid and less than a token more. -/
theorem Credit.worth_le (credit : ledger.Credit real old new after) (otherDebt : Nat)
    : ledger.worth new otherDebt ≤ ledger.worth old otherDebt + (real + 1) * Q96.unit := by
  cases credit with
  | @partly debt owed repaid coeff _ _ effective repays held _ =>
      have bound : (repaid * coeff.raw : Int) ≤ real * Q96.unit := by
        exact_mod_cast (Q96.unscale_ok repays).2.1
      simp only [worth_debt, netDebtCoeff_eq effective]
      push_cast [held]
      linarith
  | @wholly debt owed added owes enough adds _ =>
      have bound : (added * ledger.collateralCoeff.raw : Int) ≤ (real - owed) * Q96.unit := by
        have := (Q96.unscale_ok adds).2.1
        zify [enough] at this
        exact this
      have claimed : (ledger.claim added otherDebt : Int) ≤ added * ledger.collateralCoeff.raw := by
        have := ledger.claim_le added otherDebt
        rw [Nat.mul_comm] at this
        exact_mod_cast this
      have paid := (realDebt_bounds owes).2
      simp only [worth_collateral, worth_debt]
      linarith
  | @adds _ added owesNothing adds =>
      have bound : (added * ledger.collateralCoeff.raw : Int) ≤ real * Q96.unit := by
        exact_mod_cast (Q96.unscale_ok adds).2.1
      have claimed : (ledger.claim (old.collateralAmount + added) otherDebt : Int)
          ≤ ledger.claim old.collateralAmount otherDebt + added * ledger.collateralCoeff.raw := by
        exact_mod_cast ledger.claim_add_le old.collateralAmount added otherDebt
      rw [worth_collateral, worth, owesNothing]
      push_cast
      linarith

/-- A debit takes from the worth of a holding at least what is debited. -/
theorem Debit.worth_le (debit : ledger.Debit real charge old new after)
    (charged : ledger.charge otherDebt = .ok charge)
    : ledger.worth new otherDebt ≤ ledger.worth old otherDebt - real * Q96.unit := by
  cases debit with
  | @partly collateral whole taken holds less takes _ =>
      have held := sub_charge_le_claim holds charged
      have bound := (Q96.unscaleUp_ok takes).2.1
      have covered : real * Q96.unit ≤ (whole - charge) * Q96.unit :=
        Nat.mul_le_mul_right _ (Nat.le_of_lt less)
      have shrunk : ledger.claim (collateral - min taken collateral) otherDebt + real * Q96.unit
          ≤ ledger.claim collateral otherDebt := by
        rcases Nat.le_total taken collateral with some | all
        · have split : ledger.collateralCoeff.raw * collateral
              = ledger.collateralCoeff.raw * (collateral - taken)
                + taken * ledger.collateralCoeff.raw := by
            rw [Nat.mul_comm taken, ← Nat.mul_add, Nat.sub_add_cancel some]
          rw [Nat.min_eq_left some]
          unfold claim at held ⊢
          omega
        · rw [Nat.min_eq_right all, Nat.sub_self, claim_zero]
          omega
      simp only [worth_collateral]
      have := Int.ofNat_le.mpr shrunk
      push_cast at this
      linarith
  | @wholly collateral whole added coeff holds enough effective adds _ =>
      have held : ((whole - charge : Nat) * Q96.unit : Int)
          ≤ ledger.claim collateral otherDebt := by
        exact_mod_cast sub_charge_le_claim holds charged
      have bound := (Q96.unscaleUp_ok adds).2.1
      zify [enough] at bound
      simp only [worth_collateral, worth_debt, netDebtCoeff_eq effective]
      linarith
  | @adds _ added coeff _ effective adds =>
      have bound : (real * Q96.unit : Int) ≤ added * coeff.raw := by
        exact_mod_cast (Q96.unscaleUp_ok adds).2.1
      rw [worth_debt, worth, netDebtCoeff_eq effective]
      push_cast
      linarith

/-- A rebase does not add to the worth of a holding. -/
theorem Rebase.worth_le {debtBefore debtAfter : Nat}
    (rebase : ledger.Rebase debtBefore debtAfter old new after)
    : ledger.worth new debtAfter ≤ ledger.worth old debtBefore := by
  cases rebase with
  | debt amount => simp only [worth_debt, le_refl]
  | @same collateral unmoved =>
      rcases unmoved with free | same
      · have free : ledger.chargeCoeff.raw = 0 := by simpa [Q96.isZero] using free
        simp only [worth_collateral, claim, free, Nat.zero_mul, le_refl]
      · rw [same]
  | @more collateral wide grows uncharges =>
      have bound := (mulDiv_ok uncharges).2.1
      have split : ledger.chargeCoeff.raw * debtAfter
          = ledger.chargeCoeff.raw * debtBefore
            + ledger.chargeCoeff.raw * (debtAfter - debtBefore) := by
        rw [← Nat.mul_add, Nat.add_sub_cancel' (Nat.le_of_lt grows)]
      have kept : ledger.claim (collateral + wide) debtAfter
          ≤ ledger.claim collateral debtBefore := by
        unfold claim
        rw [Nat.mul_add, Nat.mul_comm _ wide]
        omega
      simp only [worth_collateral]
      exact_mod_cast kept
  | @less collateral wide shrinks charges _ =>
      have bound := (mulDivUp_ok charges).2.1
      have split : ledger.chargeCoeff.raw * debtBefore
          = ledger.chargeCoeff.raw * debtAfter
            + ledger.chargeCoeff.raw * (debtBefore - debtAfter) := by
        rw [← Nat.mul_add, Nat.add_sub_cancel' (Nat.le_of_lt shrinks)]
      have kept : ledger.claim (collateral - min wide collateral) debtAfter
          ≤ ledger.claim collateral debtBefore := by
        rcases Nat.le_total wide collateral with some | all
        · have whole : ledger.collateralCoeff.raw * collateral
              = ledger.collateralCoeff.raw * (collateral - wide)
                + wide * ledger.collateralCoeff.raw := by
            rw [Nat.mul_comm wide, ← Nat.mul_add, Nat.sub_add_cancel some]
          rw [Nat.min_eq_left some]
          unfold claim
          omega
        · rw [Nat.min_eq_right all, Nat.sub_self, claim_zero]
          exact Nat.zero_le _
      simp only [worth_collateral]
      exact_mod_cast kept

end Exact

end Ledger

end MarginLending
