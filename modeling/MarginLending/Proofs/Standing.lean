import MarginLending.Proofs.Claims

/-!
What a holding comes to in whole units, and how bookings move it. The conversions round down and the
charge is rounded up, as when the pool reads a balance, but nothing is cut off at the range of an
amount. A credit never adds more than is paid and a debit never takes less, while a rebase leaves a
holding within a unit of where it was.
-/

namespace MarginLending

namespace Q96

section Floors

variable {amount real slack : Nat}

/-- Adding what is worth no more than a whole number adds no more than that number. -/
theorem floor_add_le (coeff more : Nat) (le : amount * coeff ≤ real * unit)
    : coeff * (more + amount) / unit ≤ coeff * more / unit + real := by
  rw [← Nat.add_mul_div_right _ real unit_pos, Nat.mul_add, Nat.mul_comm _ amount]
  exact Nat.div_le_div_right (Nat.add_le_add_left le _)

theorem le_floor_add (coeff more : Nat) (le : real * unit ≤ amount * coeff)
    : coeff * more / unit + real ≤ coeff * (more + amount) / unit := by
  rw [← Nat.add_mul_div_right _ real unit_pos, Nat.mul_add, Nat.mul_comm _ amount]
  exact Nat.div_le_div_right (Nat.add_le_add_left le _)

/-- Adding what is worth less than a whole number and a slack adds less than that number, the slack
and a unit.
-/
theorem floor_add_lt (coeff more : Nat) (lt : amount * coeff < real * unit + slack)
    : coeff * (more + amount) / unit * unit
      < (coeff * more / unit + real) * unit + slack + unit := by
  have lower := Nat.div_mul_le_self (coeff * (more + amount)) unit
  have upper := Nat.lt_div_mul_add (a := coeff * more) unit_pos
  rw [Nat.add_mul]
  rw [Nat.mul_add, Nat.mul_comm _ amount] at lower ⊢
  omega

theorem lt_floor_add (coeff more : Nat) (lt : real * unit < amount * coeff + slack)
    : (coeff * more / unit + real) * unit
      < coeff * (more + amount) / unit * unit + slack + unit := by
  have lower := Nat.div_mul_le_self (coeff * more) unit
  have upper := Nat.lt_div_mul_add (a := coeff * (more + amount)) unit_pos
  rw [Nat.add_mul]
  rw [Nat.mul_add, Nat.mul_comm _ amount] at upper ⊢
  omega

end Floors

end Q96

namespace Ledger

/-- Collateral before any charge, rounded down, in range or not. -/
def gross (ledger : Ledger) (discounted : Nat) : Nat :=
  ledger.collateralCoeff.raw * discounted / Q96.unit

/-- The charge on a position that owes discounted units of the other asset, rounded up, in range or
not.
-/
def levy (ledger : Ledger) (otherDebt : Nat) : Nat :=
  (ledger.chargeCoeff.raw * otherDebt + (Q96.unit - 1)) / Q96.unit

/-- Collateral net of its charge, no lower than zero. -/
def net (ledger : Ledger) (discounted otherDebt : Nat) : Nat :=
  ledger.gross discounted - ledger.levy otherDebt

/-- What a discounted unit of debt amounts to net of relief, in fractions of a unit. -/
def debtUnit (ledger : Ledger) : Nat := ledger.debtCoeff.raw - ledger.debtRelief.raw

/-- Debt net of relief, rounded down, in range or not. -/
def owed (ledger : Ledger) (discounted : Nat) : Nat := ledger.debtUnit * discounted / Q96.unit

/-- What a holding comes to: its collateral net of the charge, less its debt. -/
def standing (ledger : Ledger) (holding : Holding) (otherDebt : Nat) : Int :=
  ledger.net holding.collateralAmount otherDebt - ledger.owed holding.debtAmount

section Readings

variable {ledger : Ledger} {discounted otherDebt amount : Nat}

theorem gross_of_realCollateral (known : ledger.realCollateral discounted = .ok amount)
    : ledger.gross discounted = amount := by
  rw [realCollateral_eq_ok, Q96.scale_eq] at known
  exact (Amount.ofWide_eq_ok_iff.mp known).1.symm

/-- A charge that is waived is a charge of nothing. -/
theorem charge_eq (ledger : Ledger) (otherDebt : Nat)
    : ledger.charge otherDebt = (Amount.ofWide (ledger.levy otherDebt) : Except MathError Nat) := by
  unfold charge levy
  split
  · next free =>
      have nothing : ledger.chargeCoeff.raw * otherDebt = 0 := by
        rcases free with none | free
        · rw [none, Nat.mul_zero]
        · rw [show ledger.chargeCoeff.raw = 0 from beq_iff_eq.mp free, Nat.zero_mul]
      rw [nothing]
      rfl
  · rw [Q96.scaleUp_eq]

theorem levy_of_charge (known : ledger.charge otherDebt = .ok amount)
    : ledger.levy otherDebt = amount := by
  rw [charge_eq, Except.liftMath_eq_ok] at known
  exact (Amount.ofWide_eq_ok_iff.mp known).1.symm

theorem debtUnit_of_effective {coeff : Q96} (effective : ledger.effectiveDebtCoeff = .ok coeff)
    : ledger.debtUnit = coeff.raw :=
  (Q96.sub_eq_ok.mp (effectiveDebtCoeff_eq_ok.mp effective)).2.symm

theorem owed_of_realDebt (known : ledger.realDebt discounted = .ok amount)
    : ledger.owed discounted = amount := by
  obtain ⟨coeff, effective, scaled⟩ := realDebt_eq_ok.mp known
  rw [Q96.scale_eq] at scaled
  rw [owed, debtUnit_of_effective effective]
  exact (Amount.ofWide_eq_ok_iff.mp scaled).1.symm

end Readings

@[simp] theorem gross_zero (ledger : Ledger) : ledger.gross 0 = 0 := by simp [gross]

@[simp] theorem owed_zero (ledger : Ledger) : ledger.owed 0 = 0 := by simp [owed]

@[simp] theorem net_zero (ledger : Ledger) (otherDebt : Nat) : ledger.net 0 otherDebt = 0 := by
  simp [net]

@[simp] theorem standing_collateral (ledger : Ledger) (amount otherDebt : Nat)
    : ledger.standing (.collateral amount) otherDebt = ledger.net amount otherDebt := by
  simp [standing, Holding.collateralAmount, Holding.debtAmount]

@[simp] theorem standing_debt (ledger : Ledger) (amount otherDebt : Nat)
    : ledger.standing (.debt amount) otherDebt = -ledger.owed amount := by
  simp [standing, Holding.collateralAmount, Holding.debtAmount]

@[simp] theorem standing_normalized (ledger : Ledger) (holding : Holding) (otherDebt : Nat)
    : ledger.standing holding.normalized otherDebt = ledger.standing holding otherDebt := by
  simp [standing]

-----
-- Credits and debits round against the holder
-----

/-- The larger of what a discounted unit of collateral and one of debt amount to, in fractions of a
unit.
-/
def step (ledger : Ledger) : Nat := max ledger.collateralCoeff.raw ledger.debtUnit

section Bookings

variable {ledger after : Ledger} {old new : Holding} {real charge otherDebt : Nat}

/-- A credit adds no more than is paid. -/
theorem Credit.standing_le (credit : ledger.Credit real old new after) (otherDebt : Nat)
    : ledger.standing new otherDebt ≤ ledger.standing old otherDebt + real := by
  cases credit with
  | @partly debt due repaid coeff _ _ effective repays held _ =>
      have paid := (Q96.unscale_ok repays).2.1
      obtain ⟨left, rfl⟩ : ∃ left, debt = left + repaid := ⟨_, (Nat.sub_add_cancel held).symm⟩
      rw [← debtUnit_of_effective effective] at paid
      have less : ledger.owed (left + repaid) ≤ ledger.owed left + real := Q96.floor_add_le _ _ paid
      rw [standing_debt, standing_debt, Nat.add_sub_cancel]
      omega
  | @wholly debt due added owes enough adds _ =>
      have paid := (Q96.unscale_ok adds).2.1
      have more : ledger.gross (0 + added) ≤ ledger.gross 0 + (real - due) :=
        Q96.floor_add_le _ _ paid
      rw [gross_zero, Nat.zero_add, Nat.zero_add] at more
      rw [standing_collateral, standing_debt, owed_of_realDebt owes, net]
      omega
  | @adds _ added owesNothing adds =>
      have paid := (Q96.unscale_ok adds).2.1
      have more : ledger.gross (old.collateralAmount + added)
          ≤ ledger.gross old.collateralAmount + real := Q96.floor_add_le _ _ paid
      rw [standing_collateral, standing, owesNothing, owed_zero, net, net]
      omega

/-- Where the charge does not exceed the collateral, a credit adds what is paid less a step and two
units.
-/
theorem Credit.lt_standing (credit : ledger.Credit real old new after)
    (covered : ledger.levy otherDebt ≤ ledger.gross old.collateralAmount)
    : (ledger.standing old otherDebt + real) * Q96.unit
      < ledger.standing new otherDebt * Q96.unit + ledger.step + 2 * Q96.unit := by
  have positive := Q96.unit_pos
  have collateralStep : ledger.collateralCoeff.raw ≤ ledger.step := Nat.le_max_left ..
  have debtStep : ledger.debtUnit ≤ ledger.step := Nat.le_max_right ..
  cases credit with
  | @partly debt due repaid coeff _ _ effective repays held _ =>
      have paid := (Q96.unscale_ok repays).2.2
      obtain ⟨left, rfl⟩ : ∃ left, debt = left + repaid := ⟨_, (Nat.sub_add_cancel held).symm⟩
      rw [← debtUnit_of_effective effective] at paid
      have most : (ledger.owed left + real) * Q96.unit
          < ledger.owed (left + repaid) * Q96.unit + ledger.debtUnit + Q96.unit :=
        Q96.lt_floor_add _ _ paid
      rw [standing_debt, standing_debt, Nat.add_sub_cancel]
      zify at most debtStep positive
      linarith
  | @wholly debt due added owes enough adds _ =>
      have paid := (Q96.unscale_ok adds).2.2
      have least : (ledger.gross 0 + (real - due)) * Q96.unit
          < ledger.gross (0 + added) * Q96.unit + ledger.collateralCoeff.raw + Q96.unit :=
        Q96.lt_floor_add _ _ paid
      rw [gross_zero, Nat.zero_add, Nat.zero_add] at least
      have uncharged : ledger.levy otherDebt = 0 := by
        simpa [Holding.collateralAmount] using covered
      rw [standing_collateral, standing_debt, owed_of_realDebt owes, net, uncharged, Nat.sub_zero]
      zify [enough] at least collateralStep positive
      linarith
  | @adds _ added owesNothing adds =>
      have paid := (Q96.unscale_ok adds).2.2
      have least : (ledger.gross old.collateralAmount + real) * Q96.unit
          < ledger.gross (old.collateralAmount + added) * Q96.unit + ledger.collateralCoeff.raw
            + Q96.unit := Q96.lt_floor_add _ _ paid
      have more : ledger.levy otherDebt ≤ ledger.gross (old.collateralAmount + added) :=
        Nat.le_trans covered (Nat.div_le_div_right (Nat.mul_le_mul_left _ (Nat.le_add_right ..)))
      rw [standing_collateral, standing, owesNothing, owed_zero, net, net]
      zify [covered, more] at least collateralStep positive ⊢
      linarith

/-- A debit takes no less than is debited. -/
theorem Debit.standing_le (debit : ledger.Debit real charge old new after)
    (charged : ledger.charge otherDebt = .ok charge)
    : ledger.standing new otherDebt ≤ ledger.standing old otherDebt - real := by
  obtain rfl := levy_of_charge charged
  cases debit with
  | @partly collateral whole taken holds less takes _ =>
      obtain rfl := gross_of_realCollateral holds
      rw [standing_collateral, standing_collateral, net, net]
      rcases Nat.le_total taken collateral with some | all
      · have taking := (Q96.unscaleUp_ok takes).2.1
        obtain ⟨left, rfl⟩ : ∃ left, collateral = left + taken :=
          ⟨_, (Nat.sub_add_cancel some).symm⟩
        have least : ledger.gross left + real ≤ ledger.gross (left + taken) :=
          Q96.le_floor_add _ _ taking
        rw [Nat.min_eq_left some, Nat.add_sub_cancel]
        omega
      · rw [Nat.min_eq_right all, Nat.sub_self, gross_zero]
        omega
  | @wholly collateral whole added coeff holds enough effective adds _ =>
      obtain rfl := gross_of_realCollateral holds
      have owing := (Q96.unscaleUp_ok adds).2.1
      rw [← debtUnit_of_effective effective] at owing
      have least : ledger.owed 0 + (real - (ledger.gross collateral - ledger.levy otherDebt))
          ≤ ledger.owed (0 + added) := Q96.le_floor_add _ _ owing
      rw [owed_zero, Nat.zero_add, Nat.zero_add] at least
      rw [standing_collateral, standing_debt, net]
      omega
  | @adds _ added coeff holdsNothing effective adds =>
      have owing := (Q96.unscaleUp_ok adds).2.1
      rw [← debtUnit_of_effective effective] at owing
      have least : ledger.owed old.debtAmount + real ≤ ledger.owed (old.debtAmount + added) :=
        Q96.le_floor_add _ _ owing
      rw [standing_debt, standing, holdsNothing, net_zero]
      omega

/-- Taking less than a real amount and a discounted unit leaves collateral that is short by less
than that and a unit, even where there is not as much to take.
-/
theorem lt_gross_taken {taken : Nat} (collateral : Nat)
    (taking : taken * ledger.collateralCoeff.raw < real * Q96.unit + ledger.collateralCoeff.raw)
    : ledger.gross collateral * Q96.unit
      < (ledger.gross (collateral - min taken collateral) + real) * Q96.unit
        + ledger.collateralCoeff.raw + Q96.unit := by
  obtain ⟨left, same⟩ : ∃ left, collateral = left + min taken collateral :=
    ⟨_, (Nat.sub_add_cancel (Nat.min_le_right ..)).symm⟩
  have most : min taken collateral * ledger.collateralCoeff.raw
      < real * Q96.unit + ledger.collateralCoeff.raw :=
    Nat.lt_of_le_of_lt (Nat.mul_le_mul_right _ (Nat.min_le_left ..)) taking
  have bound : ledger.gross (left + min taken collateral) * Q96.unit
      < (ledger.gross left + real) * Q96.unit + ledger.collateralCoeff.raw + Q96.unit :=
    Q96.floor_add_lt _ _ most
  rw [← same] at bound
  rwa [show collateral - min taken collateral = left by omega]

/-- Nor does it take more than is debited and a step and two units. -/
theorem Debit.lt_standing (debit : ledger.Debit real charge old new after)
    (charged : ledger.charge otherDebt = .ok charge)
    : (ledger.standing old otherDebt - real) * Q96.unit
      < ledger.standing new otherDebt * Q96.unit + ledger.step + 2 * Q96.unit := by
  have positive := Q96.unit_pos
  have collateralStep : ledger.collateralCoeff.raw ≤ ledger.step := Nat.le_max_left ..
  have debtStep : ledger.debtUnit ≤ ledger.step := Nat.le_max_right ..
  obtain rfl := levy_of_charge charged
  cases debit with
  | @partly collateral whole taken holds less takes _ =>
      obtain rfl := gross_of_realCollateral holds
      have taking := (Q96.unscaleUp_ok takes).2.2
      have kept := lt_gross_taken collateral taking
      have held : (ledger.net collateral otherDebt : Int)
          = ledger.gross collateral - ledger.levy otherDebt := by
        unfold net
        omega
      have left : (ledger.gross (collateral - min taken collateral) : Int) - ledger.levy otherDebt
          ≤ ledger.net (collateral - min taken collateral) otherDebt := by
        unfold net
        omega
      rw [standing_collateral, standing_collateral, held]
      zify at kept collateralStep positive
      have scaled := mul_le_mul_of_nonneg_right left positive.le
      linarith
  | @wholly collateral whole added coeff holds enough effective adds _ =>
      obtain rfl := gross_of_realCollateral holds
      have owing := (Q96.unscaleUp_ok adds).2.2
      rw [← debtUnit_of_effective effective] at owing
      have most : ledger.owed (0 + added) * Q96.unit
          < (ledger.owed 0 + (real - (ledger.gross collateral - ledger.levy otherDebt))) * Q96.unit
            + ledger.debtUnit + Q96.unit :=
        Q96.floor_add_lt _ _ owing
      rw [owed_zero, Nat.zero_add, Nat.zero_add] at most
      rw [standing_collateral, standing_debt, net]
      zify [enough] at most debtStep positive
      linarith
  | @adds _ added coeff holdsNothing effective adds =>
      have owing := (Q96.unscaleUp_ok adds).2.2
      rw [← debtUnit_of_effective effective] at owing
      have most : ledger.owed (old.debtAmount + added) * Q96.unit
          < (ledger.owed old.debtAmount + real) * Q96.unit + ledger.debtUnit + Q96.unit :=
        Q96.floor_add_lt _ _ owing
      rw [standing_debt, standing, holdsNothing, net_zero]
      zify at most debtStep positive ⊢
      linarith

end Bookings

-----
-- A rebase leaves a holding within a unit of where it was
-----

section Rebasing

variable {ledger after : Ledger} {old new : Holding} {held left debtBefore debtAfter : Nat}

theorem gross_bounds (ledger : Ledger) (discounted : Nat)
    : ledger.gross discounted * Q96.unit ≤ ledger.collateralCoeff.raw * discounted
      ∧ ledger.collateralCoeff.raw * discounted < ledger.gross discounted * Q96.unit + Q96.unit :=
  ⟨Nat.div_mul_le_self .., Nat.lt_div_mul_add Q96.unit_pos⟩

theorem levy_bounds (ledger : Ledger) (otherDebt : Nat)
    : ledger.chargeCoeff.raw * otherDebt ≤ ledger.levy otherDebt * Q96.unit
      ∧ ledger.levy otherDebt * Q96.unit < ledger.chargeCoeff.raw * otherDebt + Q96.unit := by
  have positive := Q96.unit_pos
  have lower := Nat.div_mul_le_self (ledger.chargeCoeff.raw * otherDebt + (Q96.unit - 1)) Q96.unit
  have upper :=
    Nat.lt_div_mul_add (a := ledger.chargeCoeff.raw * otherDebt + (Q96.unit - 1)) positive
  unfold levy
  omega

/-- Where the exact net collateral does not rise, it rises by a unit at most when it is read. -/
theorem net_le_of_exact
    (exact : ledger.collateralCoeff.raw * left + ledger.chargeCoeff.raw * debtBefore
      ≤ ledger.collateralCoeff.raw * held + ledger.chargeCoeff.raw * debtAfter)
    : ledger.net left debtAfter ≤ ledger.net held debtBefore + 1 := by
  have grossBefore := (ledger.gross_bounds held).2
  have grossAfter := (ledger.gross_bounds left).1
  have levyBefore := (ledger.levy_bounds debtBefore).2
  have levyAfter := (ledger.levy_bounds debtAfter).1
  have total : ledger.gross left + ledger.levy debtBefore
      ≤ ledger.gross held + ledger.levy debtAfter + 1 := by
    apply Q96.le_of_mul_unit_lt
    rw [Nat.add_mul, Nat.add_mul, Nat.add_mul, Nat.one_mul]
    omega
  unfold net
  omega

/-- Where it falls by a discounted unit at most, it falls by less than two units more when it is
read.
-/
theorem lt_net_of_exact
    (exact : ledger.collateralCoeff.raw * held + ledger.chargeCoeff.raw * debtAfter
      ≤ ledger.collateralCoeff.raw * left + ledger.chargeCoeff.raw * debtBefore
        + ledger.collateralCoeff.raw)
    : ledger.net held debtBefore * Q96.unit
      < ledger.net left debtAfter * Q96.unit + ledger.collateralCoeff.raw + 2 * Q96.unit := by
  have positive := Q96.unit_pos
  have grossBefore := (ledger.gross_bounds held).1
  have grossAfter := (ledger.gross_bounds left).2
  have levyBefore := (ledger.levy_bounds debtBefore).1
  have levyAfter := (ledger.levy_bounds debtAfter).2
  unfold net
  rw [Nat.sub_mul, Nat.sub_mul]
  omega

/-- A rebase adds a unit at most. -/
theorem Rebase.net_le (rebase : ledger.Rebase debtBefore debtAfter old new after)
    : ledger.net new.collateralAmount debtAfter
      ≤ ledger.net old.collateralAmount debtBefore + 1 := by
  cases rebase with
  | debt => simp [Holding.collateralAmount]
  | @same collateral unmoved =>
      apply net_le_of_exact
      rcases unmoved with free | rfl
      · rw [show ledger.chargeCoeff.raw = 0 from beq_iff_eq.mp free, Nat.zero_mul, Nat.zero_mul]
      · exact Nat.le_refl _
  | @more collateral wide grows uncharges =>
      have most := (mulDiv_ok uncharges).2.1
      apply net_le_of_exact
      change _ * (collateral + wide) + _ ≤ _ * collateral + _
      rw [Nat.mul_add, Nat.mul_comm _ wide]
      rw [Nat.mul_sub] at most
      have grown := Nat.mul_le_mul_left ledger.chargeCoeff.raw (Nat.le_of_lt grows)
      omega
  | @less collateral wide shrinks charges _ =>
      have least := (mulDivUp_ok charges).2.1
      rcases Nat.le_total wide collateral with some | all
      · apply net_le_of_exact
        change _ * (collateral - min wide collateral) + _ ≤ _ * collateral + _
        rw [Nat.min_eq_left some, Nat.mul_sub, Nat.mul_comm _ wide]
        rw [Nat.mul_sub] at least
        have shrunk := Nat.mul_le_mul_left ledger.chargeCoeff.raw (Nat.le_of_lt shrinks)
        have taken := Nat.mul_le_mul_left ledger.collateralCoeff.raw some
        rw [Nat.mul_comm _ wide] at taken
        omega
      · change ledger.net (collateral - min wide collateral) _ ≤ _
        rw [Nat.min_eq_right all, Nat.sub_self, net_zero]
        exact Nat.zero_le _

/-- And it takes less than a discounted unit and two units. -/
theorem Rebase.lt_net (rebase : ledger.Rebase debtBefore debtAfter old new after)
    : ledger.net old.collateralAmount debtBefore * Q96.unit
      < ledger.net new.collateralAmount debtAfter * Q96.unit + ledger.collateralCoeff.raw
        + 2 * Q96.unit := by
  cases rebase with
  | debt amount =>
      have positive := Q96.unit_pos
      change ledger.net 0 debtBefore * _ < ledger.net 0 debtAfter * _ + _ + _
      rw [net_zero, net_zero]
      omega
  | @same collateral unmoved =>
      apply lt_net_of_exact
      rcases unmoved with free | rfl
      · rw [show ledger.chargeCoeff.raw = 0 from beq_iff_eq.mp free, Nat.zero_mul, Nat.zero_mul]
        exact Nat.le_add_right _ _
      · exact Nat.le_add_right _ _
  | @more collateral wide grows uncharges =>
      have least := (mulDiv_ok uncharges).2.2
      apply lt_net_of_exact
      change _ * collateral + _ ≤ _ * (collateral + wide) + _ + _
      rw [Nat.mul_add, Nat.mul_comm _ wide]
      rw [Nat.mul_sub] at least
      omega
  | @less collateral wide shrinks charges _ =>
      have most := (mulDivUp_ok charges).2.2
      apply lt_net_of_exact
      change _ * collateral + _ ≤ _ * (collateral - min wide collateral) + _ + _
      have shrunk := Nat.mul_le_mul_left ledger.chargeCoeff.raw (Nat.le_of_lt shrinks)
      have taken : ledger.collateralCoeff.raw * min wide collateral
          ≤ ledger.collateralCoeff.raw * wide := Nat.mul_le_mul_left _ (Nat.min_le_left ..)
      rw [Nat.mul_sub] at most ⊢
      rw [Nat.mul_comm _ wide] at taken
      omega

end Rebasing

end Ledger

end MarginLending
