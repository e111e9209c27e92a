import MarginLending.Proofs.Book.Entries
import MarginLending.Proofs.Faults

/-!
Rates that are refused. Only the series refuses a rate, once it comes to 100% per step, and only
growth takes powers; so an accrual is refused for its rate only if the interest on a side at its
stored leverage, or the fee, comes to 100% per second.
-/

namespace MarginLending

-----
-- Nothing but a power is refused for its rate
-----

section Arithmetic

@[simp] theorem add_ne_rateTooHigh (a b : Nat) : Amount.add a b ≠ .error .rateTooHigh := by
  unfold Amount.add
  split <;> simp

@[simp] theorem sub_ne_rateTooHigh (a b : Nat) : Amount.sub a b ≠ .error .rateTooHigh := by
  unfold Amount.sub
  split <;> simp

@[simp] theorem ofWide_ne_rateTooHigh (n : Nat) : Amount.ofWide n ≠ .error .rateTooHigh := by
  unfold Amount.ofWide
  split <;> simp

@[simp] theorem narrow_ne_rateTooHigh (n : Nat) : narrow n ≠ .error .rateTooHigh := by
  unfold narrow
  split <;> simp

@[simp] theorem mulDiv_ne_rateTooHigh (a b divisor : Nat)
    : mulDiv a b divisor ≠ .error .rateTooHigh := by
  unfold mulDiv
  split <;> simp

@[simp] theorem mulDivUp_ne_rateTooHigh (a b divisor : Nat)
    : mulDivUp a b divisor ≠ .error .rateTooHigh := by
  unfold mulDivUp
  split <;> simp

namespace Q96

variable (p q : Q96) (amount : Nat)

@[simp] theorem add_ne_rateTooHigh : p.add q ≠ .error .rateTooHigh := by
  unfold add
  split <;> simp

@[simp] theorem sub_ne_rateTooHigh : p.sub q ≠ .error .rateTooHigh := by
  unfold sub
  split <;> simp

@[simp] theorem mul_ne_rateTooHigh : p.mul q ≠ .error .rateTooHigh := by
  simp [mul, Except.map_eq_error]

@[simp] theorem div_ne_rateTooHigh : p.div q ≠ .error .rateTooHigh := by
  simp [div, Except.map_eq_error]

@[simp] theorem ofRatio_ne_rateTooHigh (num den : Nat) : ofRatio num den ≠ .error .rateTooHigh := by
  simp [ofRatio, Except.map_eq_error]

@[simp] theorem scale_ne_rateTooHigh : q.scale amount ≠ .error .rateTooHigh := by
  simp [scale, Except.bind_eq_error]

@[simp] theorem scaleUp_ne_rateTooHigh : q.scaleUp amount ≠ .error .rateTooHigh := by
  simp [scaleUp, Except.bind_eq_error]

@[simp] theorem unscale_ne_rateTooHigh : q.unscale amount ≠ .error .rateTooHigh := by
  simp [unscale, Except.bind_eq_error]

@[simp] theorem unscaleUp_ne_rateTooHigh : q.unscaleUp amount ≠ .error .rateTooHigh := by
  simp [unscaleUp, Except.bind_eq_error]

@[simp] theorem ofDecimal_ne_rateTooHigh (d : Decimal) : ofDecimal d ≠ .error .rateTooHigh := by
  unfold ofDecimal
  split <;>
    simp [Except.bind_eq_error, Except.map_eq_error, Except.throw_eq_error, Except.throw_eq_ok]

/-- Nor is a term of the series, by induction on the terms. -/
theorem seriesFrom_ne_rateTooHigh (x exponent i sum term count : Nat)
    : seriesFrom x exponent i sum term count ≠ .error .rateTooHigh := by
  induction count generalizing i sum term with
  | zero => simp [seriesFrom]
  | succ count ih =>
      unfold seriesFrom
      simp only
      split
      · simp [Except.bind_eq_error, Except.throw_eq_error, Except.throw_eq_ok]
      · simp only [ne_eq, Except.bind_eq_error, mulDiv_ne_rateTooHigh, false_or]
        rintro ⟨next, _, refused⟩
        split at refused
        · simp [Except.bind_eq_error, Except.throw_eq_error, Except.throw_eq_ok] at refused
        · exact ih _ _ _ refused

/-- A power is refused for a step of 100% or more. -/
theorem two_le_of_powSeries_refused {factor : Q96} {exponent : Nat}
    (refused : factor.powSeries exponent = .error .rateTooHigh)
    : unit + unit ≤ factor.raw := by
  rcases Except.bind_eq_error.mp refused with refused | ⟨x, less, refused⟩
  · exact (sub_ne_rateTooHigh _ _ refused).elim
  · obtain ⟨enough, rest⟩ := sub_eq_ok.mp less
    have enough : unit ≤ factor.raw := enough
    have rest : x.raw = factor.raw - unit := rest
    split at refused
    · omega
    · exact (seriesFrom_ne_rateTooHigh _ _ _ _ _ _ (Except.map_eq_error.mp refused)).elim

end Q96

end Arithmetic

/-- Growth is refused for an annual rate that comes to 100% per second. -/
theorem secondsInYear_le_of_growthFactor_refused {annual : Q96} {seconds : Nat}
    (refused : growthFactor annual seconds = .error (.math .rateTooHigh))
    : .ofNat secondsInYear ≤ annual := by
  simp only [growthFactor, Except.bind_eq_error, Except.liftMath_eq_error, Except.liftMath_eq_ok,
    Q96.div_ne_rateTooHigh, Q96.add_ne_rateTooHigh, false_or] at refused
  obtain ⟨perSecond, divided, step, sum, refused⟩ := refused
  have double := Q96.two_le_of_powSeries_refused refused
  have sum : step.raw = Q96.unit + perSecond.raw := (Q96.add_eq_ok.mp sum).2
  have whole : Q96.unit ≤ perSecond.raw := by omega
  obtain ⟨_, quotient, rfl⟩ := Except.map_eq_ok.mp divided
  have scaled := Nat.le_trans (Nat.mul_le_mul_right _ whole) (mulDiv_ok quotient).2.1
  rw [Nat.mul_comm annual.raw] at scaled
  exact Nat.le_of_mul_le_mul_left scaled Q96.unit_pos

/-- A fraction is one at most. -/
theorem Q96.ofDecimal_le_one {d : Decimal} {q : Q96} (fraction : Parameters.isFraction d)
    (known : ofDecimal d = .ok q)
    : q ≤ one := by
  unfold ofDecimal at known
  split at known
  · cases known
  · next notNegative =>
      obtain ⟨_, quotient, rfl⟩ := Except.map_eq_ok.mp known
      obtain ⟨positive, lower, _⟩ := mulDiv_ok quotient
      have digits := Nat.mul_le_mul_right unit (Parameters.digits_le fraction notNegative)
      have scaled := Nat.le_trans lower digits
      rw [Nat.mul_comm] at scaled
      exact Nat.le_of_mul_le_mul_left scaled positive

namespace Parameters

variable {parameters : Parameters} {rate : Q96}

theorem annualFee_le_one (valid : parameters.violation? = none)
    (known : parameters.annualFee = .ok rate)
    : rate ≤ .one :=
  Q96.ofDecimal_le_one (isFraction_of_valid valid ("fee", _) (by simp [fractions])) known

theorem annualInterest_le_one (valid : parameters.violation? = none)
    (known : parameters.annualInterest = .ok rate)
    : rate ≤ .one :=
  Q96.ofDecimal_le_one (isFraction_of_valid valid ("interest_rate", _) (by simp [fractions])) known

end Parameters

-----
-- Booking, growth and valuation
-----

namespace Ledger

variable (ledger : Ledger) (holding : Holding)

@[simp] theorem effectiveDebtCoeff_ne_rateTooHigh
    : ledger.effectiveDebtCoeff ≠ .error (.math .rateTooHigh) := by
  simp [effectiveDebtCoeff, Except.liftMath_eq_error]

@[simp] theorem realCollateral_ne_rateTooHigh (discounted : Nat)
    : ledger.realCollateral discounted ≠ .error (.math .rateTooHigh) := by
  simp [realCollateral, Except.liftMath_eq_error]

@[simp] theorem charge_ne_rateTooHigh (otherDebt : Nat)
    : ledger.charge otherDebt ≠ .error (.math .rateTooHigh) := by
  unfold charge
  split <;> simp [Except.liftMath_eq_error, Except.pure_eq_error]

@[simp] theorem realDebt_ne_rateTooHigh (discounted : Nat)
    : ledger.realDebt discounted ≠ .error (.math .rateTooHigh) := by
  simp [realDebt, Except.bind_eq_error, Except.liftMath_eq_error]

@[simp] theorem totalRealDebt_ne_rateTooHigh : ledger.totalRealDebt ≠ .error (.math .rateTooHigh) :=
  ledger.realDebt_ne_rateTooHigh _

@[simp] theorem addCollateral_ne_rateTooHigh (discounted : Nat)
    : ledger.addCollateral discounted ≠ .error (.math .rateTooHigh) := by
  simp [addCollateral, Except.map_eq_error, Except.liftMath_eq_error]

@[simp] theorem removeCollateral_ne_rateTooHigh (discounted : Nat)
    : ledger.removeCollateral discounted ≠ .error (.math .rateTooHigh) := by
  simp [removeCollateral, Except.map_eq_error, Except.liftMath_eq_error]

@[simp] theorem removeDebt_ne_rateTooHigh (discounted : Nat)
    : ledger.removeDebt discounted ≠ .error (.math .rateTooHigh) := by
  simp [removeDebt, Except.map_eq_error, Except.liftMath_eq_error]

@[simp] theorem creditHolding_ne_rateTooHigh (real : Nat)
    : ledger.creditHolding holding real ≠ .error (.math .rateTooHigh) := by
  unfold creditHolding
  split
  · simp only [ne_eq, Except.bind_eq_error, realDebt_ne_rateTooHigh, false_or]
    rintro ⟨owed, _, refused⟩
    split at refused
    · simp [Except.bind_eq_error, Except.map_eq_error, Except.liftMath_eq_error] at refused
    · simp [Except.bind_eq_error, Except.map_eq_error, Except.liftMath_eq_error] at refused
  · simp [Except.bind_eq_error, Except.map_eq_error, Except.liftMath_eq_error]

@[simp] theorem rebase_ne_rateTooHigh (debtBefore debtAfter : Nat)
    : ledger.rebase holding debtBefore debtAfter ≠ .error (.math .rateTooHigh) := by
  unfold rebase
  split
  · simp [Except.pure_eq_error]
  · split
    · simp [Except.pure_eq_error]
    · split
      · simp [Except.bind_eq_error, Except.map_eq_error, Except.liftMath_eq_error]
      · simp [Except.bind_eq_error, Except.map_eq_error, Except.liftMath_eq_error]

@[simp] theorem grow_ne_rateTooHigh (interestGrowth feeGrowth : Q96)
    : ledger.grow interestGrowth feeGrowth ≠ .error (.math .rateTooHigh) := by
  unfold grow
  simp only [ne_eq, Except.bind_eq_error, Except.liftMath_eq_error, totalRealDebt_ne_rateTooHigh,
    Q96.sub_ne_rateTooHigh, Q96.scale_ne_rateTooHigh, Q96.mul_ne_rateTooHigh, false_or]
  rintro ⟨_, _, _, _, interest, _, _, _, _, _, _, _, refused⟩
  split at refused
  · simp [Except.bind_eq_error, Except.pure_eq_error] at refused
  · simp [Except.pure_eq_error] at refused

end Ledger

@[simp] theorem leverageOf_ne_rateTooHigh (collateral debt : Nat)
    : leverageOf collateral debt ≠ .error (.math .rateTooHigh) := by
  unfold leverageOf
  split <;> simp [Except.pure_eq_error, Except.liftMath_eq_error]

namespace Book

variable {book book' : Book} {asset : Asset}

@[simp] theorem valued_ne_rateTooHigh (asset : Asset) (price : Q96) (amount : Nat)
    : valued asset price amount ≠ .error (.math .rateTooHigh) := by
  cases asset <;> simp [valued, Except.pure_eq_error, Except.liftMath_eq_error]

@[simp] theorem systemLeverage_ne_rateTooHigh (book : Book) (debtAsset : Asset) (price : Q96)
    : book.systemLeverage debtAsset price ≠ .error (.math .rateTooHigh) := by
  simp only [ne_eq, systemLeverage, totalCollateral, Except.bind_eq_error, Except.pure_eq_error,
    Ledger.charge_ne_rateTooHigh, Ledger.realCollateral_ne_rateTooHigh, valued_ne_rateTooHigh,
    Ledger.totalRealDebt_ne_rateTooHigh, false_or, and_false, exists_false]
  rintro ⟨_, _, _, _, _, _, _, _, refused⟩
  split at refused
  · exact Except.pure_eq_error.mp refused
  · exact leverageOf_ne_rateTooHigh _ _ refused

theorem credit_ne_rateTooHigh (account : AccountId) (real : Nat)
    : credit account asset real book ≠ .error (.math .rateTooHigh) book' := by
  intro refused
  unfold credit at refused
  split at refused
  · cases refused
  · rw [get_bind_apply] at refused
    simp [EStateM.bind_eq_error, EStateM.lift_eq_error, EStateM.set_eq_error] at refused

theorem refreshLeverage_ne_rateTooHigh (price : Q96)
    : refreshLeverage price book ≠ .error (.math .rateTooHigh) book' := by
  intro refused
  unfold refreshLeverage at refused
  rw [get_bind_apply] at refused
  simp [EStateM.bind_eq_error, EStateM.lift_eq_error, EStateM.set_eq_error] at refused

-----
-- Accrual
-----

/-- The interest on a side at its stored leverage comes to 100% per second. -/
def InterestTooHigh (book : Book) (side : Asset) : Prop :=
  ∃ rate annual, book.parameters.annualInterest = .ok rate
    ∧ rate.mul (book.leverage.get side) = .ok annual ∧ .ofNat secondsInYear ≤ annual

/-- A side is refused for its interest. -/
theorem accrueSide_refused {rate feeGrowth : Q96} {seconds : Nat}
    (refused : accrueSide rate feeGrowth seconds asset book = .error (.math .rateTooHigh) book')
    : ∃ annual, rate.mul (book.leverage.get asset) = .ok annual
      ∧ .ofNat secondsInYear ≤ annual := by
  unfold accrueSide at refused
  rw [get_bind_apply] at refused
  split at refused
  · cases refused
  · simp only [EStateM.bind_eq_error, EStateM.lift_eq_error, EStateM.liftMath_eq_error,
      EStateM.lift_eq_ok, EStateM.liftMath_eq_ok, Q96.mul_ne_rateTooHigh,
      Ledger.grow_ne_rateTooHigh, EStateM.set_eq_error, credit_ne_rateTooHigh, false_and, and_false,
      exists_false, or_false, false_or] at refused
    obtain ⟨annual, _, ⟨product, rfl⟩, refused, rfl⟩ := refused
    exact ⟨annual, product, secondsInYear_le_of_growthFactor_refused refused⟩

/-- An accrual under valid parameters is refused for the interest on one of the sides, since a fee
is never too high and what the first side did leaves the parameters and the stored leverage alone.
-/
theorem accrueFor_refused {seconds : Nat} {price : Q96} (valid : book.parameters.violation? = none)
    (refused : accrueFor seconds price book = .error (.math .rateTooHigh) book')
    : ∃ side, book.InterestTooHigh side := by
  unfold accrueFor at refused
  rw [get_bind_apply] at refused
  simp only [EStateM.bind_eq_error, EStateM.lift_eq_error, EStateM.liftMath_eq_error,
    EStateM.lift_eq_ok, EStateM.liftMath_eq_ok, Parameters.annualFee, Parameters.annualInterest,
    Q96.ofDecimal_ne_rateTooHigh, refreshLeverage_ne_rateTooHigh, false_and, and_false,
    exists_false, or_false, false_or] at refused
  obtain ⟨annualFee, _, ⟨fee, rfl⟩, ⟨refused, _⟩ | ⟨feeGrowth, _, ⟨_, rfl⟩, rate, _, ⟨rated, rfl⟩,
    refused | ⟨_, middle, based, refused⟩⟩⟩ := refused
  · have tooHigh := secondsInYear_le_of_growthFactor_refused refused
    have most := Parameters.annualFee_le_one valid fee
    exact absurd (Nat.le_trans tooHigh most) (by decide)
  · obtain ⟨annual, product, tooHigh⟩ := accrueSide_refused refused
    exact ⟨.base, rate, annual, rated, product, tooHigh⟩
  · obtain ⟨annual, product, tooHigh⟩ := accrueSide_refused refused
    have kept : middle.leverage = book.leverage :=
      (congrArg Book.leverage (settings_accrueSide based) :)
    exact ⟨.quote, rate, annual, rated, kept ▸ product, tooHigh⟩

theorem accrue_refused {now : Timestamp} {price : Q96} (valid : book.parameters.violation? = none)
    (refused : accrue now price book = .error (.math .rateTooHigh) book')
    : ∃ side, book.InterestTooHigh side := by
  unfold accrue at refused
  rw [get_bind_apply] at refused
  split at refused
  · cases refused
  · simp only at refused
    split at refused
    · cases refused
    · rcases EStateM.bind_eq_error.mp refused with refused | ⟨_, _, _, refused⟩
      · exact accrueFor_refused valid refused
      · cases refused

end Book

end MarginLending
