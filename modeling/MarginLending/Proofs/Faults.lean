import MarginLending.Book.Accrual
import MarginLending.Proofs.Failures
import MarginLending.Proofs.Fixed

/-!
Faults of arithmetic. A difference below zero, a division by zero and a negative amount come of a
wrong formula and not of large numbers: a checked operation meets none of them as long as what it
takes away is there and what it divides by is not zero. A computation without faults is one whose
every step has none, whatever else it fails with.
-/

namespace MarginLending

/-- Errors among which some are faults of arithmetic. -/
class Faults (ε : Type) where
  isFault : ε → Bool

/-- Results that are out of range, and rates that the series refuses, are no faults. -/
instance : Faults MathError where
  isFault
    | .underflow | .divisionByZero | .negative => true
    | .overflow | .rateTooHigh => false

/-- Only a failed computation can be a fault. -/
instance : Faults PoolError where
  isFault
    | .math error => Faults.isFault error
    | _ => false

/-- An error that is no fault. -/
def Harmless {ε : Type} [Faults ε] (error : ε) : Prop :=
  Faults.isFault error = false

/-- The computation does not fail with a fault. -/
abbrev Faultless {ε α : Type} [Faults ε] (x : Except ε α) : Prop :=
  FailsWithin Harmless x

/-- From a state, the action does not fail with a fault. -/
abbrev FaultlessFrom {ε σ α : Type} [Faults ε] (x : EStateM ε σ α) (s : σ) : Prop :=
  FailsWithinFrom Harmless x s

-----
-- Checked operations on amounts and numbers
-----

section Arithmetic

variable {a b divisor amount num den : Nat}

theorem faultless_add (a b : Nat) : Faultless (Amount.add a b) := by
  unfold Amount.add
  split
  · exact .pure _
  · exact .throw rfl

theorem faultless_sub (enough : b ≤ a) : Faultless (Amount.sub a b) :=
  .of_ok (Amount.sub_eq_ok_iff.mpr ⟨rfl, enough⟩)

theorem faultless_ofWide (n : Nat) : Faultless (Amount.ofWide n) := by
  unfold Amount.ofWide
  split
  · exact .pure _
  · exact .throw rfl

theorem faultless_narrow (n : Nat) : Faultless (narrow n) := by
  unfold narrow
  split
  · exact .pure _
  · exact .throw rfl

theorem faultless_mulDiv (a b : Nat) (nonzero : divisor ≠ 0) : Faultless (mulDiv a b divisor) := by
  unfold mulDiv
  rw [if_neg nonzero]
  exact faultless_narrow _

theorem faultless_mulDivUp (a b : Nat) (nonzero : divisor ≠ 0)
    : Faultless (mulDivUp a b divisor) := by
  unfold mulDivUp
  rw [if_neg nonzero]
  exact faultless_narrow _

namespace Q96

theorem unit_ne_zero : unit ≠ 0 := Nat.ne_of_gt unit_pos

theorem faultless_add (p q : Q96) : Faultless (p.add q) := by
  unfold add
  split
  · exact .pure _
  · exact .throw rfl

theorem faultless_sub {p q : Q96} (enough : q ≤ p) : Faultless (p.sub q) :=
  .of_ok (if_pos enough)

theorem faultless_mul (p q : Q96) : Faultless (p.mul q) :=
  .map (faultless_mulDiv _ _ unit_ne_zero)

theorem faultless_div (p : Q96) {q : Q96} (nonzero : q.raw ≠ 0) : Faultless (p.div q) :=
  .map (faultless_mulDiv _ _ nonzero)

theorem faultless_ofRatio (num : Nat) (nonzero : den ≠ 0) : Faultless (ofRatio num den) :=
  .map (faultless_mulDiv _ _ nonzero)

theorem faultless_scale (q : Q96) (amount : Nat) : Faultless (q.scale amount) :=
  .bind (faultless_mulDiv _ _ unit_ne_zero) fun _ _ => faultless_ofWide _

theorem faultless_scaleUp (q : Q96) (amount : Nat) : Faultless (q.scaleUp amount) :=
  .bind (faultless_mulDivUp _ _ unit_ne_zero) fun _ _ => faultless_ofWide _

theorem faultless_unscale {q : Q96} (nonzero : q.raw ≠ 0) (amount : Nat)
    : Faultless (q.unscale amount) :=
  .bind (faultless_mulDiv _ _ nonzero) fun _ _ => faultless_ofWide _

theorem faultless_unscaleUp {q : Q96} (nonzero : q.raw ≠ 0) (amount : Nat)
    : Faultless (q.unscaleUp amount) :=
  .bind (faultless_mulDivUp _ _ nonzero) fun _ _ => faultless_ofWide _

-----
-- Growth factors
-----

/-- The series only ever multiplies and adds, by induction on its terms. -/
theorem faultless_seriesFrom (x exponent i sum term count : Nat)
    : Faultless (seriesFrom x exponent i sum term count) := by
  induction count generalizing i sum term with
  | zero => exact .pure _
  | succ count ih =>
      unfold seriesFrom
      simp only
      split
      · exact .throw rfl
      · refine .bind (faultless_mulDiv _ _ unit_ne_zero) fun next _ => ?_
        split
        · exact .throw rfl
        · exact ih ..

/-- Terms are added to the sum and none is taken away, by induction on them. -/
theorem le_seriesFrom {x exponent i sum term count result : Nat}
    (known : seriesFrom x exponent i sum term count = .ok result)
    : sum ≤ result := by
  induction count generalizing i sum term with
  | zero => exact Nat.le_of_eq (Except.ok.inj known)
  | succ count ih =>
      unfold seriesFrom at known
      simp only at known
      split at known
      · exact (Except.throw_eq_ok.mp known).elim
      · obtain ⟨next, _, known⟩ := Except.bind_eq_ok.mp known
        split at known
        · exact (Except.throw_eq_ok.mp known).elim
        · exact Nat.le_trans (Nat.le_add_right ..) (ih known)

theorem faultless_powSeries {factor : Q96} (grows : one ≤ factor) (exponent : Nat)
    : Faultless (factor.powSeries exponent) := by
  refine .bind (faultless_sub grows) fun x _ => ?_
  split
  · exact .throw rfl
  · exact .map (faultless_seriesFrom ..)

/-- A power of a factor that grows is one at least. -/
theorem one_le_powSeries {factor growth : Q96} {exponent : Nat}
    (known : factor.powSeries exponent = .ok growth)
    : one ≤ growth := by
  obtain ⟨x, _, known⟩ := Except.bind_eq_ok.mp known
  split at known
  · exact (Except.throw_eq_ok.mp known).elim
  · obtain ⟨_, series, rfl⟩ := Except.map_eq_ok.mp known
    exact le_seriesFrom series

end Q96

theorem faultless_growthFactor (annual : Q96) (seconds : Nat)
    : Faultless (growthFactor annual seconds) := by
  unfold growthFactor
  refine .lift_bind (Q96.faultless_div _ (by decide)) fun perSecond _ => ?_
  refine .lift_bind (Q96.faultless_add ..) fun step stepped => ?_
  have grows : Q96.one ≤ step := by
    rw [Q96.le_def, (Q96.add_eq_ok.mp stepped).2]
    exact Nat.le_add_right ..
  exact .lift (Q96.faultless_powSeries grows _)

/-- A growth factor is one at least. -/
theorem one_le_growthFactor {annual growth : Q96} {seconds : Nat}
    (known : growthFactor annual seconds = .ok growth)
    : Q96.one ≤ growth := by
  simp only [growthFactor, Except.bind_eq_ok, Except.liftMath_eq_ok] at known
  obtain ⟨_, _, _, _, power⟩ := known
  exact Q96.one_le_powSeries power

end Arithmetic

-----
-- Fractions
-----

section Fractions

variable {d : Decimal} {parameters : Parameters}

theorem scale_ne_zero (d : Decimal) : Nat.pow 10 d.scale ≠ 0 :=
  Nat.ne_of_gt (Nat.pow_pos (by decide))

theorem faultless_fractionOf (notNegative : d.isNegative = false) (amount : Nat)
    : Faultless (fractionOf amount d) := by
  unfold fractionOf
  rw [if_neg (by simp [notNegative])]
  exact .bind (faultless_mulDiv _ _ (scale_ne_zero d)) fun _ _ => faultless_ofWide _

theorem faultless_ofDecimal (notNegative : d.isNegative = false) : Faultless (Q96.ofDecimal d) := by
  unfold Q96.ofDecimal
  rw [if_neg (by simp [notNegative])]
  exact .map (faultless_mulDiv _ _ (scale_ne_zero d))

/-- The value of a fraction is not below zero. -/
theorem isNegative_of_isFraction (fraction : Parameters.isFraction d) : d.isNegative = false := by
  have ordered : ¬(d.mantissa < 0) := by
    have above : d.lessThan .zero = false := by
      simp only [Parameters.isFraction, Bool.and_eq_true, Bool.not_eq_true'] at fraction
      exact fraction.1
    unfold Decimal.lessThan Decimal.compare at above
    rw [beq_eq_false_iff_ne, ne_eq, Int.compare_eq_lt] at above
    simpa [Decimal.zero, Decimal.mantissa, withSign] using above
  unfold Decimal.mantissa withSign at ordered
  unfold Decimal.isNegative
  cases negative : d.negative
  · rfl
  · rw [if_pos negative] at ordered
    simp only [Bool.true_and, bne_eq_false_iff_eq]
    omega

/-- A decimal that is made to fit a number not below zero is not below zero. -/
theorem isNegative_of_fit {mantissa : Int} {scale : Nat} (notNegative : 0 ≤ mantissa)
    (fits : Decimal.fit mantissa scale = some d)
    : d.isNegative = false := by
  have unsigned : ∀ {digits places : Nat}, Decimal.ofParts? digits places = some d →
      d.isNegative = false := by
    intro digits places known
    have plain := (Decimal.ofParts?_eq_some_iff.mp known).1
    unfold Decimal.mantissa withSign at plain
    unfold Decimal.isNegative
    cases negative : d.negative
    · rfl
    · rw [if_pos negative] at plain
      simp only [Bool.true_and, bne_eq_false_iff_eq]
      omega
  unfold Decimal.fit at fits
  simp only [decide_eq_false (Int.not_lt.mpr notNegative), withSign] at fits
  split at fits
  · exact unsigned fits
  · exact unsigned fits

/-- What is left of one after a fraction is not below zero. -/
theorem isNegative_of_sub {kept : Decimal} (fraction : Parameters.isFraction d)
    (difference : Decimal.one.sub? d = some kept)
    : kept.isNegative = false := by
  have digits := Parameters.digits_le fraction (by simp [isNegative_of_isFraction fraction])
  have size : d.neg.mantissa.natAbs = d.digits := d.neg.natAbs_mantissa
  refine isNegative_of_fit ?_ difference
  have scales : max Decimal.one.scale d.neg.scale = d.scale := Nat.zero_max _
  have own : d.scale - d.neg.scale = 0 := Nat.sub_self _
  rw [scales, own, show Decimal.one.mantissa = 1 from rfl, show Decimal.one.scale = 0 from rfl,
    Nat.sub_zero]
  simp only [Nat.pow_eq, Nat.pow_zero, Int.natCast_one, Int.one_mul, Int.mul_one] at digits ⊢
  omega

/-- All fractions among valid parameters are fractions. -/
theorem Parameters.isFraction_of_valid (valid : parameters.violation? = none)
    : ∀ entry ∈ parameters.fractions, isFraction entry.2 := by
  intro entry member
  unfold violation? at valid
  split at valid
  · cases valid
  · cases found : parameters.fractions.find? fun entry => !isFraction entry.2 with
    | some entry =>
        rw [found] at valid
        cases valid
    | none => simpa using List.find?_eq_none.mp found entry member

end Fractions

end MarginLending
