import MarginLending.Proofs.Pool.PriceLimits
import Mathlib.Algebra.Order.Round
import Mathlib.Tactic.Linarith

/-!
Fixed-point numbers as decimals and back, in exact numbers. A report is the nearest decimal with 18
fraction digits; the fraction's carry into the whole part makes no difference, because the two are
one quotient. What is cut off when a decimal of at most 18 digits becomes a fixed-point number is
less than half a digit, so that the report of the number is the decimal again.
-/

namespace MarginLending

namespace Decimal

variable {d : Decimal}

/-- A number that is not below zero is not negative, whatever stands before a zero. -/
theorem not_isNegative_of_nonneg (nonneg : 0 ≤ d.toRat) : ¬d.isNegative := by
  intro negative
  obtain ⟨sign, nonzero⟩ : d.negative = true ∧ d.digits ≠ 0 := by simpa [isNegative] using negative
  have below : d.mantissa < 0 := by
    rw [mantissa, sign, withSign, if_pos rfl]
    omega
  have value : d.toRat < 0 := div_neg_of_neg_of_pos (Int.cast_lt_zero.mpr below) (by positivity)
  exact absurd nonneg (not_le.mpr value)

/-- The digits that a number has at 18 places. -/
theorem toRat_mul_pow (notNegative : ¬d.isNegative) (places : d.scale ≤ 18)
    : d.toRat * 10 ^ 18 = (d.digits * 10 ^ (18 - d.scale) : Nat) := by
  have whole : (10 : ℚ) ^ 18 = 10 ^ (18 - d.scale) * 10 ^ d.scale := by
    rw [← pow_add, Nat.sub_add_cancel places]
  rw [toRat, mantissa_eq_digits notNegative, whole, ← mul_assoc, mul_right_comm,
    div_mul_cancel₀ _ (pow_ne_zero _ (by decide))]
  push_cast
  rfl

end Decimal

namespace Q96

/-- A number in units of the last digit of a report, a half rounded up. -/
def reportDigits (q : Q96) : Nat := (q.raw * Nat.pow 10 reportScale + unit / 2) / unit

/-- The whole part and the rounded fraction, carry included, are one quotient. -/
theorem reportDigits_eq (q : Q96)
    : q.raw / unit * Nat.pow 10 reportScale
        + (q.raw % unit * Nat.pow 10 reportScale + unit / 2) / unit
      = q.reportDigits := by
  have parts : q.raw * Nat.pow 10 reportScale + unit / 2
      = (q.raw % unit * Nat.pow 10 reportScale + unit / 2)
        + q.raw / unit * Nat.pow 10 reportScale * unit := by
    conv_lhs => rw [← Nat.div_add_mod q.raw unit]
    ring
  rw [reportDigits, parts, Nat.add_mul_div_right _ _ unit_pos, Nat.add_comm]

theorem toDecimal_eq (q : Q96)
    : q.toDecimal
      = if Nat.pow 2 64 ≤ q.raw / unit then .maximum
        else (Decimal.ofParts? q.reportDigits reportScale).getD .maximum := by
  unfold toDecimal
  rw [← q.reportDigits_eq]

/-- A number whose digits fit a mantissa is reported by them. -/
theorem toDecimal_of_lt {q : Q96} (small : q.reportDigits < mantissaLimit)
    : q.toDecimal.mantissa = q.reportDigits ∧ q.toDecimal.scale = reportScale := by
  have whole : ¬Nat.pow 2 64 ≤ q.raw / unit := by
    intro large
    have beyond := Nat.mul_le_mul_right (Nat.pow 10 reportScale) large
    have limit : mantissaLimit ≤ Nat.pow 2 64 * Nat.pow 10 reportScale := by decide
    have part : q.raw / unit * Nat.pow 10 reportScale ≤ q.reportDigits :=
      q.reportDigits_eq ▸ Nat.le_add_right _ _
    exact Nat.not_lt.mpr (limit.trans (beyond.trans part)) small
  have inRange : (q.reportDigits : Int).natAbs < mantissaLimit ∧ reportScale ≤ maxScale := by
    rw [Int.natAbs_natCast]
    exact ⟨small, by decide⟩
  rw [toDecimal_eq, if_neg whole]
  cases fits : Decimal.ofParts? q.reportDigits reportScale with
  | none =>
      rw [Decimal.ofParts?, dif_pos inRange] at fits
      cases fits
  | some d =>
      obtain ⟨mantissa, scale, _⟩ := Decimal.ofParts?_eq_some_iff.mp fits
      exact ⟨mantissa, scale⟩

/-- And by the largest decimal if they do not. -/
theorem toDecimal_of_le {q : Q96} (large : mantissaLimit ≤ q.reportDigits)
    : q.toDecimal = .maximum := by
  have outOfRange : ¬((q.reportDigits : Int).natAbs < mantissaLimit ∧ reportScale ≤ maxScale) := by
    rw [Int.natAbs_natCast]
    exact fun inRange => Nat.not_lt.mpr large inRange.1
  rw [toDecimal_eq, Decimal.ofParts?, dif_neg outOfRange, Option.getD_none, ite_self]

/-- The digits of a report are the nearest ones to the exact number. -/
theorem round_eq_reportDigits (q : Q96) : round (q.toRat * 10 ^ 18) = q.reportDigits := by
  have exact := Nat.div_add_mod (q.raw * Nat.pow 10 reportScale + unit / 2) unit
  have remainder := Nat.mod_lt (q.raw * Nat.pow 10 reportScale + unit / 2) unit_pos
  have half : unit / 2 + unit / 2 = unit := by decide
  rw [← reportDigits] at exact
  have positive : (0 : ℚ) < unit := Nat.cast_pos.mpr unit_pos
  have scaled : q.toRat * 10 ^ 18 = q.raw * 10 ^ 18 / unit := by
    unfold toRat
    ring
  have low : unit * q.reportDigits ≤ q.raw * 10 ^ 18 + unit / 2 := exact ▸ Nat.le_add_right _ _
  have high : q.raw * 10 ^ 18 + unit / 2 < unit * q.reportDigits + unit :=
    exact ▸ Nat.add_lt_add_left remainder _
  have low' : (unit * q.reportDigits : ℚ) ≤ q.raw * 10 ^ 18 + (unit / 2 : Nat) := by
    exact_mod_cast low
  have high' : (q.raw * 10 ^ 18 + (unit / 2 : Nat) : ℚ) < unit * q.reportDigits + unit := by
    exact_mod_cast high
  have half' : ((unit / 2 : Nat) : ℚ) + (unit / 2 : Nat) = unit := by exact_mod_cast half
  rw [round_eq_iff, scaled]
  constructor
  · rw [le_div_iff₀ positive]
    push_cast
    linarith
  · rw [div_lt_iff₀ positive]
    push_cast
    linarith

/-- A report is the largest decimal only where the nearest digits do not fit: with 18 fraction
digits a mantissa in range makes a smaller number.
-/
theorem toDecimal_eq_maximum_iff (q : Q96)
    : q.toDecimal = .maximum ↔ mantissaLimit ≤ q.reportDigits := by
  constructor
  · intro largest
    by_contra small
    have scale := (toDecimal_of_lt (Nat.lt_of_not_le small)).2
    rw [largest] at scale
    cases scale
  · exact toDecimal_of_le

/-- The number itself, of a report that is not the largest decimal. -/
theorem toRat_toDecimal {q : Q96} (small : q.reportDigits < mantissaLimit)
    : q.toDecimal.toRat = q.reportDigits / 10 ^ 18 := by
  obtain ⟨mantissa, scale⟩ := toDecimal_of_lt small
  rw [Decimal.toRat, mantissa, scale]
  rfl

/-- Half a digit of a report outweighs all that is cut off below the last bit of a fixed-point
number.
-/
theorem reportDigits_of_cut {q : Q96} {digits scale : Nat} (places : scale ≤ 18)
    (low : q.raw * 10 ^ scale ≤ digits * unit)
    (high : digits * unit < q.raw * 10 ^ scale + 10 ^ scale)
    : q.reportDigits = digits * 10 ^ (18 - scale) := by
  -- A last digit is worth at least two last bits, so what is cut off weighs less than half of one.
  have small : 2 * 10 ^ 18 ≤ unit := by decide
  have whole : 10 ^ scale * 10 ^ (18 - scale) = 10 ^ 18 := by
    rw [← Nat.pow_add, Nat.add_sub_cancel' places]
  have low' := Nat.mul_le_mul_right (10 ^ (18 - scale)) low
  have high' :=
    Nat.mul_lt_mul_of_pos_right high (Nat.pow_pos (n := 18 - scale) (by decide : 0 < 10))
  rw [Nat.mul_assoc, whole] at low'
  rw [Nat.add_mul, Nat.mul_assoc q.raw, whole] at high'
  rw [Nat.mul_right_comm] at low' high'
  refine Nat.div_eq_of_lt_le ?_ ?_
  · show _ ≤ q.raw * 10 ^ 18 + unit / 2
    omega
  · show q.raw * 10 ^ 18 + unit / 2 < _
    rw [Nat.succ_mul]
    omega

/-- A decimal that is not negative and its digits in a report fit a mantissa comes back from the
fixed-point number that it makes.
-/
theorem toRat_toDecimal_ofDecimal {d : Decimal} (notNegative : ¬d.isNegative)
    (places : d.scale ≤ 18) (fits : d.digits * 10 ^ (18 - d.scale) < mantissaLimit)
    : ∃ q, ofDecimal d = .ok q ∧ q.toDecimal.toRat = d.toRat := by
  have positive : Nat.pow 10 d.scale ≠ 0 := Nat.ne_of_gt (Nat.pow_pos (by decide))
  have inRange : d.digits * unit / Nat.pow 10 d.scale < wordLimit := by
    have product := Nat.mul_lt_mul_of_pos_right d.digits_lt unit_pos
    have limit : mantissaLimit * unit ≤ wordLimit := by decide
    exact Nat.lt_of_le_of_lt (Nat.div_le_self ..) (Nat.lt_of_lt_of_le product limit)
  have quotient := mulDiv_eq_ok_iff.mpr ⟨positive, rfl, inRange⟩
  obtain ⟨_, low, high⟩ := mulDiv_ok quotient
  refine ⟨⟨d.digits * unit / Nat.pow 10 d.scale⟩, ?_, ?_⟩
  · rw [ofDecimal, if_neg notNegative, quotient]
    rfl
  · have digits := reportDigits_of_cut (q := ⟨_⟩) places low high
    rw [toRat_toDecimal (digits ▸ fits), digits, ← Decimal.toRat_mul_pow notNegative places]
    exact mul_div_cancel_right₀ _ (pow_ne_zero _ (by decide))

-----
-- Reports are faithful
-----

/-- The report of a number has 18 fraction digits, the nearest ones, so that it is off by no more
than half of the last digit; or it is the largest decimal, exactly where the nearest digits need a
mantissa of more than 96 bits. A decimal that is not negative, has at most 18 fraction digits and
fits a mantissa with 18 of them makes a fixed-point number whose report has the value of the
decimal.
-/
theorem toDecimal_faithful
    : (∀ q : Q96, q.toDecimal ≠ .maximum →
        q.toDecimal.scale = 18 ∧ q.toDecimal.mantissa = round (q.toRat * 10 ^ 18)
          ∧ |q.toDecimal.toRat - q.toRat| ≤ 1 / 2 / 10 ^ 18)
      ∧ (∀ q : Q96, q.toDecimal = .maximum ↔ 2 ^ 96 - 1 < round (q.toRat * 10 ^ 18))
      ∧ ∀ d : Decimal, 0 ≤ d.toRat → d.scale ≤ 18 → d.toRat * 10 ^ 18 ≤ 2 ^ 96 - 1 →
          ∃ q, ofDecimal d = .ok q ∧ q.toDecimal.toRat = d.toRat := by
  refine ⟨?_, ?_, ?_⟩
  · intro q notLargest
    have small : q.reportDigits < mantissaLimit :=
      Nat.lt_of_not_le (mt q.toDecimal_eq_maximum_iff.mpr notLargest)
    obtain ⟨mantissa, scale⟩ := toDecimal_of_lt small
    refine ⟨scale, mantissa.trans q.round_eq_reportDigits.symm, ?_⟩
    have nearest := abs_sub_round (q.toRat * 10 ^ 18)
    have positive : (0 : ℚ) < 10 ^ 18 := by norm_num
    rw [q.round_eq_reportDigits, abs_sub_comm] at nearest
    rw [toRat_toDecimal small, le_div_iff₀ positive, ← abs_of_pos positive, ← abs_mul, sub_mul,
      abs_of_pos positive, div_mul_cancel₀ _ positive.ne']
    exact_mod_cast nearest
  · intro q
    rw [q.toDecimal_eq_maximum_iff, q.round_eq_reportDigits]
    have limit : mantissaLimit = 2 ^ 96 := rfl
    omega
  · intro d nonneg places fits
    have notNegative := Decimal.not_isNegative_of_nonneg nonneg
    rw [Decimal.toRat_mul_pow notNegative places] at fits
    refine toRat_toDecimal_ofDecimal notNegative places ?_
    have limit : mantissaLimit = 2 ^ 96 := rfl
    have inRange : ((d.digits * 10 ^ (18 - d.scale) : Nat) : ℚ) < (2 ^ 96 : Nat) := by
      push_cast at fits ⊢
      linarith
    rw [limit]
    exact_mod_cast inRange

/-- Just below two, where the fraction carries; a number whose whole part fits 64 bits and whose
digits do not fit 96; and the largest decimal that 18 fraction digits leave room for.
-/
theorem toDecimal_faithful_sample
    : let carries : Q96 := ⟨2 * unit - 1⟩
      let outgrows : Q96 := ofNat 79228162515
      let most : Decimal := ⟨false, 79228162514264337593543950335, 18, by decide, by decide⟩
      carries.toDecimal ≠ .maximum
      ∧ carries.toDecimal.mantissa = 2 * 10 ^ 18
      ∧ round (carries.toRat * 10 ^ 18) = 2 * 10 ^ 18
      ∧ |carries.toDecimal.toRat - carries.toRat| ≤ 1 / 2 / 10 ^ 18
      ∧ outgrows.toDecimal = .maximum
      ∧ 2 ^ 96 - 1 < round (outgrows.toRat * 10 ^ 18)
      ∧ 0 ≤ most.toRat ∧ most.scale ≤ 18 ∧ most.toRat * 10 ^ 18 ≤ 2 ^ 96 - 1
      ∧ ∃ q, ofDecimal most = .ok q ∧ q.toDecimal.toRat = most.toRat := by
  intro carries outgrows most
  obtain ⟨near, largest, back⟩ := toDecimal_faithful
  have carried : carries.toDecimal ≠ .maximum := by decide
  have digits : carries.toDecimal.mantissa = 2 * 10 ^ 18 := by decide
  have outgrown : outgrows.toDecimal = .maximum := by decide
  have value : most.toRat = 79228162514264337593543950335 / 10 ^ 18 := rfl
  have nonneg : 0 ≤ most.toRat := by rw [value]; norm_num
  have fits : most.toRat * 10 ^ 18 ≤ 2 ^ 96 - 1 := by rw [value]; norm_num
  exact ⟨carried, digits, (near carries carried).2.1.symm.trans digits, (near carries carried).2.2,
    outgrown, (largest outgrows).mp outgrown, nonneg, Nat.le_refl 18, fits,
    back most nonneg (Nat.le_refl 18) fits⟩

end Q96

end MarginLending
