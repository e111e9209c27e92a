import MarginLending.Proofs.Book.Surplus
import Mathlib.Data.Nat.Cast.Order.Field
import Mathlib.Data.Nat.Choose.Bounds
import Mathlib.Data.Nat.Choose.Cast
import Mathlib.Data.Nat.Choose.Vandermonde
import Mathlib.Tactic.Linarith
import Mathlib.Tactic.Positivity

/-!
How far compounding lies from the exact binomial series. A term is derived from the truncated one
before it through two divisions, and what each takes away is carried on into the terms behind it.
Compounding in two runs is compared with one run by way of the exact series, where one run can only
fall short.
-/

namespace MarginLending.Q96

-----
-- The terms
-----

/-- Term i of the series as it is computed, each from the truncated one before it. -/
def seriesTerm (x exponent : Nat) : Nat → Nat
  | 0 => unit
  | i + 1 => seriesTerm x exponent i * ((exponent - i) * x / (i + 1)) / unit

/-- The sum of the terms up to term i. -/
def seriesSum (x exponent : Nat) : Nat → Nat
  | 0 => unit
  | i + 1 => seriesSum x exponent i + seriesTerm x exponent (i + 1)

section Terms

variable {x exponent : Nat}

theorem seriesTerm_one : seriesTerm x exponent 1 = exponent * x := by
  rw [seriesTerm, seriesTerm, Nat.sub_zero, Nat.div_one, Nat.mul_div_cancel_left _ unit_pos]

theorem seriesTerm_le_sum (i : Nat) : seriesTerm x exponent i ≤ seriesSum x exponent i := by
  cases i with
  | zero => exact Nat.le_refl _
  | succ i => exact Nat.le_add_left ..

theorem seriesSum_mono {i j : Nat} (earlier : i ≤ j)
    : seriesSum x exponent i ≤ seriesSum x exponent j := by
  induction earlier with
  | refl => exact Nat.le_refl _
  | step _ ih => exact Nat.le_trans ih (Nat.le_add_right ..)

/-- The term behind the exponent is nothing. -/
theorem seriesTerm_succ_of_le {i : Nat} (past : exponent ≤ i)
    : seriesTerm x exponent (i + 1) = 0 := by
  rw [seriesTerm, Nat.sub_eq_zero_of_le past, Nat.zero_mul, Nat.zero_div, Nat.mul_zero,
    Nat.zero_div]

/-- The sum stands still behind the exponent. -/
theorem seriesSum_of_le {i j : Nat} (past : exponent ≤ i) (later : i ≤ j)
    : seriesSum x exponent j = seriesSum x exponent i := by
  induction later with
  | refl => rfl
  | @step j later ih =>
      rw [seriesSum, seriesTerm_succ_of_le (Nat.le_trans past later), Nat.add_zero, ih]

theorem seriesSum_min (i : Nat)
    : seriesSum x exponent (Nat.min exponent i) = seriesSum x exponent i := by
  rcases Nat.le_total exponent i with past | before
  · rw [show Nat.min exponent i = exponent from Nat.min_eq_left past,
      seriesSum_of_le (Nat.le_refl _) past]
  · rw [show Nat.min exponent i = i from Nat.min_eq_right before]

/-- Term by term, a larger step or a larger exponent adds more. -/
theorem seriesTerm_le_seriesTerm {x' exponent' : Nat} (slower : x ≤ x')
    (fewer : exponent ≤ exponent') (i : Nat)
    : seriesTerm x exponent i ≤ seriesTerm x' exponent' i := by
  induction i with
  | zero => exact Nat.le_refl _
  | succ i ih =>
      have factor : (exponent - i) * x / (i + 1) ≤ (exponent' - i) * x' / (i + 1) :=
        Nat.div_le_div_right (Nat.mul_le_mul (Nat.sub_le_sub_right fewer i) slower)
      exact Nat.div_le_div_right (Nat.mul_le_mul ih factor)

theorem seriesSum_le_seriesSum {x' exponent' : Nat} (slower : x ≤ x')
    (fewer : exponent ≤ exponent') (i : Nat)
    : seriesSum x exponent i ≤ seriesSum x' exponent' i := by
  induction i with
  | zero => exact Nat.le_refl _
  | succ i ih => exact Nat.add_le_add ih (seriesTerm_le_seriesTerm slower fewer _)

/-- One turn of the loop adds one term. -/
theorem seriesFrom_succ_eq_ok_iff {i count result : Nat}
    : seriesFrom x exponent i (seriesSum x exponent i) (seriesTerm x exponent i) (count + 1)
        = .ok result
      ↔ (exponent - i) * x < wordLimit
        ∧ seriesSum x exponent (i + 1) < wordLimit
        ∧ seriesFrom x exponent (i + 1) (seriesSum x exponent (i + 1))
            (seriesTerm x exponent (i + 1)) count
          = .ok result := by
  rw [seriesFrom]
  constructor
  · intro known
    split at known
    · exact (Except.throw_eq_ok.mp known).elim
    · next small =>
        obtain ⟨_, term, known⟩ := Except.bind_eq_ok.mp known
        obtain ⟨_, rfl, _⟩ := mulDiv_eq_ok_iff.mp term
        split at known
        · exact (Except.throw_eq_ok.mp known).elim
        · next fits => exact ⟨Nat.lt_of_not_le small, Nat.lt_of_not_le fits, known⟩
  · rintro ⟨small, fits, known⟩
    have term : mulDiv (seriesTerm x exponent i) ((exponent - i) * x / (i + 1)) unit
        = .ok (seriesTerm x exponent (i + 1)) :=
      mulDiv_eq_ok_iff.mpr ⟨Nat.ne_of_gt unit_pos, rfl,
        Nat.lt_of_le_of_lt (seriesTerm_le_sum (i + 1)) fits⟩
    simp only [if_neg (Nat.not_le_of_lt small)]
    refine Except.bind_eq_ok.mpr ⟨_, term, ?_⟩
    split
    · next large => exact absurd large (Nat.not_le_of_lt fits)
    · exact known

/-- The loop adds up the terms, and fails only on its first factor or on the whole sum: the factors
fall from turn to turn, and what is added is never taken away. By induction on the turns.
-/
theorem seriesFrom_eq_ok_iff {i count result : Nat} (inRange : seriesSum x exponent i < wordLimit)
    : seriesFrom x exponent i (seriesSum x exponent i) (seriesTerm x exponent i) count = .ok result
      ↔ (0 < count → (exponent - i) * x < wordLimit)
        ∧ result = seriesSum x exponent (i + count)
        ∧ result < wordLimit := by
  induction count generalizing i with
  | zero =>
      constructor
      · rintro ⟨rfl⟩
        exact ⟨fun turns => absurd turns (Nat.lt_irrefl _), rfl, inRange⟩
      · rintro ⟨_, rfl, _⟩
        rfl
  | succ count ih =>
      have total : i + (count + 1) = i + 1 + count := by omega
      have falls : (exponent - (i + 1)) * x ≤ (exponent - i) * x :=
        Nat.mul_le_mul_right _ (Nat.sub_le_sub_left (Nat.le_succ i) _)
      rw [seriesFrom_succ_eq_ok_iff, total]
      constructor
      · rintro ⟨small, fits, known⟩
        exact ⟨fun _ => small, ((ih fits).mp known).2⟩
      · rintro ⟨small, rfl, inRange⟩
        have small := small (Nat.succ_pos _)
        have fits : seriesSum x exponent (i + 1) < wordLimit :=
          Nat.lt_of_le_of_lt (seriesSum_mono (Nat.le_add_right ..)) inRange
        exact ⟨small, fits, (ih fits).mpr
          ⟨fun _ => Nat.lt_of_le_of_lt falls small, rfl, inRange⟩⟩

end Terms

-----
-- What compounding computes
-----

/-- What a growth factor adds to one in a step, in raw units. -/
def step (factor : Q96) : Nat := factor.raw - unit

/-- Compounding returns the sum of the leading term and three more, for a step below one and as long
as its numbers stay in range.
-/
theorem powSeries_eq_ok_iff {factor growth : Q96} {exponent : Nat}
    : factor.powSeries exponent = .ok growth
      ↔ one ≤ factor
        ∧ factor.step < unit
        ∧ exponent * factor.step < wordLimit
        ∧ growth.raw = seriesSum factor.step exponent 3
        ∧ growth.raw < wordLimit := by
  have start : seriesSum factor.step exponent 0 < wordLimit := by
    show unit < wordLimit
    decide
  have series := fun result =>
    @seriesFrom_eq_ok_iff factor.step exponent 0 (Nat.min exponent seriesTerms) result start
  simp only [Nat.zero_add, Nat.sub_zero, seriesTerms, seriesSum_min] at series
  constructor
  · intro known
    obtain ⟨x, less, known⟩ := Except.bind_eq_ok.mp known
    obtain ⟨grows, same⟩ := sub_eq_ok.mp less
    split at known
    · exact (Except.throw_eq_ok.mp known).elim
    · next small =>
        obtain rfl : x = ⟨factor.step⟩ := ext_raw same
        obtain ⟨sum, sums, rfl⟩ := Except.map_eq_ok.mp known
        obtain ⟨first, total, inRange⟩ := (series sum).mp sums
        refine ⟨grows, Nat.lt_of_not_le small, ?_, total, inRange⟩
        rcases Nat.eq_zero_or_pos exponent with rfl | positive
        · rw [Nat.zero_mul]
          decide
        · exact first (Nat.lt_min.mpr ⟨positive, by decide⟩)
  · rintro ⟨grows, small, first, total, inRange⟩
    refine Except.bind_eq_ok.mpr ⟨⟨factor.step⟩, sub_eq_ok.mpr ⟨grows, rfl⟩, ?_⟩
    simp only [if_neg (Nat.not_le_of_lt small)]
    have sums := (series growth.raw).mpr ⟨fun _ => first, total, inRange⟩
    exact Except.map_eq_ok.mpr ⟨growth.raw, sums, rfl⟩

/-- Compounding a smaller factor over fewer steps is possible too, and returns no more. -/
theorem powSeries_mono {factor factor' growth : Q96} {exponent exponent' : Nat}
    (grows : one ≤ factor') (slower : factor' ≤ factor) (fewer : exponent' ≤ exponent)
    (known : factor.powSeries exponent = .ok growth)
    : ∃ growth', factor'.powSeries exponent' = .ok growth' ∧ growth' ≤ growth := by
  obtain ⟨_, small, first, total, inRange⟩ := powSeries_eq_ok_iff.mp known
  have steps : factor'.step ≤ factor.step := Nat.sub_le_sub_right slower _
  have less : seriesSum factor'.step exponent' 3 ≤ growth.raw := by
    rw [total]
    exact seriesSum_le_seriesSum steps fewer 3
  have first : exponent' * factor'.step < wordLimit :=
    Nat.lt_of_le_of_lt (Nat.mul_le_mul fewer steps) first
  exact ⟨⟨seriesSum factor'.step exponent' 3⟩, powSeries_eq_ok_iff.mpr
    ⟨grows, Nat.lt_of_le_of_lt steps small, first, rfl, Nat.lt_of_le_of_lt less inRange⟩, less⟩

-----
-- The exact series
-----

/-- What a growth factor adds to one in a step. -/
def rate (factor : Q96) : ℚ := factor.toRat - 1

/-- Term i of the binomial series of (1 + rate) to the exponent. -/
def binomialTerm (rate : ℚ) (exponent i : Nat) : ℚ := exponent.choose i * rate ^ i

/-- The binomial series of (1 + rate) to the exponent, cut off behind the cubic term. -/
def binomial (rate : ℚ) (exponent : Nat) : ℚ :=
  1 + exponent * rate + exponent.choose 2 * rate ^ 2 + exponent.choose 3 * rate ^ 3

theorem rate_eq {factor : Q96} (grows : one ≤ factor) : factor.rate = factor.step / unit := by
  have unit : (unit : ℚ) ≠ 0 := by exact_mod_cast Nat.ne_of_gt unit_pos
  unfold rate toRat step
  rw [show ((factor.raw - Q96.unit : Nat) : ℚ) = factor.raw - Q96.unit from Nat.cast_sub grows]
  field_simp

section Exact

variable {rate : ℚ}

theorem binomialTerm_nonneg (atLeast : 0 ≤ rate) (exponent i : Nat)
    : 0 ≤ binomialTerm rate exponent i := by
  unfold binomialTerm
  positivity

theorem binomialTerm_succ (rate : ℚ) (exponent i : Nat)
    : binomialTerm rate exponent (i + 1)
      = binomialTerm rate exponent i * ((exponent - i : Nat) * rate / (i + 1)) := by
  have choose : (exponent.choose (i + 1) : ℚ) * (i + 1)
      = exponent.choose i * (exponent - i : Nat) := by
    exact_mod_cast Nat.choose_succ_right_eq exponent i
  have positive : (i + 1 : ℚ) ≠ 0 := by positivity
  unfold binomialTerm
  rw [pow_succ]
  field_simp
  linear_combination rate ^ i * rate * choose

theorem binomial_eq (rate : ℚ) (exponent : Nat)
    : binomial rate exponent
      = binomialTerm rate exponent 0 + binomialTerm rate exponent 1 + binomialTerm rate exponent 2
        + binomialTerm rate exponent 3 := by
  simp [binomial, binomialTerm]

/-- A term is no more than that of the exponential series. -/
theorem binomialTerm_le (atLeast : 0 ≤ rate) (exponent i : Nat)
    : binomialTerm rate exponent i ≤ (exponent * rate) ^ i / i.factorial := by
  have choose : (exponent.choose i : ℚ) ≤ exponent ^ i / i.factorial :=
    Nat.choose_le_pow_div i exponent
  calc binomialTerm rate exponent i
      ≤ exponent ^ i / i.factorial * rate ^ i := mul_le_mul_of_nonneg_right choose (by positivity)
    _ = (exponent * rate) ^ i / i.factorial := by rw [mul_pow]; ring

end Exact

-----
-- How far the terms fall behind
-----

section Lag

variable (x exponent : Nat)

/-- What is left of a quotient by i + 1 is i parts of i + 1 at most. -/
theorem div_succ_le (numerator i : Nat)
    : (numerator : ℚ) / (i + 1) ≤ (numerator / (i + 1) : Nat) + i / (i + 1) := by
  have positive : (0 : ℚ) < i + 1 := by positivity
  have remainder : numerator ≤ numerator / (i + 1) * (i + 1) + i := by
    have := Nat.div_add_mod' numerator (i + 1)
    have : numerator % (i + 1) < i + 1 := Nat.mod_lt numerator (Nat.succ_pos i)
    omega
  rw [div_le_iff₀ positive, add_mul, div_mul_cancel₀ _ positive.ne']
  exact_mod_cast remainder

/-- By induction on the terms: each is rounded down from a product with what was rounded down. -/
theorem seriesTerm_le (i : Nat)
    : (seriesTerm x exponent i : ℚ) ≤ unit * binomialTerm (x / unit) exponent i := by
  have unit : (0 : ℚ) < unit := by exact_mod_cast unit_pos
  have atLeast : (0 : ℚ) ≤ x / Q96.unit := by positivity
  induction i with
  | zero => simp [seriesTerm, binomialTerm]
  | succ i ih =>
      have exact := binomialTerm_nonneg atLeast exponent i
      have factor : (((exponent - i) * x / (i + 1) : Nat) : ℚ)
          ≤ (exponent - i : Nat) * x / (i + 1) := by
        exact_mod_cast @Nat.cast_div_le ℚ _ _ _ ((exponent - i) * x) (i + 1)
      calc (seriesTerm x exponent (i + 1) : ℚ)
          ≤ seriesTerm x exponent i * ((exponent - i) * x / (i + 1) : Nat) / Q96.unit := by
            exact_mod_cast @Nat.cast_div_le ℚ _ _ _ _ Q96.unit
        _ ≤ Q96.unit * binomialTerm (x / Q96.unit) exponent i
              * ((exponent - i : Nat) * x / (i + 1)) / Q96.unit := by
            gcongr
        _ = Q96.unit * binomialTerm (x / Q96.unit) exponent (i + 1) := by
            rw [binomialTerm_succ]
            field_simp

/-- How far term i lies below the exact one, in raw units. -/
def lag (i : Nat) : ℚ := unit * binomialTerm (x / unit) exponent i - seriesTerm x exponent i

theorem lag_nonneg (i : Nat) : 0 ≤ lag x exponent i :=
  sub_nonneg.mpr (seriesTerm_le x exponent i)

/-- The linear term is exact. -/
theorem lag_one : lag x exponent 1 = 0 := by
  have unit : (unit : ℚ) ≠ 0 := by exact_mod_cast Nat.ne_of_gt unit_pos
  rw [lag, seriesTerm_one, binomialTerm]
  push_cast
  field_simp
  simp

/-- A term carries on what the one before it lacks, and loses what its two divisions take. -/
theorem lag_succ_le (i : Nat)
    : lag x exponent (i + 1)
      ≤ lag x exponent i * (exponent * (x / unit) / (i + 1))
        + binomialTerm (x / unit) exponent i * (i / (i + 1)) + 1 := by
  have unit : (0 : ℚ) < unit := by exact_mod_cast unit_pos
  have behind := lag_nonneg x exponent i
  have within := seriesTerm_le x exponent i
  unfold lag at behind ⊢
  generalize exact_eq : binomialTerm (x / Q96.unit) exponent i = exact at *
  generalize term_eq : seriesTerm x exponent i = term at *
  generalize factor_eq : (exponent - i) * x / (i + 1) = factor
  -- The two divisions
  have rounded : ((exponent - i : Nat) * x : ℚ) / (i + 1) ≤ factor + i / (i + 1) := by
    rw [← factor_eq]
    exact_mod_cast div_succ_le ((exponent - i) * x) i
  have truncated : (term * factor : ℚ) / Q96.unit ≤ seriesTerm x exponent (i + 1) + 1 := by
    have below := Nat.lt_div_mul_add (a := term * factor) unit_pos
    rw [seriesTerm, term_eq, factor_eq, div_le_iff₀ unit, add_mul, one_mul]
    exact_mod_cast below.le
  -- What was lacking before, and what was not
  have lacking : (Q96.unit * exact - term) * ((exponent - i : Nat) * (x / Q96.unit) / (i + 1))
      ≤ (Q96.unit * exact - term) * (exponent * (x / Q96.unit) / (i + 1)) := by
    have steps : ((exponent - i : Nat) : ℚ) ≤ exponent := by exact_mod_cast Nat.sub_le ..
    gcongr
  have present : term * ((exponent - i : Nat) * (x / Q96.unit) / (i + 1))
      ≤ seriesTerm x exponent (i + 1) + 1 + exact * (i / (i + 1)) :=
    calc (term : ℚ) * ((exponent - i : Nat) * (x / Q96.unit) / (i + 1))
        = term / Q96.unit * (((exponent - i : Nat) * x : ℚ) / (i + 1)) := by ring
      _ ≤ term / Q96.unit * (factor + i / (i + 1)) := by gcongr
      _ = term * factor / Q96.unit + term / Q96.unit * (i / (i + 1)) := by ring
      _ ≤ seriesTerm x exponent (i + 1) + 1 + exact * (i / (i + 1)) := by
          gcongr
          rwa [div_le_iff₀ unit, mul_comm]
  rw [binomialTerm_succ, exact_eq]
  linarith

/-- The quadratic term loses half a unit for every whole of exponent times rate, and one in its
division.
-/
theorem lag_two_le : lag x exponent 2 ≤ exponent * (x / unit) / 2 + 1 := by
  have behind := lag_succ_le x exponent 1
  simp only [lag_one, binomialTerm, Nat.choose_one_right] at behind
  norm_num at behind
  linarith

theorem lag_three_le
    : lag x exponent 3
      ≤ exponent * (x / unit) / 3 + (exponent * (x / unit)) ^ 2 / 2 + 1 := by
  have behind := lag_succ_le x exponent 2
  have atLeast : (0 : ℚ) ≤ x / unit := by positivity
  have before := lag_two_le x exponent
  have term := binomialTerm_le atLeast exponent 2
  have nonneg : 0 ≤ exponent * (x / unit : ℚ) := by positivity
  generalize (exponent * (x / unit) : ℚ) = grown at *
  have carried : lag x exponent 2 * (grown / 3) ≤ (grown / 2 + 1) * (grown / 3) :=
    mul_le_mul_of_nonneg_right before (by positivity)
  norm_num at behind term
  linarith

/-- The sum falls short by what its terms lack. -/
theorem binomial_sub_seriesSum
    : unit * binomial (x / unit) exponent - seriesSum x exponent 3
      = lag x exponent 2 + lag x exponent 3 := by
  have linear := lag_one x exponent
  have whole : (seriesTerm x exponent 0 : ℚ) = unit := rfl
  have sum : (seriesSum x exponent 3 : ℚ)
      = unit + seriesTerm x exponent 1 + seriesTerm x exponent 2 + seriesTerm x exponent 3 := by
    simp [seriesSum]
  unfold lag at *
  rw [binomial_eq, sum]
  simp only [show binomialTerm (x / unit) exponent 0 = 1 by simp [binomialTerm]]
  linarith

end Lag

-----
-- Accuracy
-----

section Accuracy

variable {factor growth : Q96} {exponent : Nat}

/-- What compounds at all adds something between zero and one in each step. -/
theorem rate_of_powSeries (grown : factor.powSeries exponent = .ok growth)
    : 0 ≤ factor.rate ∧ factor.rate < 1 := by
  obtain ⟨grows, small, _⟩ := powSeries_eq_ok_iff.mp grown
  have unit : (0 : ℚ) < unit := by exact_mod_cast unit_pos
  rw [rate_eq grows, div_lt_one unit]
  exact ⟨div_nonneg (Nat.cast_nonneg _) unit.le, by exact_mod_cast small⟩

theorem powSeries_le (grown : factor.powSeries exponent = .ok growth)
    : growth.raw ≤ unit * binomial factor.rate exponent := by
  obtain ⟨grows, _, _, total, _⟩ := powSeries_eq_ok_iff.mp grown
  have short := binomial_sub_seriesSum factor.step exponent
  have quadratic := lag_nonneg factor.step exponent 2
  have cubic := lag_nonneg factor.step exponent 3
  rw [rate_eq grows, total]
  linarith

theorem sub_powSeries_le (grown : factor.powSeries exponent = .ok growth)
    : unit * binomial factor.rate exponent - growth.raw
      ≤ 2 + exponent * factor.rate + (exponent * factor.rate) ^ 2 := by
  obtain ⟨grows, _, _, total, _⟩ := powSeries_eq_ok_iff.mp grown
  have short := binomial_sub_seriesSum factor.step exponent
  have quadratic := lag_two_le factor.step exponent
  have cubic := lag_three_le factor.step exponent
  have nonneg : 0 ≤ exponent * factor.rate :=
    mul_nonneg (Nat.cast_nonneg _) (rate_of_powSeries grown).1
  rw [← rate_eq grows] at short quadratic cubic
  rw [total]
  linarith [sq_nonneg (exponent * factor.rate)]

end Accuracy

/-- Compounding never returns more than the binomial series cut off behind its cubic term, and lies
below it by no more than two units, one for every whole of exponent times rate, and one for every
whole of its square. It returns no less for a larger factor or a larger exponent, and returns a
value for every smaller one.
-/
theorem powSeries_accurate {factor growth : Q96} {exponent : Nat}
    (grown : factor.powSeries exponent = .ok growth)
    : (0 ≤ factor.rate ∧ factor.rate < 1)
      ∧ growth.raw ≤ unit * binomial factor.rate exponent
      ∧ unit * binomial factor.rate exponent - growth.raw
        ≤ 2 + exponent * factor.rate + (exponent * factor.rate) ^ 2
      ∧ ∀ slower fewer, one ≤ slower → slower ≤ factor → fewer ≤ exponent
        → ∃ less, slower.powSeries fewer = .ok less ∧ less ≤ growth :=
  ⟨rate_of_powSeries grown, powSeries_le grown, sub_powSeries_le grown,
    fun _ _ grows slower fewer => powSeries_mono grows slower fewer grown⟩

/-- Five steps of a third each. -/
theorem powSeries_accurate_thirds
    : ∃ growth, powSeries ⟨unit + unit / 3⟩ 5 = .ok growth
      ∧ growth.raw ≤ unit * binomial (rate ⟨unit + unit / 3⟩) 5
      ∧ unit * binomial (rate ⟨unit + unit / 3⟩) 5 - growth.raw
        ≤ 2 + (5 : Nat) * rate ⟨unit + unit / 3⟩ + ((5 : Nat) * rate ⟨unit + unit / 3⟩) ^ 2 :=
  have grown
      : powSeries ⟨unit + unit / 3⟩ 5 = .ok ⟨seriesSum (unit / 3) 5 3⟩ := by
    decide +kernel
  have accurate := powSeries_accurate grown
  ⟨_, grown, accurate.2.1, accurate.2.2.1⟩

-----
-- Two runs and one
-----

section Split

variable {rate : ℚ} {first second : Nat}

/-- Vandermonde's identity, term by term. -/
theorem binomialTerm_add (rate : ℚ) (first second i : Nat)
    : binomialTerm rate (first + second) i
      = ∑ split ∈ Finset.HasAntidiagonal.antidiagonal i,
          binomialTerm rate first split.1 * binomialTerm rate second split.2 := by
  unfold binomialTerm
  rw [Nat.add_choose_eq, Nat.cast_sum, Finset.sum_mul]
  refine Finset.sum_congr rfl fun split sums => ?_
  rw [← Finset.HasAntidiagonal.mem_antidiagonal.mp sums, pow_add]
  push_cast
  ring

/-- The terms of one run are among the products of the terms of two. -/
theorem binomial_add_le (atLeast : 0 ≤ rate) (first second : Nat)
    : binomial rate (first + second) ≤ binomial rate first * binomial rate second := by
  have early := binomialTerm_nonneg atLeast first
  have late := binomialTerm_nonneg atLeast second
  have products := fun i j => mul_nonneg (early i) (late j)
  -- The products that have no place in a cubic series
  have beyond : binomial rate first * binomial rate second - binomial rate (first + second)
      = binomialTerm rate first 1 * binomialTerm rate second 3
        + binomialTerm rate first 2 * binomialTerm rate second 2
        + binomialTerm rate first 2 * binomialTerm rate second 3
        + binomialTerm rate first 3 * binomialTerm rate second 1
        + binomialTerm rate first 3 * binomialTerm rate second 2
        + binomialTerm rate first 3 * binomialTerm rate second 3 := by
    simp [binomial_eq, binomialTerm_add, Finset.Nat.antidiagonal_succ]
    ring
  linarith [products 1 3, products 2 2, products 2 3, products 3 1, products 3 2, products 3 3]

theorem binomial_le (atLeast : 0 ≤ rate)
    : binomial rate first ≤ 1 + first * rate + (first * rate) ^ 2 / 2 + (first * rate) ^ 3 / 6 := by
  have quadratic := binomialTerm_le atLeast first 2
  have cubic := binomialTerm_le atLeast first 3
  have six : Nat.factorial 3 = 6 := rfl
  norm_num [six, binomialTerm] at quadratic cubic
  unfold binomial
  linarith

/-- As long as exponent times rate is no more than a bound, so is the series of the bound. -/
theorem binomial_le_of_le {bound : ℚ} (atLeast : 0 ≤ rate) (bounded : first * rate ≤ bound)
    : binomial rate first ≤ 1 + bound + bound ^ 2 / 2 + bound ^ 3 / 6 := by
  have nonneg : 0 ≤ first * rate := mul_nonneg (Nat.cast_nonneg _) atLeast
  calc binomial rate first
      ≤ 1 + first * rate + (first * rate) ^ 2 / 2 + (first * rate) ^ 3 / 6 := binomial_le atLeast
    _ ≤ 1 + bound + bound ^ 2 / 2 + bound ^ 3 / 6 := by gcongr

end Split

/-- Compounding returns a value wherever exponent times rate is two at most. -/
theorem powSeries_isOk {factor : Q96} {exponent : Nat} (atLeast : 0 ≤ factor.rate)
    (below : factor.rate < 1) (bounded : exponent * factor.rate ≤ 2)
    : ∃ growth, factor.powSeries exponent = .ok growth := by
  have unit : (0 : ℚ) < unit := by exact_mod_cast unit_pos
  have grows : one ≤ factor := by
    have atLeast : 1 ≤ factor.toRat := sub_nonneg.mp atLeast
    rw [toRat, one_le_div unit] at atLeast
    exact_mod_cast atLeast
  have series := binomial_le_of_le atLeast bounded
  rw [rate_eq grows] at below bounded series
  have small : factor.step < Q96.unit := by
    rw [div_lt_one unit] at below
    exact_mod_cast below
  have first : exponent * factor.step ≤ 2 * Q96.unit := by
    rw [← mul_div_assoc, div_le_iff₀ unit] at bounded
    exact_mod_cast bounded
  have sum : seriesSum factor.step exponent 3 ≤ 7 * Q96.unit := by
    have short := binomial_sub_seriesSum factor.step exponent
    have quadratic := lag_nonneg factor.step exponent 2
    have cubic := lag_nonneg factor.step exponent 3
    have scaled := mul_le_mul_of_nonneg_left series unit.le
    have : (seriesSum factor.step exponent 3 : ℚ) ≤ 7 * Q96.unit := by linarith
    exact_mod_cast this
  exact ⟨⟨seriesSum factor.step exponent 3⟩, powSeries_eq_ok_iff.mpr ⟨grows, small,
    Nat.lt_of_le_of_lt first (by decide), rfl, Nat.lt_of_le_of_lt sum (by decide)⟩⟩

theorem binomial_le_of_one {rate : ℚ} {exponent : Nat} (atLeast : 0 ≤ rate)
    (bounded : exponent * rate ≤ 1)
    : binomial rate exponent ≤ 8 / 3 := by
  have series := binomial_le_of_le atLeast bounded
  norm_num at series
  exact series

/-- A run with exponent times rate up to one returns up to 8/3. -/
theorem powSeries_le_of_le {factor growth : Q96} {exponent : Nat}
    (grown : factor.powSeries exponent = .ok growth) (bounded : exponent * factor.rate ≤ 1)
    : growth.raw ≤ unit * (8 / 3 : ℚ) :=
  (powSeries_le grown).trans (mul_le_mul_of_nonneg_left
    (binomial_le_of_one (rate_of_powSeries grown).1 bounded) (Nat.cast_nonneg _))

/-- A run with exponent times rate up to one lies below the exact series by four units at most. -/
theorem binomial_le_powSeries {factor growth : Q96} {exponent : Nat}
    (grown : factor.powSeries exponent = .ok growth) (bounded : exponent * factor.rate ≤ 1)
    : unit * binomial factor.rate exponent ≤ growth.raw + 4 := by
  have short := sub_powSeries_le grown
  have nonneg : 0 ≤ exponent * factor.rate :=
    mul_nonneg (Nat.cast_nonneg _) (rate_of_powSeries grown).1
  have square : (exponent * factor.rate) ^ 2 ≤ 1 := pow_le_one₀ nonneg bounded
  linarith

/-- Numbers up to 8/3 have a product. -/
theorem mul_isOk {before after : Q96} (beforeSmall : before.raw ≤ unit * (8 / 3 : ℚ))
    (afterSmall : after.raw ≤ unit * (8 / 3 : ℚ))
    : ∃ product, before.mul after = .ok product := by
  have whole {q : Q96} (small : q.raw ≤ unit * (8 / 3 : ℚ)) : q.raw ≤ 3 * unit := by
    have nonneg : (0 : ℚ) ≤ unit := Nat.cast_nonneg _
    have : (q.raw : ℚ) ≤ 3 * unit := by linarith
    exact_mod_cast this
  have inRange : before.raw * after.raw / unit < wordLimit :=
    calc before.raw * after.raw / unit
        ≤ 3 * unit * (3 * unit) / unit :=
          Nat.div_le_div_right (Nat.mul_le_mul (whole beforeSmall) (whole afterSmall))
      _ < wordLimit := by decide
  exact ⟨_, Except.map_eq_ok.mpr
    ⟨_, mulDiv_eq_ok_iff.mpr ⟨Nat.ne_of_gt unit_pos, rfl, inRange⟩, rfl⟩⟩

/-- Factors up to 8/3 that lack up to four units leave a product that lacks less than 24: four times
8/3 for each of them, and one that is truncated.
-/
theorem exact_le_mul {before after product : Q96} {exactBefore exactAfter : ℚ}
    (multiplied : before.mul after = .ok product)
    (beforeSmall : before.raw ≤ unit * (8 / 3 : ℚ)) (afterSmall : exactAfter ≤ 8 / 3)
    (beforeNear : unit * exactBefore ≤ before.raw + 4)
    (afterNear : unit * exactAfter ≤ after.raw + 4) (afterLe : after.raw ≤ unit * exactAfter)
    : unit * (exactBefore * exactAfter) ≤ product.raw + 24 := by
  have unit : (0 : ℚ) < unit := by exact_mod_cast unit_pos
  have truncated : (before.raw * after.raw : ℚ) / Q96.unit ≤ product.raw + 1 := by
    rw [div_le_iff₀ unit, add_mul, one_mul]
    exact_mod_cast (mul_ok multiplied).2.le
  have nonneg : 0 ≤ exactAfter :=
    nonneg_of_mul_nonneg_right ((Nat.cast_nonneg after.raw).trans afterLe) unit
  have whole : before.raw / Q96.unit ≤ (8 / 3 : ℚ) := (div_le_iff₀' unit).mpr beforeSmall
  calc Q96.unit * (exactBefore * exactAfter)
      = Q96.unit * exactBefore * exactAfter := by ring
    _ ≤ (before.raw + 4) * exactAfter := by gcongr
    _ = before.raw / Q96.unit * (Q96.unit * exactAfter) + 4 * exactAfter := by field_simp
    _ ≤ before.raw / Q96.unit * (after.raw + 4) + 4 * exactAfter := by gcongr
    _ = before.raw * after.raw / Q96.unit + 4 * (before.raw / Q96.unit) + 4 * exactAfter := by ring
    _ ≤ product.raw + 24 := by linarith

/-- Compounding in two runs returns no less than compounding in one, but for what is rounded off:
with exponent times rate up to one in each run, that is 24 units at most.
-/
theorem powSeries_split {factor : Q96} {first second : Nat} (atLeast : 0 ≤ factor.rate)
    (below : factor.rate < 1) (early : first * factor.rate ≤ 1) (late : second * factor.rate ≤ 1)
    : ∃ whole before after product,
        factor.powSeries (first + second) = .ok whole
        ∧ factor.powSeries first = .ok before
        ∧ factor.powSeries second = .ok after
        ∧ before.mul after = .ok product
        ∧ whole.raw ≤ product.raw + 24 := by
  have together : ((first + second : Nat) : ℚ) * factor.rate ≤ 2 := by
    push_cast
    linarith
  obtain ⟨whole, wholeGrown⟩ := powSeries_isOk atLeast below together
  obtain ⟨before, beforeGrown⟩ := powSeries_isOk atLeast below (early.trans one_le_two)
  obtain ⟨after, afterGrown⟩ := powSeries_isOk atLeast below (late.trans one_le_two)
  have beforeSmall := powSeries_le_of_le beforeGrown early
  have afterSmall := powSeries_le_of_le afterGrown late
  obtain ⟨product, multiplied⟩ := mul_isOk beforeSmall afterSmall
  refine ⟨whole, before, after, product, wholeGrown, beforeGrown, afterGrown, multiplied, ?_⟩
  have bound : (whole.raw : ℚ) ≤ product.raw + 24 :=
    calc (whole.raw : ℚ)
        ≤ unit * binomial factor.rate (first + second) := powSeries_le wholeGrown
      _ ≤ unit * (binomial factor.rate first * binomial factor.rate second) := by
          gcongr
          exact binomial_add_le atLeast first second
      _ ≤ product.raw + 24 :=
          exact_le_mul multiplied beforeSmall (binomial_le_of_one atLeast late)
            (binomial_le_powSeries beforeGrown early) (binomial_le_powSeries afterGrown late)
            (powSeries_le afterGrown)
  exact_mod_cast bound

/-- Three steps of a quarter and four more. -/
theorem powSeries_split_quarters
    : ∃ whole before after product,
        powSeries ⟨unit + unit / 4⟩ 7 = .ok whole
        ∧ powSeries ⟨unit + unit / 4⟩ 3 = .ok before
        ∧ powSeries ⟨unit + unit / 4⟩ 4 = .ok after
        ∧ before.mul after = .ok product
        ∧ whole.raw ≤ product.raw + 24 := by
  have quarter : rate ⟨unit + unit / 4⟩ = 1 / 4 := by
    have four : (unit : ℚ) = 4 * (unit / 4 : Nat) := by
      exact_mod_cast (by decide : unit = 4 * (unit / 4))
    have positive : ((unit / 4 : Nat) : ℚ) ≠ 0 := by exact_mod_cast (by decide : unit / 4 ≠ 0)
    unfold rate toRat
    rw [Nat.cast_add, four]
    field_simp
    norm_num
  exact @powSeries_split ⟨unit + unit / 4⟩ 3 4 (by rw [quarter]; norm_num)
    (by rw [quarter]; norm_num) (by rw [quarter]; norm_num) (by rw [quarter]; norm_num)

end MarginLending.Q96
