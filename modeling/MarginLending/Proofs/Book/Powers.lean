import MarginLending.Proofs.Book.Compounding
import Mathlib.Tactic.IntervalCases

/-!
Compounding compared with the power by repeated squaring. Both are rounded down, in different
places: the power loses up to a unit in each product, which the products behind it carry on, and the
series leaves out its terms behind the cubic one. Which of the two is larger is a matter of what is
left out and what is lost.
-/

namespace MarginLending.Q96

-----
-- Repeated squaring
-----

/-- What one turn multiplies and squares. -/
theorem powFrom_succ_eq_ok {result base power : Q96} {exponent fuel : Nat} (left : exponent ≠ 0)
    (known : powFrom result base exponent (fuel + 1) = .ok power)
    : ∃ next square,
        (if exponent % 2 = 1 then result.mul base else .ok result) = .ok next
        ∧ (if 2 ≤ exponent then base.mul base else .ok base) = .ok square
        ∧ powFrom next square (exponent / 2) fuel = .ok power := by
  rw [powFrom, if_neg left] at known
  by_cases odd : exponent % 2 = 1 <;> by_cases more : 2 ≤ exponent
  all_goals
    simp only [odd, more, if_true, if_false] at known ⊢
    obtain ⟨next, multiplied, known⟩ := Except.bind_eq_ok.mp known
    obtain ⟨square, squared, known⟩ := Except.bind_eq_ok.mp known
    exact ⟨next, square, multiplied, squared, known⟩

/-- What products keep, with their numbers of factors added up, repeated squaring keeps. By
induction on the bits left of the exponent.
-/
theorem powFrom_induction {motive : Nat → Q96 → Prop}
    (product : ∀ {i j : Nat} {a b c : Q96},
      motive i a → motive j b → a.mul b = .ok c → motive (i + j) c)
    {result base power : Q96} {i j exponent fuel : Nat} (gathered : motive i result)
    (squared : motive j base) (enough : exponent < 2 ^ fuel)
    (known : powFrom result base exponent fuel = .ok power)
    : motive (i + j * exponent) power := by
  induction fuel generalizing result base i j exponent with
  | zero =>
      obtain rfl : exponent = 0 := Nat.lt_one_iff.mp enough
      obtain rfl : result = power := Except.ok.inj known
      exact gathered
  | succ fuel ih =>
      by_cases left : exponent = 0
      · subst left
        obtain rfl : result = power := Except.ok.inj known
        exact gathered
      obtain ⟨next, square, multiplied, doubled, known⟩ := powFrom_succ_eq_ok left known
      have halved : exponent / 2 < 2 ^ fuel := by
        rw [pow_succ] at enough
        omega
      have bits := Nat.mod_add_div exponent 2
      have gathered : motive (i + j * (exponent % 2)) next := by
        split at multiplied
        · next odd =>
            rw [odd, Nat.mul_one]
            exact product gathered squared multiplied
        · next even =>
            obtain rfl : result = next := Except.ok.inj multiplied
            rwa [Nat.mod_two_ne_one.mp even]
      split at doubled
      · have all := ih gathered (product squared squared doubled) halved known
        rwa [← Nat.mul_two, Nat.mul_assoc, Nat.add_assoc, ← Nat.mul_add, bits] at all
      · obtain rfl : base = square := Except.ok.inj doubled
        have last : exponent / 2 = 0 := by omega
        have all := ih gathered squared halved known
        rw [last] at bits
        rwa [last, Nat.mul_zero, Nat.add_zero, show exponent % 2 = exponent from bits] at all

/-- What holds of one and of the factor, and what products keep, holds of every power. -/
theorem pow_induction {motive : Nat → Q96 → Prop}
    (product : ∀ {i j : Nat} {a b c : Q96},
      motive i a → motive j b → a.mul b = .ok c → motive (i + j) c)
    {factor power : Q96} {exponent : Nat} (empty : motive 0 one) (single : motive 1 factor)
    (whole : factor.pow exponent = .ok power)
    : motive exponent power := by
  have all := powFrom_induction product empty single Nat.lt_log2_self whole
  rwa [Nat.zero_add, Nat.one_mul] at all

/-- A product with a number from one on is no less than the other number. -/
theorem le_mul_of_one_le {a b c : Q96} (grows : one ≤ a) (multiplied : a.mul b = .ok c)
    : b ≤ c := by
  have below := (mul_ok multiplied).2
  have scaled := Nat.mul_le_mul_right b.raw (le_def.mp grows)
  refine le_of_mul_unit_lt ?_
  calc b.raw * unit = unit * b.raw := Nat.mul_comm ..
    _ ≤ a.raw * b.raw := scaled
    _ < c.raw * unit + unit := below

protected theorem mul_comm (a b : Q96) : a.mul b = b.mul a := by
  unfold mul mulDiv
  rw [Nat.mul_comm]

-----
-- What the power loses
-----

/-- The number lies below a product of factors by one unit at most for every multiplication behind
it, each grown like the product itself.
-/
def Lags (factor : ℚ) (factors : Nat) (q : Q96) : Prop :=
  (unit - (factors - 1 : Nat)) * factor ^ factors ≤ q.raw

theorem lags_one (factor : ℚ) : Lags factor 0 one := by
  simp [Lags, one]

theorem lags_self (factor : Q96) : Lags factor.toRat 1 factor := by
  have unit : (unit : ℚ) ≠ 0 := by exact_mod_cast Nat.ne_of_gt unit_pos
  simp only [Lags, toRat]
  field_simp
  simp

/-- What two numbers lack is carried on by their product, and truncating it takes up to one more. -/
theorem lacking_mul_le {unit i j p q a b c : ℚ} (i_nonneg : 0 ≤ i) (j_nonneg : 0 ≤ j)
    (p_one : 1 ≤ p)
    (q_one : 1 ≤ q) (nonneg : 0 ≤ c) (positive : 0 < unit) (left : (unit - i) * p ≤ a)
    (right : (unit - j) * q ≤ b) (truncated : a * b < (c + 1) * unit)
    : (unit - (i + j + 1)) * (p * q) ≤ c := by
  have one_le : 1 ≤ p * q := one_le_mul_of_one_le_of_one_le p_one q_one
  rcases le_total unit (i + j + 1) with many | few
  · have lost : (unit - (i + j + 1)) * (p * q) ≤ 0 :=
      mul_nonpos_of_nonpos_of_nonneg (sub_nonpos.mpr many) (zero_le_one.trans one_le)
    exact lost.trans nonneg
  · have left_nonneg : 0 ≤ (unit - i) * p := mul_nonneg (by linarith) (zero_le_one.trans p_one)
    have right_nonneg : 0 ≤ (unit - j) * q := mul_nonneg (by linarith) (zero_le_one.trans q_one)
    have scaled : (unit - (i + j)) * (p * q) * unit < (c + 1) * unit :=
      calc (unit - (i + j)) * (p * q) * unit
          ≤ (unit - i) * p * ((unit - j) * q) := by
            have : 0 ≤ i * j * (p * q) := by positivity
            linarith
        _ ≤ a * b := mul_le_mul left right right_nonneg (left_nonneg.trans left)
        _ < (c + 1) * unit := truncated
    have := lt_of_mul_lt_mul_right scaled positive.le
    linarith

theorem Lags.mul {factor : ℚ} (grows : 1 ≤ factor) {i j : Nat} {a b c : Q96}
    (left : Lags factor i a) (right : Lags factor j b) (multiplied : a.mul b = .ok c)
    : Lags factor (i + j) c := by
  -- Nothing is lost by a multiplication by one, or by what is larger
  cases i with
  | zero =>
      have grows : one ≤ a := by simpa [Lags, le_def, one] using left
      have larger := le_def.mp (le_mul_of_one_le grows multiplied)
      rw [Nat.zero_add]
      exact right.trans (by exact_mod_cast larger)
  | succ i =>
      cases j with
      | zero =>
          have grows : one ≤ b := by simpa [Lags, le_def, one] using right
          have larger := le_def.mp (le_mul_of_one_le grows (Q96.mul_comm a b ▸ multiplied))
          exact left.trans (by exact_mod_cast larger)
      | succ j =>
          have positive : (0 : ℚ) < unit := by exact_mod_cast unit_pos
          have truncated : (a.raw * b.raw : ℚ) < (c.raw + 1) * unit := by
            rw [add_mul, one_mul]
            exact_mod_cast (mul_ok multiplied).2
          have lacking := lacking_mul_le (Nat.cast_nonneg i) (Nat.cast_nonneg j) (one_le_pow₀ grows)
            (one_le_pow₀ grows) (Nat.cast_nonneg c.raw) positive left right truncated
          rw [← pow_add] at lacking
          unfold Lags
          rw [show i + 1 + (j + 1) - 1 = i + j + 1 by omega]
          exact_mod_cast lacking

theorem one_le_toRat {factor : Q96} (grows : one ≤ factor) : 1 ≤ factor.toRat := by
  have unit : (0 : ℚ) < unit := by exact_mod_cast unit_pos
  rw [toRat, one_le_div unit]
  exact_mod_cast grows

/-- A power loses no more than one unit for each of its multiplications, grown like the power. -/
theorem sub_pow_le {factor power : Q96} {exponent : Nat} (grows : one ≤ factor)
    (whole : factor.pow exponent = .ok power)
    : unit * factor.toRat ^ exponent - power.raw
      ≤ (exponent - 1 : Nat) * factor.toRat ^ exponent := by
  have lags :=
    pow_induction (motive := Lags factor.toRat) (Lags.mul (one_le_toRat grows)) (lags_one _)
    (lags_self factor) whole
  unfold Lags at lags
  linarith

/-- The number adds at least what so many steps of the factor add without compounding. -/
def Simple (factor : Q96) (factors : Nat) (q : Q96) : Prop :=
  unit + factors * factor.step ≤ q.raw

theorem Simple.mul {factor : Q96} {i j : Nat} {a b c : Q96} (left : Simple factor i a)
    (right : Simple factor j b) (multiplied : a.mul b = .ok c)
    : Simple factor (i + j) c := by
  refine Nat.lt_succ_iff.mp (Nat.lt_of_mul_lt_mul_right (a := unit) ?_)
  calc (unit + (i + j) * factor.step) * unit
      ≤ (unit + (i + j) * factor.step) * unit + i * factor.step * (j * factor.step) :=
        Nat.le_add_right ..
    _ = (unit + i * factor.step) * (unit + j * factor.step) := by ring
    _ ≤ a.raw * b.raw := Nat.mul_le_mul left right
    _ < (c.raw + 1) * unit := by
        rw [Nat.succ_mul]
        exact (mul_ok multiplied).2

/-- A power adds at least what its steps add without compounding. -/
theorem simple_pow {factor power : Q96} {exponent : Nat} (grows : one ≤ factor)
    (whole : factor.pow exponent = .ok power)
    : Simple factor exponent power := by
  refine pow_induction (motive := Simple factor) Simple.mul ?_ ?_ whole
  · simp [Simple, one]
  · have exact : unit + (factor.raw - unit) = factor.raw := Nat.add_sub_cancel' grows
    rw [Simple, step, Nat.one_mul, exact]

/-- A square is no less than the exact one rounded down. -/
theorem mul_self_lt_pow_two {factor power : Q96} (whole : factor.pow 2 = .ok power)
    : factor.raw * factor.raw < (power.raw + 1) * unit := by
  rw [pow, show Nat.log2 2 = 1 by decide] at whole
  obtain ⟨first, square, kept, squared, whole⟩ := powFrom_succ_eq_ok (by decide) whole
  obtain rfl : one = first := Except.ok.inj kept
  obtain ⟨second, last, multiplied, _, whole⟩ :=
    @powFrom_succ_eq_ok one square power 1 0 (by decide) whole
  obtain rfl : second = power := Except.ok.inj whole
  have larger : square.raw ≤ second.raw := le_mul_of_one_le (Nat.le_refl _) multiplied
  calc factor.raw * factor.raw
      < square.raw * unit + unit := (mul_ok squared).2
    _ = (square.raw + 1) * unit := (Nat.succ_mul ..).symm
    _ ≤ (second.raw + 1) * unit := Nat.mul_le_mul_right _ (Nat.succ_le_succ larger)

-----
-- The series and the power
-----

/-- What the series leaves out behind its cubic term. -/
def omitted (rate : ℚ) (exponent : Nat) : ℚ := (1 + rate) ^ exponent - binomial rate exponent

/-- Up to three steps the series is whole. -/
theorem omitted_of_le {exponent : Nat} (rate : ℚ) (few : exponent ≤ 3)
    : omitted rate exponent = 0 := by
  unfold omitted binomial
  interval_cases exponent <;> norm_num [Nat.choose] <;> ring

/-- Where the quadratic term comes to nothing, the series adds what its steps add without
compounding.
-/
theorem seriesSum_of_small {x exponent : Nat}
    (small : unit * binomialTerm (x / unit) exponent 2 < 1)
    : seriesSum x exponent 3 = unit + exponent * x := by
  have quadratic : seriesTerm x exponent 2 = 0 := by
    have below := (seriesTerm_le x exponent 2).trans_lt small
    exact Nat.lt_one_iff.mp (by exact_mod_cast below)
  have cubic : seriesTerm x exponent 3 = 0 := by
    rw [seriesTerm, quadratic, Nat.zero_mul, Nat.zero_div]
  show unit + seriesTerm x exponent 1 + seriesTerm x exponent 2 + seriesTerm x exponent 3 = _
  rw [seriesTerm_one, quadratic, cubic]
  rfl

section Order

variable {factor growth power : Q96} {exponent : Nat}

/-- The terms left out and what the power loses decide between the two. -/
theorem powSeries_add_omitted_le (series : factor.powSeries exponent = .ok growth)
    (whole : factor.pow exponent = .ok power)
    : growth.raw + unit * omitted factor.rate exponent
      ≤ power.raw + (exponent - 1 : Nat) * (1 + factor.rate) ^ exponent := by
  have below := powSeries_le series
  have lost := sub_pow_le (powSeries_eq_ok_iff.mp series).1 whole
  rw [show factor.toRat = 1 + factor.rate by rw [rate]; ring] at lost
  unfold omitted
  linarith

/-- The series of two steps is no more than the exact square, which the power is rounded down from.
-/
theorem powSeries_two_le_pow (series : factor.powSeries 2 = .ok growth)
    (whole : factor.pow 2 = .ok power)
    : growth ≤ power := by
  have positive : (0 : ℚ) < unit := by exact_mod_cast unit_pos
  have exact := sub_eq_zero.mp (omitted_of_le factor.rate (show 2 ≤ 3 by decide))
  have below := powSeries_le series
  rw [← exact, rate, toRat, add_sub_cancel] at below
  have scaled : (growth.raw * unit : ℚ) ≤ factor.raw * factor.raw :=
    calc (growth.raw * unit : ℚ)
        ≤ unit * (factor.raw / unit) ^ 2 * unit := by gcongr
      _ = factor.raw * factor.raw := by field_simp
  have scaled : growth.raw * unit ≤ factor.raw * factor.raw := by exact_mod_cast scaled
  exact Nat.lt_succ_iff.mp
    (Nat.lt_of_mul_lt_mul_right (scaled.trans_lt (mul_self_lt_pow_two whole)))

theorem powSeries_le_pow_of_simple (series : factor.powSeries exponent = .ok growth)
    (whole : factor.pow exponent = .ok power)
    (small : unit * binomialTerm factor.rate exponent 2 < 1)
    : growth ≤ power := by
  obtain ⟨grows, _, _, total, _⟩ := powSeries_eq_ok_iff.mp series
  rw [rate_eq grows] at small
  have simple : Simple factor exponent power := simple_pow grows whole
  rwa [Simple, ← seriesSum_of_small small, ← total] at simple

end Order

/-- Compounding returns no more than the power for two steps at most, where the quadratic term comes
to less than a unit, and where the terms left out come to a unit for every further step, grown like
the power. In between the power can lose more than the series leaves out, and is below it by no more
than those units.
-/
theorem powSeries_le_pow {factor growth power : Q96} {exponent : Nat}
    (series : factor.powSeries exponent = .ok growth) (whole : factor.pow exponent = .ok power)
    : (exponent ≤ 2
        ∨ unit * binomialTerm factor.rate exponent 2 < 1
        ∨ (exponent - 1 : Nat) * (1 + factor.rate) ^ exponent ≤ unit * omitted factor.rate exponent
        → growth ≤ power)
      ∧ growth.raw + unit * omitted factor.rate exponent
        ≤ power.raw + (exponent - 1 : Nat) * (1 + factor.rate) ^ exponent := by
  have compared := powSeries_add_omitted_le series whole
  refine ⟨?_, compared⟩
  have outweighed
      (enough : (exponent - 1 : Nat) * (1 + factor.rate) ^ exponent
        ≤ unit * omitted factor.rate exponent)
      : growth ≤ power := by
    have : (growth.raw : ℚ) ≤ power.raw := by linarith
    exact le_def.mpr (by exact_mod_cast this)
  rintro (few | small | enough)
  · rcases Nat.lt_or_eq_of_le few with fewer | rfl
    · have single : exponent - 1 = 0 := by omega
      refine outweighed ?_
      rw [omitted_of_le _ (by omega), single]
      simp
    · exact powSeries_two_le_pow series whole
  · exact powSeries_le_pow_of_simple series whole small
  · exact outweighed enough

/-- Interest of 20% a year, compounded every second for a minute. -/
theorem powSeries_le_pow_minute
    : ∃ growth power, powSeries ⟨unit + 502117794219233006271⟩ 60 = .ok growth
      ∧ pow ⟨unit + 502117794219233006271⟩ 60 = .ok power
      ∧ growth ≤ power := by
  have annual : rate ⟨unit + 502117794219233006271⟩ = 502117794219233006271 / 2 ^ 96 := by
    norm_num [rate, toRat, unit, fractionBits]
  have enough
      : (60 - 1 : Nat) * (1 + rate ⟨unit + 502117794219233006271⟩) ^ 60
        ≤ unit * omitted (rate ⟨unit + 502117794219233006271⟩) 60 := by
    rw [annual]
    norm_num [omitted, binomial, Nat.choose, unit, fractionBits]
  have series
      : powSeries ⟨unit + 502117794219233006271⟩ 60 = .ok ⟨79228192641337623296290164124⟩ := by
    decide +kernel
  have whole : pow ⟨unit + 502117794219233006271⟩ 60 = .ok ⟨79228192641337623296290164170⟩ := by
    decide +kernel
  exact ⟨_, _, series, whole, (powSeries_le_pow series whole).1 (Or.inr (Or.inr enough))⟩

/-- Twenty seconds at 20% a year, compounded every second, are three units above the power. -/
theorem pow_lt_powSeries
    : ∃ growth power, powSeries ⟨unit + 502117794219233006271⟩ 20 = .ok growth
      ∧ pow ⟨unit + 502117794219233006271⟩ 20 = .ok power
      ∧ power < growth :=
  ⟨⟨79228172556620826602031802813⟩, ⟨79228172556620826602031802810⟩,
    by decide +kernel, by decide +kernel,
    by decide⟩

end MarginLending.Q96
