import MarginLending.Fixed.Growth
import MarginLending.Parameters
import MarginLending.Proofs.Actions

/-!
How far rounding goes. Every conversion is off by less than one unit of its result, to the side that
its name says, which is all that the books need to know about it.
-/

namespace MarginLending

/-- A quotient rounded down is at most the exact one and less than one below it. -/
theorem mulDiv_ok {a b divisor c : Nat} (quotient : mulDiv a b divisor = .ok c)
    : 0 < divisor ∧ c * divisor ≤ a * b ∧ a * b < c * divisor + divisor := by
  obtain ⟨nonzero, rfl, _⟩ := mulDiv_eq_ok_iff.mp quotient
  have exact := Nat.div_add_mod (a * b) divisor
  have remainder := Nat.mod_lt (a * b) (Nat.pos_of_ne_zero nonzero)
  rw [Nat.mul_comm divisor] at exact
  exact ⟨Nat.pos_of_ne_zero nonzero, by omega, by omega⟩

/-- A quotient rounded up is at least the exact one and less than one above it. -/
theorem mulDivUp_ok {a b divisor c : Nat} (quotient : mulDivUp a b divisor = .ok c)
    : 0 < divisor ∧ a * b ≤ c * divisor ∧ c * divisor < a * b + divisor := by
  unfold mulDivUp at quotient
  split at quotient
  · cases quotient
  · next nonzero =>
      obtain ⟨rfl, _⟩ := narrow_eq_ok_iff.mp quotient
      have exact := Nat.div_add_mod (a * b) divisor
      have remainder := Nat.mod_lt (a * b) (Nat.pos_of_ne_zero nonzero)
      rw [Nat.mul_comm divisor] at exact
      refine ⟨Nat.pos_of_ne_zero nonzero, ?_⟩
      rw [Nat.add_mul]
      split
      · omega
      · omega

namespace Q96

theorem unit_pos : 0 < unit := by decide

/-- A product over the unit that fits an amount fits a word as well. -/
theorem narrow_bind_ofWide (n : Nat)
    : (narrow n >>= fun wide => Amount.ofWide wide) = Amount.ofWide n := by
  have ordered : amountLimit ≤ wordLimit := by decide
  unfold narrow
  split
  · rfl
  · unfold Amount.ofWide
    rw [if_neg (by omega)]
    rfl

/-- An amount times a number is the exact product rounded down, if that is an amount. -/
theorem scale_eq (q : Q96) (amount : Nat)
    : q.scale amount = Amount.ofWide (q.raw * amount / unit) := by
  unfold scale mulDiv
  rw [if_neg (Nat.ne_of_gt unit_pos)]
  exact narrow_bind_ofWide _

/-- Or rounded up. -/
theorem scaleUp_eq (q : Q96) (amount : Nat)
    : q.scaleUp amount = Amount.ofWide ((q.raw * amount + (unit - 1)) / unit) := by
  have up : q.raw * amount / unit + (if q.raw * amount % unit = 0 then 0 else 1)
      = (q.raw * amount + (unit - 1)) / unit := by
    rw [show unit = 79228162514264337593543950336 from rfl]
    split <;> omega
  unfold scaleUp mulDivUp
  rw [if_neg (Nat.ne_of_gt unit_pos), up]
  exact narrow_bind_ofWide _

theorem sub_eq_ok {a b c : Q96} : a.sub b = .ok c ↔ b.raw ≤ a.raw ∧ c.raw = a.raw - b.raw := by
  unfold sub
  split
  · next enough =>
      rw [Except.ok.injEq]
      constructor
      · rintro rfl
        exact ⟨enough, rfl⟩
      · exact fun same => ext_raw same.2.symm
  · next short => exact ⟨nofun, fun same => absurd same.1 short⟩

theorem add_eq_ok {a b c : Q96}
    : a.add b = .ok c ↔ a.raw + b.raw < wordLimit ∧ c.raw = a.raw + b.raw := by
  unfold add
  split
  · next inRange =>
      rw [Except.ok.injEq]
      constructor
      · rintro rfl
        exact ⟨inRange, rfl⟩
      · exact fun same => ext_raw same.2.symm
  · next tooLarge => exact ⟨nofun, fun same => absurd same.1 tooLarge⟩

theorem ofRatio_ok {num den : Nat} {q : Q96} (ratio : ofRatio num den = .ok q)
    : 0 < den ∧ q.raw * den ≤ num * unit ∧ num * unit < q.raw * den + den := by
  obtain ⟨_, quotient, rfl⟩ := Except.map_eq_ok.mp ratio
  exact mulDiv_ok quotient

theorem mul_ok {a b c : Q96} (product : a.mul b = .ok c)
    : c.raw * unit ≤ a.raw * b.raw ∧ a.raw * b.raw < c.raw * unit + unit := by
  obtain ⟨_, quotient, rfl⟩ := Except.map_eq_ok.mp product
  exact (mulDiv_ok quotient).2

section Scaling

variable {q : Q96} {amount result : Nat}

theorem scale_ok (scaled : q.scale amount = .ok result)
    : result * unit ≤ q.raw * amount ∧ q.raw * amount < result * unit + unit := by
  obtain ⟨_, quotient, inRange⟩ := Except.bind_eq_ok.mp scaled
  obtain ⟨rfl, _⟩ := Amount.ofWide_eq_ok_iff.mp inRange
  exact (mulDiv_ok quotient).2

/-- A scaled amount is an amount. -/
theorem scale_lt (scaled : q.scale amount = .ok result) : result < amountLimit := by
  obtain ⟨_, _, inRange⟩ := Except.bind_eq_ok.mp scaled
  obtain ⟨rfl, small⟩ := Amount.ofWide_eq_ok_iff.mp inRange
  exact small

theorem scaleUp_ok (scaled : q.scaleUp amount = .ok result)
    : q.raw * amount ≤ result * unit ∧ result * unit < q.raw * amount + unit := by
  obtain ⟨_, quotient, inRange⟩ := Except.bind_eq_ok.mp scaled
  obtain ⟨rfl, _⟩ := Amount.ofWide_eq_ok_iff.mp inRange
  exact (mulDivUp_ok quotient).2

theorem unscale_ok (unscaled : q.unscale amount = .ok result)
    : 0 < q.raw ∧ result * q.raw ≤ amount * unit
      ∧ amount * unit < result * q.raw + q.raw := by
  obtain ⟨_, quotient, inRange⟩ := Except.bind_eq_ok.mp unscaled
  obtain ⟨rfl, _⟩ := Amount.ofWide_eq_ok_iff.mp inRange
  exact mulDiv_ok quotient

theorem unscaleUp_ok (unscaled : q.unscaleUp amount = .ok result)
    : 0 < q.raw ∧ amount * unit ≤ result * q.raw
      ∧ result * q.raw < amount * unit + q.raw := by
  obtain ⟨_, quotient, inRange⟩ := Except.bind_eq_ok.mp unscaled
  obtain ⟨rfl, _⟩ := Amount.ofWide_eq_ok_iff.mp inRange
  exact mulDivUp_ok quotient

/-- Amounts compare as their exact values do, up to a fraction. -/
theorem le_of_mul_unit_lt {a b : Nat} (below : a * unit < b * unit + unit) : a ≤ b := by
  rw [← Nat.succ_mul] at below
  exact Nat.lt_succ_iff.mp (Nat.lt_of_mul_lt_mul_right below)

/-- More scales to no less. -/
theorem scale_mono {more scaledMore : Nat} (scaled : q.scale amount = .ok result)
    (knownMore : q.scale more = .ok scaledMore) (le : amount ≤ more)
    : result ≤ scaledMore := by
  have lower := (scale_ok scaled).1
  have upper := (scale_ok knownMore).2
  have exact := Nat.mul_le_mul_left q.raw le
  exact le_of_mul_unit_lt (by omega)

/-- Where a product scales, whatever comes to a lesser product scales as well. -/
theorem scale_ok_of_mul_le {p : Q96} {more scaledMore : Nat}
    (knownMore : p.scale more = .ok scaledMore) (le : q.raw * amount ≤ p.raw * more)
    : ∃ result, q.scale amount = .ok result := by
  obtain ⟨_, quotient, inRange⟩ := Except.bind_eq_ok.mp knownMore
  obtain ⟨rfl, small⟩ := Amount.ofWide_eq_ok_iff.mp inRange
  obtain ⟨nonzero, rfl, inWord⟩ := mulDiv_eq_ok_iff.mp quotient
  have less : q.raw * amount / unit ≤ p.raw * more / unit := Nat.div_le_div_right le
  exact ⟨_, Except.bind_eq_ok.mpr ⟨_,
    mulDiv_eq_ok_iff.mpr ⟨nonzero, rfl, Nat.lt_of_le_of_lt less inWord⟩,
    Amount.ofWide_eq_ok_iff.mpr ⟨rfl, Nat.lt_of_le_of_lt less small⟩⟩⟩

/-- What is less than an amount that scales scales as well. -/
theorem scale_ok_of_le {more scaledMore : Nat} (knownMore : q.scale more = .ok scaledMore)
    (le : amount ≤ more)
    : ∃ result, q.scale amount = .ok result :=
  scale_ok_of_mul_le knownMore (Nat.mul_le_mul_left _ le)

theorem scaleUp_mono {more scaledMore : Nat} (scaled : q.scaleUp amount = .ok result)
    (knownMore : q.scaleUp more = .ok scaledMore) (le : amount ≤ more)
    : result ≤ scaledMore := by
  have upper := (scaleUp_ok scaled).2
  have lower := (scaleUp_ok knownMore).1
  have exact := Nat.mul_le_mul_left q.raw le
  exact le_of_mul_unit_lt (by omega)

/-- Nothing amounts to nothing. -/
theorem scale_zero (scaled : q.scale 0 = .ok result) : result = 0 := by
  have lower := (scale_ok scaled).1
  rw [Nat.mul_zero] at lower
  exact (Nat.mul_eq_zero.mp (Nat.le_zero.mp lower)).resolve_right (Nat.ne_of_gt unit_pos)

theorem unscaleUp_zero (unscaled : q.unscaleUp 0 = .ok result) : result = 0 := by
  obtain ⟨positive, _, upper⟩ := unscaleUp_ok unscaled
  rw [Nat.zero_mul, Nat.zero_add] at upper
  exact Nat.lt_one_iff.mp
    (Nat.lt_of_mul_lt_mul_right (Nat.lt_of_lt_of_eq upper (Nat.one_mul _).symm))

end Scaling

end Q96

/-- Without a sign that counts, the mantissa is the digits. -/
theorem Decimal.mantissa_eq_digits {d : Decimal} (notNegative : ¬d.isNegative)
    : d.mantissa = d.digits := by
  unfold isNegative at notNegative
  unfold mantissa withSign
  split
  · next negative =>
      have none : d.digits = 0 := by simpa [negative] using notNegative
      simp [none]
  · rfl

/-- The digits of a fraction make up one at most. -/
theorem Parameters.digits_le {d : Decimal} (fraction : isFraction d) (notNegative : ¬d.isNegative)
    : d.digits ≤ Nat.pow 10 d.scale := by
  have ordered : ¬Decimal.one.lessThan d := by
    simp only [isFraction, Bool.and_eq_true, Bool.not_eq_true'] at fraction
    simp [fraction.2]
  have order : Decimal.one.lessThan d
      = (Ord.compare ((Nat.pow 10 d.scale : Nat) : Int) d.digits == .lt) := by
    unfold Decimal.lessThan Decimal.compare
    rw [Decimal.mantissa_eq_digits notNegative]
    simp [Decimal.one, Decimal.mantissa, withSign]
  rw [order, beq_iff_eq, Int.compare_eq_lt] at ordered
  omega

/-- A fraction of an amount is the exact one rounded down, and it is of a fraction that is not
negative.
-/
theorem fractionOf_ok {amount result : Nat} {d : Decimal} (taken : fractionOf amount d = .ok result)
    : ¬d.isNegative ∧ result = amount * d.digits / Nat.pow 10 d.scale := by
  unfold fractionOf at taken
  split at taken
  · exact (Except.throw_eq_ok.mp taken).elim
  · next notNegative =>
      obtain ⟨_, quotient, inRange⟩ := Except.bind_eq_ok.mp taken
      obtain ⟨rfl, _⟩ := Amount.ofWide_eq_ok_iff.mp inRange
      obtain ⟨_, rfl, _⟩ := mulDiv_eq_ok_iff.mp quotient
      exact ⟨notNegative, rfl⟩

/-- A fraction of an amount is no more than the amount. -/
theorem fractionOf_le {amount result : Nat} {d : Decimal} (fraction : Parameters.isFraction d)
    (taken : fractionOf amount d = .ok result)
    : result ≤ amount := by
  obtain ⟨notNegative, rfl⟩ := fractionOf_ok taken
  have digits := Nat.mul_le_mul_left amount (Parameters.digits_le fraction notNegative)
  exact Nat.div_le_of_le_mul (Nat.mul_comm amount _ ▸ digits)

/-- Under valid parameters the fee on a trade is no more than the trade. -/
theorem Parameters.swapFeeOn_le {parameters : Parameters} {quote fee : Nat}
    (valid : parameters.violation? = none) (charged : parameters.swapFeeOn quote = .ok fee)
    : fee ≤ quote := by
  refine fractionOf_le ?_ charged
  unfold violation? at valid
  split at valid
  · cases valid
  · cases found : parameters.fractions.find? fun entry => !isFraction entry.2 with
    | some entry =>
        rw [found] at valid
        cases valid
    | none =>
        have all := List.find?_eq_none.mp found ("swap_fee", parameters.swapFee)
          (by simp [fractions])
        simpa using all

end MarginLending
