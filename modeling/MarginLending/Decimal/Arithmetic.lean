import MarginLending.Decimal.Basic

/-!
Arithmetic of decimals. A result that needs more than 96 bits gives up fraction digits, as few as
possible, and rounds the rest to nearest with ties to the even neighbour; it has no value once no
fraction digit is left to give up.
-/

namespace MarginLending

/-- The quotient rounded to nearest, a tie to the even neighbour. -/
def roundEven (n divisor : Nat) : Nat :=
  let quotient := n / divisor
  let rest := n % divisor
  if divisor < 2 * rest ∨ (2 * rest = divisor ∧ quotient % 2 = 1) then quotient + 1
  else quotient

/-- Rounding a quotient by at least two never grows the number. -/
theorem roundEven_le {n divisor : Nat} (h : 2 ≤ divisor) : roundEven n divisor ≤ n := by
  have split : divisor * (n / divisor) + n % divisor = n := Nat.div_add_mod n divisor
  have twice : 2 * (n / divisor) ≤ divisor * (n / divisor) := Nat.mul_le_mul_right _ h
  simp only [roundEven]
  split <;> omega

/-- The quotient rounded to nearest, a tie to the upper neighbour. -/
def roundHalfUp (n divisor : Nat) : Nat :=
  (n + divisor / 2) / divisor

/-- Rounding a quotient never grows the number. -/
theorem roundHalfUp_le (n divisor : Nat) : roundHalfUp n divisor ≤ n := by
  unfold roundHalfUp
  rcases Nat.lt_or_ge 1 divisor with large | small
  · have twice : n * 2 ≤ n * divisor := Nat.mul_le_mul_left n large
    refine Nat.le_of_lt_succ ((Nat.div_lt_iff_lt_mul (by omega)).2 ?_)
    rw [Nat.succ_mul]
    omega
  · rcases (by omega : divisor = 0 ∨ divisor = 1) with rfl | rfl <;> simp

namespace Decimal

/-- How many digits must go before a mantissa is in range, at most the given number. -/
def excess (mantissa : Nat) : Nat → Nat
  | 0 => 0
  | room + 1 => if mantissa < mantissaLimit then 0 else excess (mantissa / 10) room + 1

/-- The decimal nearest to an exact one that may be out of range. -/
def fit (mantissa : Int) (scale : Nat) : Option Decimal :=
  let size := mantissa.natAbs
  let dropped := max (excess size scale) (scale - maxScale)
  let kept := roundEven size (Nat.pow 10 dropped)
  let sign := withSign (decide (mantissa < 0))
  if kept = mantissaLimit ∧ dropped < scale then
    ofParts? (sign (roundEven kept 10)) (scale - dropped - 1)
  else
    ofParts? (sign kept) (scale - dropped)

/-- Sum of two decimals. -/
def add? (a b : Decimal) : Option Decimal :=
  let scale := max a.scale b.scale
  fit (a.mantissa * Nat.pow 10 (scale - a.scale) + b.mantissa * Nat.pow 10 (scale - b.scale)) scale

/-- The number with the opposite sign. -/
def neg (d : Decimal) : Decimal :=
  { d with negative := !d.negative }

/-- Difference of two decimals. -/
def sub? (a b : Decimal) : Option Decimal :=
  add? a b.neg

/-- Product of two decimals. -/
def mul? (a b : Decimal) : Option Decimal :=
  fit (a.mantissa * b.mantissa) (a.scale + b.scale)

/-- The largest scale, up to the given one, at which a quotient's whole part is in range. -/
def quotientScale (num den : Nat) : Nat → Nat
  | 0 => 0
  | scale + 1 =>
      if num * Nat.pow 10 (scale + 1) / den < mantissaLimit then scale + 1
      else quotientScale num den scale

/-- Quotient of two decimals, kept to as many digits as fit; none for a zero divisor or a
quotient beyond the largest decimal.
-/
def div? (a b : Decimal) : Option Decimal :=
  if b.digits = 0 then none
  else
    let num := a.digits * Nat.pow 10 b.scale
    let den := b.digits * Nat.pow 10 a.scale
    let scale := quotientScale num den maxScale
    let kept := roundEven (num * Nat.pow 10 scale) den
    let sign := withSign (a.negative != b.negative)
    if kept = mantissaLimit ∧ 0 < scale then
      ofParts? (sign (roundEven kept 10)) (scale - 1)
    else
      ofParts? (sign kept) scale

/-- The largest whole number that is not above the decimal. -/
def floor (d : Decimal) : Int :=
  d.mantissa / Nat.pow 10 d.scale

/-- The smallest whole number that is not below the decimal. -/
def ceil (d : Decimal) : Int :=
  -(-d.mantissa / Nat.pow 10 d.scale)

/-- The number rounded to at most the given count of fraction digits, ties to even. -/
def roundTo (d : Decimal) (places : Nat) : Decimal :=
  if h : d.scale ≤ places then d
  else
    { negative := d.negative
      digits := roundEven d.digits (Nat.pow 10 (d.scale - places))
      scale := places
      digits_lt := by
        have ten : Nat.pow 10 1 ≤ Nat.pow 10 (d.scale - places) :=
          Nat.pow_le_pow_right (by decide) (by omega)
        have two : 2 ≤ Nat.pow 10 (d.scale - places) := Nat.le_trans (by decide) ten
        exact Nat.lt_of_le_of_lt (roundEven_le two) d.digits_lt
      scale_le := by
        have := d.scale_le
        omega }

end Decimal

end MarginLending
