import MarginLending.Fixed.Q96

/-!
Compounding a growth factor over many steps: the power by repeated squaring, and the first terms of
the binomial series, which is what interest accrues by. The series never forms a large power; each
term is derived from the one before it.
-/

namespace MarginLending

/-- A year of 365.25 days in seconds. Annual rates are divided by it. -/
def secondsInYear : Nat := 31557600

namespace Q96

/-- Terms of the series behind the leading one. -/
def seriesTerms : Nat := 3

/-- Multiplies the result by the base for every set bit of the exponent, squaring the base in
between. The fuel bounds the number of bits.
-/
def powFrom (result base : Q96) (exponent : Nat) : Nat → Except MathError Q96
  | 0 => .ok result
  | fuel + 1 => do
      if exponent = 0 then return result
      let result ← if exponent % 2 = 1 then result.mul base else .ok result
      let base ← if 2 ≤ exponent then base.mul base else .ok base
      powFrom result base (exponent / 2) fuel

/-- The number to a whole power. -/
def pow (base : Q96) (exponent : Nat) : Except MathError Q96 :=
  powFrom one base exponent (exponent.log2 + 1)

/-- Adds the next terms of the series to its sum. Term i + 1 is term i times
(exponent - i) * x / (i + 1).
-/
def seriesFrom (x exponent : Nat) (i sum term : Nat) : Nat → Except MathError Nat
  | 0 => .ok sum
  | count + 1 => do
      let factor := (exponent - i) * x
      if wordLimit ≤ factor then throw .overflow
      let term ← mulDiv term (factor / (i + 1)) unit
      if wordLimit ≤ sum + term then throw .overflow
      seriesFrom x exponent (i + 1) (sum + term) term count

/-- The power (1 + x) ^ exponent by its binomial series, cut off behind the cubic term. The number
itself is the factor 1 + x of one step; a step of 100% or more is refused.
-/
def powSeries (factor : Q96) (exponent : Nat) : Except MathError Q96 := do
  let x ← factor.sub one
  if unit ≤ x.raw then throw .rateTooHigh
  Q96.mk <$> seriesFrom x.raw exponent 0 unit unit (Nat.min exponent seriesTerms)

end Q96

end MarginLending
