import MarginLending.Decimal.Text
import MarginLending.Fixed.Q96

/-!
Between fixed-point numbers and decimals. A decimal fraction of an amount is exact; turning a
number into a decimal keeps 18 fraction digits, rounded to nearest, and stops at the largest one.
-/

namespace MarginLending

/-- The fraction of an amount, rounded down. -/
def fractionOf (amount : Nat) (fraction : Decimal) : Except MathError Nat := do
  if fraction.isNegative then throw .negative
  Amount.ofWide (← mulDiv amount fraction.digits (Nat.pow 10 fraction.scale))

namespace Q96

/-- A decimal that is not negative, cut off behind the last fraction bit. -/
def ofDecimal (d : Decimal) : Except MathError Q96 := do
  if d.isNegative then throw .negative
  Q96.mk <$> mulDiv d.digits unit (Nat.pow 10 d.scale)

/-- Fraction digits kept in a report. -/
def reportScale : Nat := 18

/-- The nearest decimal with 18 fraction digits, or the largest decimal where that is out of range.
-/
def toDecimal (q : Q96) : Decimal :=
  let whole := q.raw / unit
  let fraction := ((q.raw % unit) * Nat.pow 10 reportScale + unit / 2) / unit
  if Nat.pow 2 64 ≤ whole then Decimal.maximum
  else
    (Decimal.ofParts? (whole * Nat.pow 10 reportScale + fraction : Nat) reportScale).getD
      Decimal.maximum

/-- The number as it is written in reports, without trailing zeros. -/
def text (q : Q96) : String := q.toDecimal.normalize.text

end Q96

end MarginLending
