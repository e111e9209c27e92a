import MarginLending.Decimal.Binary64
import MarginLending.Json.Basic

/-!
What a bare JSON number means as a decimal. Whole numbers of one machine word are exact. All other
numbers are first rounded to binary floating point: their leading digits make up a whole
significand, the others only count towards the power of ten.
-/

namespace MarginLending.Numeral

/-- Significands lie below this bound. -/
def significandLimit : Nat := Nat.pow 2 64

/-- Takes digits into a significand while it stays below the bound; the second part is what was
not taken.
-/
def gather (significand : Nat) : List Nat → Nat × List Nat
  | [] => (significand, [])
  | digit :: rest =>
      if significand * 10 + digit < significandLimit then
        gather (significand * 10 + digit) rest
      else
        (significand, digit :: rest)

/-- Significand and power of ten of a number. Digits in front of the point that are not taken raise
the power; those behind it that are taken lower it.
-/
def scaled (numeral : Numeral) : Nat × Int :=
  let (whole, dropped) := gather 0 (Digits.ofNat 10 numeral.whole)
  let (significand, ignored) := gather whole numeral.fraction
  let places : Int := numeral.fraction.length - ignored.length
  (significand, dropped.length - places + numeral.exponent.getD 0)

/-- The nearest binary number, unless it is beyond the largest one. -/
def toBinary64? (numeral : Numeral) : Option Binary64 :=
  Binary64.ofScaled? numeral.scaled.1 numeral.scaled.2

/-- Whether a number is whole and fits an unsigned word, or a signed one if it has a sign. A zero
with a sign does not count.
-/
def isWord (numeral : Numeral) : Bool :=
  numeral.fraction == [] && numeral.exponent.isNone
    && (if numeral.negative then decide (0 < numeral.whole ∧ numeral.whole ≤ Nat.pow 2 63)
      else decide (numeral.whole < Nat.pow 2 64))

/-- The decimal that a number stands for, if there is one. -/
def toDecimal? (numeral : Numeral) : Option Decimal :=
  if numeral.isWord then
    Decimal.ofParts? (withSign numeral.negative numeral.whole) 0
  else do
    Decimal.ofBinary64? numeral.negative (← numeral.toBinary64?)

end MarginLending.Numeral
