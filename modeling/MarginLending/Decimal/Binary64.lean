import MarginLending.Decimal.Text

/-!
Numbers in binary floating point with a 53-bit significand, computed exactly on naturals: the
nearest such number to a quotient, products and quotients of two of them, and the shortest decimal
text that only the given number is nearest to. A decimal that arrives as a bare fractional number
goes through this format.
-/

namespace MarginLending

/-- The non-negative number (significand * 2 ^ exponent). -/
structure Binary64 where
  significand : Nat
  exponent : Int
  deriving DecidableEq

namespace Binary64

/-- Zero, at the smallest exponent. -/
def zero : Binary64 := ⟨0, -1074⟩

/-- Numerator and denominator of the number times a power of two. -/
def shifted (num den : Nat) (power : Int) : Nat × Nat :=
  (num * Nat.pow 2 power.toNat, den * Nat.pow 2 (-power).toNat)

/-- The number as a quotient of naturals. -/
def ratio (x : Binary64) : Nat × Nat :=
  shifted x.significand 1 x.exponent

/-- The nearest number to a quotient, ties to even; none beyond the largest finite one. -/
def nearest? (num den : Nat) : Option Binary64 :=
  if num = 0 then some zero
  else
    let start : Int := (num.log2 : Int) - den.log2 - 52
    let (n, d) := shifted num den (-start)
    let fine := if n / d < Nat.pow 2 52 then start - 1 else start
    let exponent := max fine (-1074)
    let (n, d) := shifted num den (-exponent)
    let significand := roundEven n d
    let (significand, exponent) :=
      if significand = Nat.pow 2 53 then (Nat.pow 2 52, exponent + 1)
      else (significand, exponent)
    if 971 < exponent then none else some ⟨significand, exponent⟩

/-- The nearest number to a product. -/
def mul? (x y : Binary64) : Option Binary64 :=
  nearest? (x.ratio.1 * y.ratio.1) (x.ratio.2 * y.ratio.2)

/-- The nearest number to a quotient by a non-zero number. -/
def div? (x y : Binary64) : Option Binary64 :=
  nearest? (x.ratio.1 * y.ratio.2) (x.ratio.2 * y.ratio.1)

/-- A whole significand times a power of ten: the significand and the power are each rounded
first, then their product or quotient. Powers below the smallest divide in several steps.
-/
def ofScaled? (significand : Nat) (exponent : Int) : Option Binary64 := do
  let start ← nearest? significand 1
  let rec divide (x : Binary64) (exponent : Nat) : Nat → Option Binary64
    | 0 => some zero
    | fuel + 1 =>
        if exponent ≤ 308 then do div? x (← nearest? (Nat.pow 10 exponent) 1)
        else if x.significand = 0 then some zero
        else do divide (← div? x (← nearest? (Nat.pow 10 308) 1)) (exponent - 308) fuel
  if exponent < 0 then divide start (-exponent).toNat 4
  else if exponent ≤ 308 then mul? start (← nearest? (Nat.pow 10 exponent.toNat) 1)
  else if start.significand = 0 then some zero
  else none

/-- Whether (candidate * 10 ^ power) is nearer to the number than to its neighbours. -/
def identifies (x : Binary64) (candidate : Nat) (power : Int) : Bool :=
  let (num, den) := shifted 1 1 (x.exponent - 2)
  let ten := Nat.pow 10 power.toNat
  let tenth := Nat.pow 10 (-power).toNat
  let value := candidate * ten * den
  let below := if x.significand = Nat.pow 2 52 ∧ -1074 < x.exponent then 1 else 2
  let low := (4 * x.significand - below) * num * tenth
  let high := (4 * x.significand + 2) * num * tenth
  if x.significand % 2 = 0 then decide (low ≤ value ∧ value ≤ high)
  else decide (low < value ∧ value < high)

/-- The digits and the power of ten of the shortest decimal that identifies the number: the
nearest one where two are equally short, and the upper one of a tie. The search starts at the
given power and goes down.
-/
def shortestFrom (x : Binary64) (power : Int) : Nat → Nat × Int
  | 0 => (0, 0)
  | fuel + 1 =>
      let (n, d) := x.ratio
      let num := n * Nat.pow 10 (-power).toNat
      let den := d * Nat.pow 10 power.toNat
      let lower := num / den
      let nearer := if den ≤ 2 * (num % den) then lower + 1 else lower
      let farther := if den ≤ 2 * (num % den) then lower else lower + 1
      if identifies x nearer power then (nearer, power)
      else if identifies x farther power then (farther, power)
      else shortestFrom x (power - 1) fuel

/-- Digits and power of ten of the shortest decimal for a number. -/
def shortest (x : Binary64) : Nat × Int :=
  if x.significand = 0 then (0, 0)
  else shortestFrom x (((x.significand.log2 : Int) + x.exponent + 1) * 302 / 1000 + 1) 24

/-- A whole number times a power of ten in positional notation. -/
def positional (digits : Nat) (power : Int) : List Char :=
  let places := (-power).toNat
  if places = 0 then Digits.decimal (digits * Nat.pow 10 power.toNat)
  else
    Digits.decimal (digits / Nat.pow 10 places)
      ++ '.' :: Digits.render (Digits.fixed 10 places digits)

/-- The shortest positional text of a number. -/
def render (x : Binary64) : List Char :=
  positional x.shortest.1 x.shortest.2

end Binary64

/-- The decimal that the shortest text of a binary number reads as. -/
def Decimal.ofBinary64? (negative : Bool) (x : Binary64) : Option Decimal :=
  Decimal.readDigits negative false false 0 0 x.render

end MarginLending
