/-!
Decimal numbers: a sign, a whole number of at most 96 bits and a count of fraction digits of at
most 28. The scale is part of the number's identity, so one and a half can be kept as 1.5 or as
1.50, and so is the sign of a zero; `sameValue` looks through both.
-/

namespace MarginLending

/-- The digits of a decimal, read as a whole number, lie below this bound. -/
def mantissaLimit : Nat := Nat.pow 2 96

/-- The largest number of fraction digits. -/
def maxScale : Nat := 28

/-- A whole mantissa with a sign put in front of it. -/
def withSign (negative : Bool) (digits : Nat) : Int :=
  if negative then -(digits : Int) else digits

/-- The number (digits / 10 ^ scale) with a sign. A zero under a minus sign has the value of zero
and keeps the sign in its text.
-/
structure Decimal where
  negative : Bool
  digits : Nat
  scale : Nat
  digits_lt : digits < mantissaLimit := by decide
  scale_le : scale ≤ maxScale := by decide
  deriving DecidableEq

namespace Decimal

/-- The digits with their sign, read as a whole number. -/
def mantissa (d : Decimal) : Int := withSign d.negative d.digits

/-- A decimal from its parts, when they are in range. Zero gets no minus sign. -/
def ofParts? (mantissa : Int) (scale : Nat) : Option Decimal :=
  if h : mantissa.natAbs < mantissaLimit ∧ scale ≤ maxScale then
    some ⟨decide (mantissa < 0), mantissa.natAbs, scale, h.1, h.2⟩
  else
    none

/-- Zero without fraction digits. -/
def zero : Decimal := ⟨false, 0, 0, by decide, by decide⟩

/-- One without fraction digits. -/
def one : Decimal := ⟨false, 1, 0, by decide, by decide⟩

/-- The largest decimal. -/
def maximum : Decimal := ⟨false, 79228162514264337593543950335, 0, by decide, by decide⟩

instance : Inhabited Decimal := ⟨zero⟩

/-- The decimal with the given digits, so many of them behind the point; zero out of range. -/
def ofDigits (digits places : Nat) : Decimal := (ofParts? digits places).getD zero

/-- A whole number, if it fits the mantissa. -/
def ofNat? (n : Nat) : Option Decimal := ofParts? n 0

/-- Whether the number is below zero. -/
def isNegative (d : Decimal) : Bool := d.negative && d.digits != 0

/-- The order of the numbers' values. -/
def compare (a b : Decimal) : Ordering :=
  Ord.compare (a.mantissa * Nat.pow 10 b.scale) (b.mantissa * Nat.pow 10 a.scale)

/-- Strict order by value. -/
def lessThan (a b : Decimal) : Bool := compare a b == .lt

/-- Equality by value, whatever the scales. -/
def sameValue (a b : Decimal) : Bool := compare a b == .eq

/-- Removes up to the given number of trailing zero digits. -/
def strip (digits : Nat) : Nat → Nat × Nat
  | 0 => (digits, 0)
  | scale + 1 =>
      if digits % 10 = 0 then strip (digits / 10) scale else (digits, scale + 1)

/-- Stripping never grows the digits or the scale, by recursion on the scale. -/
theorem strip_bounds (digits scale : Nat)
    : (strip digits scale).1 ≤ digits ∧ (strip digits scale).2 ≤ scale := by
  induction scale generalizing digits with
  | zero => simp [strip]
  | succ scale ih =>
      unfold strip
      split
      · have := ih (digits / 10)
        omega
      · simp

/-- The same value without trailing zeros in the fraction; zero loses its scale and its sign. -/
def normalize (d : Decimal) : Decimal :=
  let stripped := strip d.digits d.scale
  if d.digits = 0 then zero
  else
    { negative := d.negative
      digits := stripped.1
      scale := stripped.2
      digits_lt := Nat.lt_of_le_of_lt (strip_bounds _ _).1 d.digits_lt
      scale_le := Nat.le_trans (strip_bounds _ _).2 d.scale_le }

/-- A decimal is known by its sign, its digits and its scale. -/
theorem ext_parts {a b : Decimal} (negative : a.negative = b.negative)
    (digits : a.digits = b.digits) (scale : a.scale = b.scale)
    : a = b := by
  cases a
  cases b
  simp_all

theorem natAbs_mantissa (d : Decimal) : d.mantissa.natAbs = d.digits := by
  unfold mantissa withSign
  split <;> simp

/-- Parts in range make up the one decimal that has them and no minus sign on a zero. -/
theorem ofParts?_eq_some_iff {mantissa : Int} {scale : Nat} {d : Decimal}
    : ofParts? mantissa scale = some d
      ↔ d.mantissa = mantissa ∧ d.scale = scale ∧ (d.negative = true → d.digits ≠ 0) := by
  unfold ofParts?
  constructor
  · intro h
    split at h
    · cases h
      refine ⟨?_, rfl, ?_⟩ <;> grind [Decimal.mantissa, withSign]
    · cases h
  · rintro ⟨rfl, rfl, plain⟩
    have size := d.natAbs_mantissa
    rw [dif_pos ⟨size ▸ d.digits_lt, d.scale_le⟩]
    refine congrArg some (ext_parts ?_ size rfl)
    cases h : d.negative <;> grind [Decimal.mantissa, withSign]

end Decimal

end MarginLending
