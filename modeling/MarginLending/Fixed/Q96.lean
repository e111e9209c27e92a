import MarginLending.Decimal.Arithmetic
import MarginLending.Fixed.Amount

/-!
Unsigned fixed-point numbers with 96 fraction bits, held in a word. Prices, coefficients, leverage
and growth factors have this form. Every operation rounds toward zero unless its name says up, and
fails instead of leaving the range of a word.
-/

namespace MarginLending

/-- The number (raw / 2 ^ 96). -/
structure Q96 where
  raw : Nat
  deriving DecidableEq, Repr

namespace Q96

/-- Bits of the fraction. -/
def fractionBits : Nat := 96

/-- The raw value of one. -/
def unit : Nat := Nat.pow 2 fractionBits

def zero : Q96 := ⟨0⟩

def one : Q96 := ⟨unit⟩

/-- The largest number; it stands for an unbounded one. -/
def maximum : Q96 := ⟨wordLimit - 1⟩

instance : Inhabited Q96 := ⟨zero⟩

instance : LE Q96 := ⟨fun a b => a.raw ≤ b.raw⟩

instance : LT Q96 := ⟨fun a b => a.raw < b.raw⟩

instance (a b : Q96) : Decidable (a ≤ b) := inferInstanceAs (Decidable (a.raw ≤ b.raw))

instance (a b : Q96) : Decidable (a < b) := inferInstanceAs (Decidable (a.raw < b.raw))

theorem le_def {a b : Q96} : a ≤ b ↔ a.raw ≤ b.raw := Iff.rfl

theorem lt_def {a b : Q96} : a < b ↔ a.raw < b.raw := Iff.rfl

/-- Numbers are told apart by their raw values. -/
theorem ext_raw {a b : Q96} (h : a.raw = b.raw) : a = b := by
  cases a
  cases b
  exact congrArg _ h

def isZero (q : Q96) : Bool := q.raw == 0

/-- The smaller of two numbers. -/
def min (a b : Q96) : Q96 := if a ≤ b then a else b

/-- A whole number. -/
def ofNat (n : Nat) : Q96 := ⟨n * unit⟩

/-- The quotient of two whole numbers. -/
def ofRatio (num den : Nat) : Except MathError Q96 :=
  Q96.mk <$> mulDiv num unit den

/-- Sum of two numbers. -/
def add (a b : Q96) : Except MathError Q96 :=
  if a.raw + b.raw < wordLimit then .ok ⟨a.raw + b.raw⟩ else .error .overflow

/-- Difference of two numbers. -/
def sub (a b : Q96) : Except MathError Q96 :=
  if b.raw ≤ a.raw then .ok ⟨a.raw - b.raw⟩ else .error .underflow

/-- Difference of two numbers, zero when nothing is left. -/
def subSaturating (a b : Q96) : Q96 := ⟨a.raw - b.raw⟩

/-- Product of two numbers. -/
def mul (a b : Q96) : Except MathError Q96 :=
  Q96.mk <$> mulDiv a.raw b.raw unit

/-- Quotient of two numbers. -/
def div (a b : Q96) : Except MathError Q96 :=
  Q96.mk <$> mulDiv a.raw unit b.raw

/-- An amount multiplied by the number, rounded down. -/
def scale (q : Q96) (amount : Nat) : Except MathError Nat := do
  Amount.ofWide (← mulDiv q.raw amount unit)

/-- An amount multiplied by the number, rounded up. -/
def scaleUp (q : Q96) (amount : Nat) : Except MathError Nat := do
  Amount.ofWide (← mulDivUp q.raw amount unit)

/-- An amount divided by the number, rounded down. -/
def unscale (q : Q96) (amount : Nat) : Except MathError Nat := do
  Amount.ofWide (← mulDiv amount unit q.raw)

/-- An amount divided by the number, rounded up. -/
def unscaleUp (q : Q96) (amount : Nat) : Except MathError Nat := do
  Amount.ofWide (← mulDivUp amount unit q.raw)

end Q96

end MarginLending
