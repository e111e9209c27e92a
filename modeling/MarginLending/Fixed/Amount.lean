/-!
Whole amounts of tokens and the checked operations on them. An amount is a natural number below
`amountLimit`; an operation that would leave that range fails with its cause.
-/

namespace MarginLending

/-- Why a number cannot be computed. -/
inductive MathError where
  | overflow
  | underflow
  | divisionByZero
  | rateTooHigh
  | negative
  deriving DecidableEq, Repr

/-- The wording of a failed computation. -/
def MathError.message : MathError → String
  | .overflow => "fixed-point overflow"
  | .underflow => "fixed-point underflow"
  | .divisionByZero => "division by zero"
  | .rateTooHigh => "growth rate must be below 100% per step"
  | .negative => "negative value where unsigned expected"

/-- Token amounts lie below this bound. -/
def amountLimit : Nat := Nat.pow 2 128

/-- Fixed-point numbers and the results of wide products lie below this bound. -/
def wordLimit : Nat := Nat.pow 2 256

namespace Amount

/-- The largest amount; as an order it stands for "all there is". -/
def max : Nat := amountLimit - 1

/-- Sum of two amounts. -/
def add (a b : Nat) : Except MathError Nat :=
  if a + b < amountLimit then .ok (a + b) else .error .overflow

/-- Difference of two amounts. -/
def sub (a b : Nat) : Except MathError Nat :=
  if b ≤ a then .ok (a - b) else .error .underflow

/-- Sum of two amounts, held at the largest one. -/
def addSaturating (a b : Nat) : Nat :=
  min (a + b) max

/-- The part of a wide number that fits an amount. -/
def low (n : Nat) : Nat :=
  n % amountLimit

/-- Accepts a wide number only if it is an amount. -/
def ofWide (n : Nat) : Except MathError Nat :=
  if n < amountLimit then .ok n else .error .overflow

/-- A checked sum is the sum, and it is in range. -/
theorem add_eq_ok_iff {a b c : Nat}
    : add a b = .ok c ↔ c = a + b ∧ a + b < amountLimit := by
  unfold add
  split <;> simp_all [eq_comm]

/-- A checked difference is the difference, and nothing was missing. -/
theorem sub_eq_ok_iff {a b c : Nat} : sub a b = .ok c ↔ c = a - b ∧ b ≤ a := by
  unfold sub
  split <;> simp_all [eq_comm]

/-- A wide number is accepted unchanged, exactly when it is in range. -/
theorem ofWide_eq_ok_iff {n c : Nat} : ofWide n = .ok c ↔ c = n ∧ n < amountLimit := by
  unfold ofWide
  split <;> simp_all [eq_comm]
  omega

end Amount

/-- Accepts the result of a wide division only if it fits a fixed-point word. -/
def narrow (n : Nat) : Except MathError Nat :=
  if n < wordLimit then .ok n else .error .overflow

/-- The product of two words divided by a third, rounded down. The product itself is exact. -/
def mulDiv (a b divisor : Nat) : Except MathError Nat :=
  if divisor = 0 then .error .divisionByZero else narrow (a * b / divisor)

/-- The product of two words divided by a third, rounded up. -/
def mulDivUp (a b divisor : Nat) : Except MathError Nat :=
  if divisor = 0 then .error .divisionByZero
  else narrow (a * b / divisor + if a * b % divisor = 0 then 0 else 1)

theorem narrow_eq_ok_iff {n c : Nat} : narrow n = .ok c ↔ c = n ∧ n < wordLimit := by
  unfold narrow
  split <;> simp_all [eq_comm]
  omega

/-- The quotient is the floor of the exact quotient, by unfolding both range checks. -/
theorem mulDiv_eq_ok_iff {a b divisor c : Nat}
    : mulDiv a b divisor = .ok c
      ↔ divisor ≠ 0 ∧ c = a * b / divisor ∧ a * b / divisor < wordLimit := by
  unfold mulDiv
  split <;> simp_all [narrow_eq_ok_iff]

end MarginLending
