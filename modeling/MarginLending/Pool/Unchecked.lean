import MarginLending.Error

/-!
Arithmetic that nothing checks. An operation of the pool computes a few sums and differences of
amounts, and the share of a cost that pays the fee, without a check of its own. A sum or a
difference that is out of range stops the program; a wide number loses what does not fit an amount.

The way to compute is a parameter of the operations, so that what a call does can be compared
between ways.
-/

namespace MarginLending

/-- A computation on amounts that is made without a check. -/
inductive Unchecked where
  | sum (a b : Nat)
  | difference (a b : Nat)
  | low (n : Nat)

/-- A way to compute what is not checked. -/
abbrev Arithmetic := Unchecked → Except PoolError Nat

namespace Unchecked

/-- The way the pool computes. -/
def carryOut : Arithmetic
  | sum a b => if a + b < amountLimit then .ok (a + b) else .error .stopped
  | difference a b => if b ≤ a then .ok (a - b) else .error .stopped
  | low n => .ok (Amount.low n)

/-- A sum that does not stop the program is the sum, and it is an amount. -/
theorem carryOut_sum_eq_ok {a b c : Nat}
    : carryOut (sum a b) = .ok c ↔ c = a + b ∧ a + b < amountLimit := by
  simp only [carryOut]
  split <;> simp_all [eq_comm]

/-- A difference that does not stop the program is the difference, and nothing was missing. -/
theorem carryOut_difference_eq_ok {a b c : Nat}
    : carryOut (difference a b) = .ok c ↔ c = a - b ∧ b ≤ a := by
  simp only [carryOut]
  split <;> simp_all [eq_comm]

end Unchecked

end MarginLending
