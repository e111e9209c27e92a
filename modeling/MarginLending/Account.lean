/-!
Account numbers. Number 0 is reserved: it collects the protocol's fees as plain collateral.
-/

namespace MarginLending

/-- An account, known by its number. -/
structure AccountId where
  number : Nat
  deriving DecidableEq, Repr

namespace AccountId

/-- The reserved account that protocol fees are credited to. -/
def feeHolder : AccountId := ⟨0⟩

/-- Whether an account is the reserved one. -/
def isFeeHolder (account : AccountId) : Bool := account == feeHolder

/-- The account as it is written in messages. -/
def label (account : AccountId) : String := "#" ++ toString account.number

/-- Accounts are told apart by their numbers. -/
theorem ext_number {left right : AccountId} (h : left.number = right.number)
    : left = right := by
  cases left
  cases right
  exact congrArg _ h

end AccountId

end MarginLending
