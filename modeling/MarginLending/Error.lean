import MarginLending.Account
import MarginLending.Parameters
import MarginLending.Venue.Basic

/-!
Why a call on the pool gives no result, and how that is worded. Causes from inside a computation,
the price feed, the venue or the parameters are kept as they are.
-/

namespace MarginLending

/-- Why a call on the pool fails. All but the last are refusals, which the caller is told. -/
inductive PoolError where
  | zeroAmount
  | exceedsLimit
  | uninitializedPosition (account : AccountId)
  | positionInitialized (account : AccountId)
  | notLiquidatable (account : AccountId)
  | badLeverage
  | wrongPositionType
  | slippageLimit
  | lessThanMinimalAmount (minimum : Nat)
  | wrongValue (reason : String)
  | forbidden
  | accessDenied (account : AccountId)
  | notEmergency
  | emergencyMode
  | math (error : MathError)
  | oracle (error : OracleError)
  | swap (error : SwapError)
  | parameters (error : ParameterError)
  /-- A computation that nothing checks is out of range. The program ends there and gives no answer.
  -/
  | stopped
  deriving DecidableEq

/-- The wording of a failure. -/
def PoolError.message : PoolError → String
  | .zeroAmount => "Amount must be non-zero"
  | .exceedsLimit => "Amount exceeds limit"
  | .uninitializedPosition account => "Position " ++ account.label ++ " is not initialized"
  | .positionInitialized account => "Position " ++ account.label ++ " already exists"
  | .notLiquidatable account => "Position " ++ account.label ++ " is not liquidatable"
  | .badLeverage => "Leverage above pool maximum"
  | .wrongPositionType => "Operation not allowed for this position type"
  | .slippageLimit => "Swap price worse than limit"
  | .lessThanMinimalAmount minimum => "Amount below position minimum " ++ toString minimum
  | .wrongValue reason => "Wrong value: " ++ reason
  | .forbidden => "Forbidden"
  | .accessDenied account => "Account " ++ account.label ++ " is not the admin"
  | .notEmergency => "Pool is not in emergency mode"
  | .emergencyMode => "Pool is in emergency mode"
  | .math error => "Math error: " ++ error.message
  | .oracle error => "Oracle error: " ++ error.message
  | .swap error => "Swap error: " ++ error.message
  | .parameters error => "Config error: " ++ error.message
  | .stopped => "Arithmetic out of range"

/-- A failed computation fails the call that needs it. -/
instance : MonadLift (Except MathError) (Except PoolError) where
  monadLift := Except.mapError PoolError.math

/-- A missing price fails the call that needs it. -/
instance : MonadLift (Except OracleError) (Except PoolError) where
  monadLift := Except.mapError PoolError.oracle

/-- A call fails with the cause; what it changed up to then is left for a rollback. -/
instance {σ : Type} : MonadLift (Except PoolError) (EStateM PoolError σ) where
  monadLift
    | .ok value => pure value
    | .error error => throw error

end MarginLending
