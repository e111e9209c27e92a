import MarginLending.Asset
import MarginLending.Fixed.Q96

/-!
What the pool needs of the outside: a price for base, and a venue that swaps one asset for the
other. The pool trusts neither; any type with these two operations will do.
-/

namespace MarginLending

/-- Why there is no price. -/
inductive OracleError where
  | unavailable
  | zeroPrice
  deriving DecidableEq, Repr

/-- The wording of a missing price. -/
def OracleError.message : OracleError → String
  | .unavailable => "price feed unavailable"
  | .zeroPrice => "price feed returned zero"

/-- Why a venue does not fill an order. -/
inductive SwapError where
  | insufficientOutput (minimum actual : Nat)
  | excessiveInput (maximum actual : Nat)
  | unavailable (reason : String)
  | math (error : MathError)
  deriving DecidableEq, Repr

/-- The wording of an unfilled order. -/
def SwapError.message : SwapError → String
  | .insufficientOutput minimum actual =>
      "venue returned " ++ toString actual ++ ", minimum was " ++ toString minimum
  | .excessiveInput maximum actual =>
      "venue wants " ++ toString actual ++ ", maximum was " ++ toString maximum
  | .unavailable reason => "venue unavailable: " ++ reason
  | .math error => "venue math: " ++ error.message

/-- An order to swap. The amount is what goes in and the limit the least that may come out, or,
for an order that is not of exact input, the amount is what comes out and the limit the most that
may go in. The route is handed to the venue as it is.
-/
structure SwapOrder where
  tokenIn : Asset
  amount : Nat
  exactInput : Bool
  limit : Nat
  route : Nat
  deriving DecidableEq, Repr

/-- What a venue says it took and gave. -/
structure Fill where
  amountIn : Nat
  amountOut : Nat
  deriving DecidableEq, Repr

namespace SwapOrder

/-- The asset that comes out. -/
def tokenOut (order : SwapOrder) : Asset := order.tokenIn.other

/-- Sells exactly an amount for at least a minimum of the other asset. -/
def sell (tokenIn : Asset) (amountIn minimumOut route : Nat) : SwapOrder :=
  ⟨tokenIn, amountIn, true, minimumOut, route⟩

/-- Buys exactly an amount of the other asset for at most a maximum. -/
def buyWith (tokenIn : Asset) (amountOut maximumIn route : Nat) : SwapOrder :=
  ⟨tokenIn, amountOut, false, maximumIn, route⟩

/-- Whether a fill keeps to the amount and the limit of the order. -/
def isHonouredBy (order : SwapOrder) (fill : Fill) : Bool :=
  if order.exactInput then
    decide (fill.amountIn = order.amount ∧ order.limit ≤ fill.amountOut)
  else
    decide (fill.amountOut = order.amount ∧ fill.amountIn ≤ order.limit)

end SwapOrder

/-- A price feed with a swap venue. Swapping may change the venue, whatever it answers. -/
class Venue (V : Type) where
  /-- Quote per unit of base. -/
  basePrice : V → Except OracleError Q96
  swap : V → SwapOrder → Except SwapError Fill × V

end MarginLending
