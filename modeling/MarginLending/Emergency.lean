import MarginLending.Asset
import MarginLending.Fixed.Q96

/-!
The pool's circuit breaker. Once tripped, balances and the positions' total worth are frozen in a
snapshot, and every position leaves with its share of the balances.
-/

namespace MarginLending

/-- Whether the pool works, and which debt could not be recovered if it does not. -/
inductive Mode where
  | regular
  | shortEmergency
  | longEmergency
  deriving DecidableEq, Repr

namespace Mode

/-- Whether only the way out is open. -/
def isEmergency : Mode → Bool
  | .regular => false
  | .shortEmergency | .longEmergency => true

/-- The mode that unrecoverable debt in an asset leads to. -/
def ofDebt : Asset → Mode
  | .base => .shortEmergency
  | .quote => .longEmergency

/-- The mode as it is written in reports. -/
def label : Mode → String
  | .regular => "regular"
  | .shortEmergency => "short emergency"
  | .longEmergency => "long emergency"

end Mode

/-- What was frozen when the pool tripped. The total worth counts every position in quote at the
frozen price, each no lower than zero.
-/
structure Snapshot where
  mode : Mode
  price : Q96
  balances : PerAsset Nat
  totalNetValue : Nat
  deriving DecidableEq, Repr

namespace Snapshot

/-- The part of one frozen balance that a worth is entitled to, rounded down. -/
def portion (snapshot : Snapshot) (asset : Asset) (netValue : Nat) : Except MathError Nat := do
  let value := min netValue snapshot.totalNetValue
  Amount.ofWide (← mulDiv (snapshot.balances.get asset) value snapshot.totalNetValue)

/-- What is paid out in both assets for a position's worth; nothing for a worthless one. -/
def shareOf (snapshot : Snapshot) (netValue : Nat) : Except MathError (PerAsset Nat) :=
  if snapshot.totalNetValue = 0 ∨ netValue = 0 then .ok (.both 0)
  else do
    let base ← snapshot.portion .base netValue
    let quote ← snapshot.portion .quote netValue
    return ⟨base, quote⟩

end Snapshot

end MarginLending
