import MarginLending.Pool.Basic

/-!
Tripping the circuit breaker, and the way out of a pool that has tripped.
-/

namespace MarginLending.Pool

variable {V : Type}

/-- Freezes the pool because debt in an asset can no longer be recovered. -/
def freeze (terms : Terms) (debtAsset : Asset) : PoolM V Unit := do
  let book ← readBook
  let mode := Mode.ofDebt debtAsset
  let totalNetValue ← book.totalNetValue terms.price
  let balances := book.ledgers.map Ledger.balance
  record (.emergencyTripped mode balances)
  let snapshot : Snapshot := ⟨mode, terms.price, balances, totalNetValue⟩
  (modify fun book => { book with mode, snapshot := some snapshot } : BookM Unit)

/-- Pays out an account's share of the frozen balances and deletes its position. -/
def emergencyWithdraw (account : AccountId) : PoolM V Outcome := do
  let book ← readBook
  let some snapshot := book.snapshot | throw .notEmergency
  let some position := book.position? account | throw (.uninitializedPosition account)
  let netValue ← book.netValue position snapshot.price
  let amounts ← (snapshot.shareOf netValue : Except MathError (PerAsset Nat))
  Book.removePosition account
  Book.payOut .base amounts.base
  Book.payOut .quote amounts.quote
  record (.emergencyWithdraw account amounts)
  return { Outcome.nothing with amounts }

end MarginLending.Pool
