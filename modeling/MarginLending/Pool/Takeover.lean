import MarginLending.Pool.Basic

/-!
Takeover of a position that is over the leverage bound, by an account that holds nothing and pays
both assets into it.
-/

namespace MarginLending

/-- Moves an account's position and its heap node to another account as they are. -/
def Book.handOver (book : Book) (bad : Position) (badAccount receiver : AccountId) : Book :=
  let moved := ((book.erasePosition receiver).erasePosition badAccount).putPosition receiver bad
  match bad.kind.debtAsset? with
  | some debtAsset =>
      moved.setHeap debtAsset ((moved.heap debtAsset).setAccount bad.heapIndex receiver).heap
  | none => moved

namespace Pool

variable {V : Type}

/-- The position of an account that may be taken over. -/
def requireLiquidatable (book : Book) (account : AccountId) (price : Q96)
    : Except PoolError Position := do
  let some position := book.position? account | throw (.notLiquidatable account)
  if !position.isLeveraged then throw (.notLiquidatable account)
  if !(← book.isLiquidatable position price) then throw (.notLiquidatable account)
  return position

/-- Takes a bad account's position over and pays the two amounts into it. The position must come
out within the leverage bound.
-/
def takeOver (terms : Terms) (badAccount : AccountId) (quoteAmount baseAmount : Nat)
    : PoolM V Outcome := do
  let receiver := terms.caller
  let book ← readBook
  if book.kindOf receiver ≠ .uninitialized then throw (.positionInitialized receiver)
  let bad ← (requireLiquidatable book badAccount terms.price : Except PoolError Position)
  (modify fun book => book.handOver bad badAccount receiver : BookM Unit)
  Book.payIn .quote quoteAmount
  Book.payIn .base baseAmount
  Book.credit receiver .quote quoteAmount
  Book.credit receiver .base baseAmount
  Book.reseatM receiver
  (← readBook).requireLeverage receiver terms.price
  Book.refreshLeverage terms.price
  let kindAfter := (← readBook).kindOf receiver
  record (.receivePosition ⟨receiver, badAccount, kindAfter, quoteAmount, baseAmount⟩)
  return ⟨⟨baseAmount, quoteAmount⟩, (← readBook).heapIndexOf receiver, false⟩

end Pool

end MarginLending
