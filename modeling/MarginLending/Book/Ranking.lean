import MarginLending.Book.Balances

/-!
Keeping the heaps in step with the positions. A leveraged position sits in the heap of the asset it
owes, at the rank of its current holdings, and knows its slot; any other position sits in none.
-/

namespace MarginLending.Book

/-- Writes a reported slot into the account's position, if it has one. -/
def applyMove (book : Book) (move : Move) : Book :=
  match book.position? move.account with
  | some position => book.putPosition move.account { position with heapIndex := move.slot }
  | none => book

/-- Replaces a heap and writes the reported slots into the positions, in order. -/
def applyUpdate {α : Type} (book : Book) (debtAsset : Asset) (update : HeapUpdate α) : Book :=
  update.moves.foldl applyMove (book.setHeap debtAsset update.heap)

/-- The heap that holds an account in a slot, if one does. -/
def heapSide? (book : Book) (account : AccountId) (slot : Nat) : Option Asset :=
  let holds := fun debtAsset =>
    ((book.heap debtAsset).get? slot).map HeapNode.account == some account
  if holds .base then some .base
  else if holds .quote then some .quote
  else none

/-- Takes an account's node out of a heap. -/
def unseat (book : Book) (debtAsset : Asset) (slot : Nat) : Book :=
  book.applyUpdate debtAsset ((book.heap debtAsset).remove slot)

/-- Puts an account's position into the heap its kind calls for, at the right rank, and out of the
other one.
-/
def reseat (book : Book) (account : AccountId) : Book :=
  match book.position? account with
  | none => book
  | some position =>
      let node := position.heapNode account
      let slot := position.heapIndex
      let current := book.heapSide? account slot
      let target := position.kind.debtAsset?
      if current = target then
        match target with
        | some asset => book.applyUpdate asset ((book.heap asset).updateKey slot node.key)
        | none => book
      else
        let unseated :=
          match current with
          | some asset => book.unseat asset slot
          | none => book
        match target with
        | some asset => unseated.applyUpdate asset ((unseated.heap asset).insert node)
        | none => unseated

/-- The action of putting an account's position in its place. -/
def reseatM (account : AccountId) : BookM Unit :=
  modify fun book => book.reseat account

/-- Drops an account's position: its holdings leave the totals and its node leaves its heap. -/
def removePosition (account : AccountId) : BookM Unit := do
  let book ← get
  match book.position? account with
  | none => return
  | some position =>
      modifyLedger .base fun ledger => ledger.release position.holdings.base
      modifyLedger .quote fun ledger => ledger.release position.holdings.quote
      modify fun book =>
        let unseated :=
          match book.heapSide? account position.heapIndex with
          | some asset => book.unseat asset position.heapIndex
          | none => book
        unseated.erasePosition account

/-- Drops an account's position if it holds nothing. -/
def dropIfEmpty (account : AccountId) : BookM Unit := do
  if (← get).kindOf account = .uninitialized then removePosition account

end MarginLending.Book
