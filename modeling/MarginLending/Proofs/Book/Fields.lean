import MarginLending.Book.Accrual
import MarginLending.Book.Ranking
import MarginLending.Proofs.Heap.Slots

/-!
What each change of a book leaves alone. Journalling changes nothing but the journal, a new position
nothing but the table, and reported slots nothing of a position but its slot.
-/

namespace MarginLending

/-- There are two assets, so a statement about both is one about an asset and its counterpart. -/
theorem Asset.eq_or_eq_other (asset other : Asset) : other = asset ∨ other = asset.other := by
  cases asset <;> cases other <;> decide

namespace Book

section Replacing

variable (book : Book) (asset other : Asset) (account : AccountId)

@[simp] theorem ledger_setLedger_same (ledger : Ledger)
    : (book.setLedger asset ledger).ledger asset = ledger :=
  PerAsset.get_set_same _ _ _

@[simp] theorem ledger_setLedger_other (ledger : Ledger)
    : (book.setLedger asset ledger).ledger asset.other = book.ledger asset.other :=
  PerAsset.get_set_other _ _ _

@[simp] theorem ledger_other_setLedger (ledger : Ledger)
    : (book.setLedger asset.other ledger).ledger asset = book.ledger asset :=
  PerAsset.get_other_set _ _ _

@[simp] theorem heap_setHeap_same (heap : LeverageHeap)
    : (book.setHeap asset heap).heap asset = heap :=
  PerAsset.get_set_same _ _ _

@[simp] theorem heap_setHeap_other (heap : LeverageHeap)
    : (book.setHeap asset heap).heap asset.other = book.heap asset.other :=
  PerAsset.get_set_other _ _ _

@[simp] theorem ledger_setHeap (heap : LeverageHeap)
    : (book.setHeap asset heap).ledger other = book.ledger other := rfl

end Replacing

section Positions

variable (book : Book) (account other : AccountId) (position : Position) (asset : Asset)

/-- Journalling a position changes the journal at most. -/
theorem touch_eq : book.touch account = { book with journal := (book.touch account).journal } := by
  unfold touch
  split
  · rfl
  · split <;> rfl

theorem putPosition_eq
    : book.putPosition account position
      = { book with
          positions := book.positions.insert account position
          journal := (book.touch account).journal } := by
  unfold putPosition
  rw [touch_eq]

theorem erasePosition_eq
    : book.erasePosition account
      = { book with
          positions := book.positions.erase account
          journal := (book.touch account).journal } := by
  unfold erasePosition
  rw [touch_eq]

@[simp] theorem positions_putPosition
    : (book.putPosition account position).positions = book.positions.insert account position := by
  rw [putPosition_eq]

@[simp] theorem ledger_putPosition
    : (book.putPosition account position).ledger asset = book.ledger asset := by
  rw [putPosition_eq]
  rfl

@[simp] theorem heap_putPosition
    : (book.putPosition account position).heap asset = book.heap asset := by
  rw [putPosition_eq]
  rfl

/-- Setting a position is seen at its own account only. -/
theorem position?_putPosition
    : (book.putPosition account position).position? other
      = if account = other then some position else book.position? other := by
  unfold position?
  rw [positions_putPosition, AccountTable.get?_insert]

@[simp] theorem positions_erasePosition
    : (book.erasePosition account).positions = book.positions.erase account := by
  rw [erasePosition_eq]

@[simp] theorem ledger_erasePosition
    : (book.erasePosition account).ledger asset = book.ledger asset := by
  rw [erasePosition_eq]
  rfl

@[simp] theorem heap_erasePosition
    : (book.erasePosition account).heap asset = book.heap asset := by
  rw [erasePosition_eq]
  rfl

/-- Removing a position is seen at its own account only. -/
theorem position?_erasePosition
    : (book.erasePosition account).position? other
      = if account = other then none else book.position? other := by
  unfold position?
  rw [positions_erasePosition, AccountTable.get?_erase]

end Positions

-----
-- Reported slots change nothing of a position but its slot
-----

section Moves

variable (book : Book) (moves : List Move) (account : AccountId) (asset : Asset)

/-- A replayed move is seen in the slot of its own account only. -/
theorem position?_applyMove (move : Move)
    : (book.applyMove move).position? account
      = (book.position? account).map fun position =>
          { position with heapIndex := slotAfter [move] account position.heapIndex } := by
  unfold applyMove
  split
  · next position found =>
      rw [position?_putPosition]
      split
      · next same =>
          subst same
          simp [found]
      · next different => simp [different]
  · next absent =>
      rcases decEq move.account account with different | rfl
      · simp [different]
      · simp [absent]

@[simp] theorem ledger_applyMove (move : Move)
    : (book.applyMove move).ledger asset = book.ledger asset := by
  unfold applyMove
  split <;> simp

@[simp] theorem heap_applyMove (move : Move)
    : (book.applyMove move).heap asset = book.heap asset := by
  unfold applyMove
  split <;> simp

/-- Replayed moves are seen in the slots of positions only, by induction on the moves. -/
theorem position?_foldl_applyMove
    : (moves.foldl applyMove book).position? account
      = (book.position? account).map fun position =>
          { position with heapIndex := slotAfter moves account position.heapIndex } := by
  induction moves generalizing book with
  | nil => simp
  | cons move rest ih =>
      rw [List.foldl_cons, ih, position?_applyMove, Option.map_map]
      rfl

@[simp] theorem ledger_foldl_applyMove
    : (moves.foldl applyMove book).ledger asset = book.ledger asset := by
  induction moves generalizing book with
  | nil => rfl
  | cons move rest ih => rw [List.foldl_cons, ih, ledger_applyMove]

@[simp] theorem heap_foldl_applyMove
    : (moves.foldl applyMove book).heap asset = book.heap asset := by
  induction moves generalizing book with
  | nil => rfl
  | cons move rest ih => rw [List.foldl_cons, ih, heap_applyMove]

end Moves

section Updates

variable {α : Type} (book : Book) (update : HeapUpdate α) (account : AccountId) (asset : Asset)

theorem position?_applyUpdate
    : (book.applyUpdate asset update).position? account
      = (book.position? account).map fun position =>
          { position with heapIndex := slotAfter update.moves account position.heapIndex } :=
  position?_foldl_applyMove _ _ _

@[simp] theorem heap_applyUpdate_same
    : (book.applyUpdate asset update).heap asset = update.heap := by
  simp [applyUpdate]

@[simp] theorem heap_applyUpdate_other
    : (book.applyUpdate asset update).heap asset.other = book.heap asset.other := by
  simp [applyUpdate]

end Updates

end Book

end MarginLending
