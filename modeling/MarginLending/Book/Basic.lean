import MarginLending.AccountTable
import MarginLending.Emergency
import MarginLending.Ledger
import MarginLending.Timestamp

/-!
The book of a pool: everything that a call may change. While a journal is open the book keeps what
a call needs to undo itself: the small fields whole, each position as it was before it was first
touched, and in each heap the first values of its slots.
-/

namespace MarginLending

/-- What the book was when its journal was opened. Only touched positions are kept; an account
without a position then is kept as none.
-/
structure BookJournal where
  parameters : Parameters
  ledgers : PerAsset Ledger
  leverage : PerAsset Q96
  lastAccrual : Timestamp
  mode : Mode
  snapshot : Option Snapshot
  positions : AccountTable (Option Position)

/-- Everything that a call may change. Heaps and leverage are kept by the asset that is owed: base
by shorts, quote by longs.
-/
structure Book where
  parameters : Parameters
  ledgers : PerAsset Ledger
  heaps : PerAsset LeverageHeap
  positions : AccountTable Position
  /-- Leverage of both sides as last stored, capped at the bound. Interest accrues by it. -/
  leverage : PerAsset Q96
  lastAccrual : Timestamp
  mode : Mode
  snapshot : Option Snapshot
  journal : Option BookJournal

/-- Actions on a book. A failed action leaves what it changed for a rollback. -/
abbrev BookM := EStateM PoolError Book

namespace Book

/-- An empty book that starts at a time. -/
def new (parameters : Parameters) (start : Timestamp) : Book where
  parameters := parameters
  ledgers := .both .new
  heaps := .both .empty
  positions := .empty
  leverage := .both .one
  lastAccrual := start
  mode := .regular
  snapshot := none
  journal := none

/-- The ledger of an asset. -/
def ledger (book : Book) (asset : Asset) : Ledger := book.ledgers.get asset

/-- The heap of the positions that owe an asset. -/
def heap (book : Book) (debtAsset : Asset) : LeverageHeap := book.heaps.get debtAsset

/-- The book with another ledger for an asset. -/
def setLedger (book : Book) (asset : Asset) (ledger : Ledger) : Book :=
  { book with ledgers := book.ledgers.set asset ledger }

/-- The book with another heap for an owed asset. -/
def setHeap (book : Book) (debtAsset : Asset) (heap : LeverageHeap) : Book :=
  { book with heaps := book.heaps.set debtAsset heap }

/-- The position of an account. -/
def position? (book : Book) (account : AccountId) : Option Position :=
  book.positions.get? account

/-- The kind of an account's position; an account without one has not started. -/
def kindOf (book : Book) (account : AccountId) : PositionKind :=
  match book.position? account with
  | some position => position.kind
  | none => .uninitialized

/-- The slot of an account in the heap of its kind, zero for an account that is in none. -/
def heapIndexOf (book : Book) (account : AccountId) : Nat :=
  match book.position? account with
  | some position => position.heapIndex
  | none => 0

/-- Whether two books agree in everything but their journals. Parameters agree by value. -/
def sameAs (a b : Book) : Bool :=
  a.parameters.sameValues b.parameters
    && a.ledgers == b.ledgers
    && a.heaps.base.nodes == b.heaps.base.nodes
    && a.heaps.quote.nodes == b.heaps.quote.nodes
    && a.positions == b.positions
    && a.leverage == b.leverage
    && a.lastAccrual == b.lastAccrual
    && a.mode == b.mode
    && a.snapshot == b.snapshot

-----
-- The journal
-----

/-- Opens the journals of the book and its heaps. -/
def openJournal (book : Book) : Book :=
  { book with
    journal := some {
      parameters := book.parameters
      ledgers := book.ledgers
      leverage := book.leverage
      lastAccrual := book.lastAccrual
      mode := book.mode
      snapshot := book.snapshot
      positions := .empty }
    heaps := book.heaps.map LeverageHeap.openJournal }

/-- Closes the journals and keeps what was done since. -/
def commit (book : Book) : Book :=
  { book with journal := none, heaps := book.heaps.map LeverageHeap.commit }

/-- Puts one touched position back. -/
def restorePosition (positions : AccountTable Position) (entry : AccountId × Option Position)
    : AccountTable Position :=
  match entry.2 with
  | some position => positions.insert entry.1 position
  | none => positions.erase entry.1

/-- Closes the journals and puts everything back as it was at their opening. -/
def rollback (book : Book) : Book :=
  match book.journal with
  | none => book
  | some journal =>
      { parameters := journal.parameters
        ledgers := journal.ledgers
        heaps := book.heaps.map LeverageHeap.rollback
        positions := journal.positions.entries.foldl restorePosition book.positions
        leverage := journal.leverage
        lastAccrual := journal.lastAccrual
        mode := journal.mode
        snapshot := journal.snapshot
        journal := none }

/-- Journals an account's position before it is changed; only the first value counts. -/
def touch (book : Book) (account : AccountId) : Book :=
  match book.journal with
  | none => book
  | some journal =>
      match journal.positions.get? account with
      | some _ => book
      | none =>
          { book with
            journal := some { journal with
              positions := journal.positions.insert account (book.positions.get? account) } }

/-- Sets an account's position, journalling the one before. -/
def putPosition (book : Book) (account : AccountId) (position : Position) : Book :=
  let touched := book.touch account
  { touched with positions := touched.positions.insert account position }

/-- Removes an account's position, journalling it first. -/
def erasePosition (book : Book) (account : AccountId) : Book :=
  let touched := book.touch account
  { touched with positions := touched.positions.erase account }

end Book

end MarginLending
