import MarginLending.Account

/-!
Max-heaps of leveraged positions, ranked by a key that grows with leverage, so the root is the first
candidate for liquidation. Seen from outside, slots count from one, and slot zero means "in no
heap". Every node that lands in a slot is reported as a move, in order, and a removed node is
reported at slot zero; whoever keeps the slot numbers replays the moves.

While a journal is open, the first value of every slot that existed at its opening is kept before
the slot is overwritten or dropped, so the heap can be put back without a copy of it.
-/

namespace MarginLending

/-- A ranked account. -/
structure HeapNode where
  key : Nat
  account : AccountId
  deriving DecidableEq, Repr

/-- An account's node now sits in the slot; slot zero when it has left the heap. -/
structure Move where
  account : AccountId
  slot : Nat
  deriving DecidableEq, Repr

/-- The heap's size when the journal was opened and the first values of overwritten slots, by
index from zero.
-/
structure HeapJournal where
  size : Nat
  saved : List (Nat × HeapNode)
  deriving DecidableEq, Repr

/-- Nodes in heap order, and the open journal if there is one. -/
structure LeverageHeap where
  nodes : Array HeapNode
  journal : Option HeapJournal
  deriving DecidableEq, Repr

/-- What an operation on a heap answers, the heap after it and the moves on the way. -/
structure HeapUpdate (α : Type) where
  result : α
  heap : LeverageHeap
  moves : List Move

namespace LeverageHeap

/-- A heap without nodes or journal. -/
def empty : LeverageHeap := ⟨#[], none⟩

/-- How many nodes there are, which is also the last slot. -/
def size (heap : LeverageHeap) : Nat := heap.nodes.size

def isEmpty (heap : LeverageHeap) : Bool := heap.nodes.isEmpty

/-- The node with the largest key. -/
def peek? (heap : LeverageHeap) : Option HeapNode := heap.nodes[0]?

/-- The node in a slot. -/
def get? (heap : LeverageHeap) (slot : Nat) : Option HeapNode :=
  if slot = 0 then none else heap.nodes[slot - 1]?

/-- All nodes in slot order. -/
def toList (heap : LeverageHeap) : List HeapNode := heap.nodes.toList

-----
-- The journal
-----

/-- Opens a journal; an older one is forgotten. -/
def openJournal (heap : LeverageHeap) : LeverageHeap :=
  { heap with journal := some ⟨heap.nodes.size, []⟩ }

/-- Closes the journal and keeps what was done since. -/
def commit (heap : LeverageHeap) : LeverageHeap :=
  { heap with journal := none }

/-- Closes the journal and puts every slot back as it was at its opening. -/
def rollback (heap : LeverageHeap) : LeverageHeap :=
  match heap.journal with
  | none => heap
  | some journal =>
      let restored := (List.range journal.size).filterMap fun index =>
        (journal.saved.lookup index).or heap.nodes[index]?
      ⟨restored.toArray, none⟩

/-- Journals the node at an index before it is overwritten. Only the first value counts, and
slots that did not exist at the opening need none.
-/
def save (heap : LeverageHeap) (index : Nat) : LeverageHeap :=
  match heap.journal, heap.nodes[index]? with
  | some journal, some node =>
      if index < journal.size ∧ journal.saved.lookup index = none then
        { heap with journal := some { journal with saved := (index, node) :: journal.saved } }
      else
        heap
  | _, _ => heap

-----
-- Restoring heap order
-----

/-- The key at an index, zero behind the last one. -/
def keyAt (heap : LeverageHeap) (index : Nat) : Nat :=
  match heap.nodes[index]? with
  | some node => node.key
  | none => 0

/-- The move that reports the node at an index. -/
def landing (heap : LeverageHeap) (index : Nat) : List Move :=
  match heap.nodes[index]? with
  | some node => [⟨node.account, index + 1⟩]
  | none => []

/-- Exchanges two nodes and reports them, the first index first. -/
def swap (heap : LeverageHeap) (a b : Nat) : LeverageHeap × List Move :=
  let saved := (heap.save a).save b
  let swapped := { saved with nodes := saved.nodes.swapIfInBounds a b }
  (swapped, swapped.landing a ++ swapped.landing b)

/-- Moves the node at an index up while its key is above its parent's, and answers the index where
it settles.
-/
def siftUpWithin (heap : LeverageHeap) (index : Nat) : Nat → HeapUpdate Nat
  | 0 => ⟨index, heap, []⟩
  | fuel + 1 =>
      let parent := (index - 1) / 2
      if index = 0 ∨ heap.keyAt index ≤ heap.keyAt parent then ⟨index, heap, []⟩
      else
        let swapped := heap.swap index parent
        let rest := siftUpWithin swapped.1 parent fuel
        { rest with moves := swapped.2 ++ rest.moves }

/-- Moves a node up to its place; an index bounds the length of its way to the root. -/
def siftUp (heap : LeverageHeap) (index : Nat) : HeapUpdate Nat :=
  heap.siftUpWithin index index

/-- The index with the largest key among a node and its children, the node itself in a tie and
the left child before the right.
-/
def largestAmong (heap : LeverageHeap) (index : Nat) : Nat :=
  let left := 2 * index + 1
  let right := left + 1
  let largest :=
    if left < heap.nodes.size ∧ heap.keyAt index < heap.keyAt left then left else index
  if right < heap.nodes.size ∧ heap.keyAt largest < heap.keyAt right then right else largest

/-- Moves the node at an index down while a child's key is above its own. -/
def siftDownWithin (heap : LeverageHeap) (index : Nat) : Nat → HeapUpdate Nat
  | 0 => ⟨index, heap, []⟩
  | fuel + 1 =>
      let largest := heap.largestAmong index
      if largest = index then ⟨index, heap, []⟩
      else
        let swapped := heap.swap index largest
        let rest := siftDownWithin swapped.1 largest fuel
        { rest with moves := swapped.2 ++ rest.moves }

/-- Moves a node down to its place; the heap's size bounds the length of its way. -/
def siftDown (heap : LeverageHeap) (index : Nat) : HeapUpdate Nat :=
  heap.siftDownWithin index heap.nodes.size

-----
-- Operations
-----

/-- Adds a node and answers the slot where it settles. -/
def insert (heap : LeverageHeap) (node : HeapNode) : HeapUpdate Nat :=
  let last := heap.nodes.size
  let settled := { heap with nodes := heap.nodes.push node }.siftUp last
  { result := settled.result + 1
    heap := settled.heap
    moves := ⟨node.account, last + 1⟩ :: settled.moves }

/-- Takes the last node's place away and puts that node at the index instead. -/
def dropAt (heap : LeverageHeap) (index : Nat) : LeverageHeap :=
  let last := heap.nodes.size - 1
  let saved := (heap.save index).save last
  { saved with nodes := (saved.nodes.swapIfInBounds index last).pop }

/-- Restores order around a node that may be too large or too small for its place. -/
def settle (heap : LeverageHeap) (index : Nat) : HeapUpdate Nat :=
  let up := heap.siftUp index
  if up.result = index then
    let down := up.heap.siftDown index
    { down with moves := up.moves ++ down.moves }
  else
    up

/-- Removes the node in a slot, wherever it sits, and answers it. -/
def remove (heap : LeverageHeap) (slot : Nat) : HeapUpdate (Option HeapNode) :=
  match heap.get? slot with
  | none => ⟨none, heap, []⟩
  | some removed =>
      let index := slot - 1
      let dropped := heap.dropAt index
      let left : Move := ⟨removed.account, 0⟩
      if index < dropped.nodes.size then
        let settled := dropped.settle index
        { result := some removed
          heap := settled.heap
          moves := left :: (dropped.landing index ++ settled.moves) }
      else
        ⟨some removed, dropped, [left]⟩

/-- Removes the root. -/
def pop (heap : LeverageHeap) : HeapUpdate (Option HeapNode) :=
  heap.remove 1

/-- Overwrites the node at an index, journalling it first. -/
def write (heap : LeverageHeap) (index : Nat) (node : HeapNode) : LeverageHeap :=
  let saved := heap.save index
  { saved with nodes := saved.nodes.setIfInBounds index node }

/-- Gives the node in a slot another key and restores order; answers whether the slot holds a
node.
-/
def updateKey (heap : LeverageHeap) (slot key : Nat) : HeapUpdate Bool :=
  match heap.get? slot with
  | none => ⟨false, heap, []⟩
  | some old =>
      let index := slot - 1
      let rekeyed := heap.write index { old with key }
      if old.key < key then
        let settled := rekeyed.siftUp index
        ⟨true, settled.heap, settled.moves⟩
      else if key < old.key then
        let settled := rekeyed.siftDown index
        ⟨true, settled.heap, settled.moves⟩
      else
        ⟨true, rekeyed, []⟩

/-- Hands the node in a slot to another account without moving it; answers whether the slot holds
a node.
-/
def setAccount (heap : LeverageHeap) (slot : Nat) (account : AccountId) : HeapUpdate Bool :=
  match heap.get? slot with
  | none => ⟨false, heap, []⟩
  | some node => ⟨true, heap.write (slot - 1) { node with account }, []⟩

end LeverageHeap

end MarginLending
