import MarginLending.Heap
import Mathlib.Tactic.SplitIfs

/-!
What the operations of a heap do to its nodes. Restoring heap order is a chain of exchanges,
whatever made it necessary, so facts about contents, reported slots and the journal are proved for
one exchange and carried along the chain.
-/

namespace MarginLending.LeverageHeap

/-- Journalling a slot changes no node, by inspecting the cases of the journal. -/
@[simp] theorem nodes_save (heap : LeverageHeap) (index : Nat)
    : (heap.save index).nodes = heap.nodes := by
  unfold save
  split
  · split <;> rfl
  · rfl

@[simp] theorem size_nodes_swap (heap : LeverageHeap) (a b : Nat)
    : (heap.swap a b).1.nodes.size = heap.nodes.size := by
  simp [swap]

/-- After an exchange each of the two indices holds the other's node. -/
theorem getElem?_swap {heap : LeverageHeap} {a b : Nat} (inA : a < heap.nodes.size)
    (inB : b < heap.nodes.size) (index : Nat)
    : (heap.swap a b).1.nodes[index]?
      = if index = a then heap.nodes[b]?
        else if index = b then heap.nodes[a]?
        else heap.nodes[index]? := by
  simp only [swap, nodes_save, Array.swapIfInBounds_def, inA, inB, dif_pos, Array.getElem?_swap,
    Array.getElem?_eq_getElem]
  rcases Nat.decEq index a with notA | rfl
  · rcases Nat.decEq index b with notB | rfl
    · rw [if_neg notA, if_neg notB, if_neg (Ne.symm notB), if_neg (Ne.symm notA)]
    · rw [if_neg notA, if_pos rfl, if_pos rfl]
  · rw [if_pos rfl, if_pos rfl]
    split
    · next same => simp only [same]
    · rfl

/-- An exchange reports the two nodes at their new slots. -/
theorem moves_swap {heap : LeverageHeap} {a b : Nat} {first second : HeapNode}
    (atA : heap.nodes[a]? = some first) (atB : heap.nodes[b]? = some second) (different : a ≠ b)
    : (heap.swap a b).2 = [⟨second.account, a + 1⟩, ⟨first.account, b + 1⟩] := by
  have inA := (Array.getElem?_eq_some_iff.mp atA).1
  have inB := (Array.getElem?_eq_some_iff.mp atB).1
  have newA := getElem?_swap inA inB a
  have newB := getElem?_swap inA inB b
  rw [if_pos rfl, atB] at newA
  rw [if_neg different.symm, if_pos rfl, atA] at newB
  change (heap.swap a b).1.landing a ++ (heap.swap a b).1.landing b = _
  simp [landing, newA, newB]

@[simp] theorem size_nodes_write (heap : LeverageHeap) (index : Nat) (node : HeapNode)
    : (heap.write index node).nodes.size = heap.nodes.size := by
  simp [write]

/-- Overwriting an index that exists puts the node there and nowhere else. -/
theorem getElem?_write {heap : LeverageHeap} {slot : Nat} (inside : slot < heap.nodes.size)
    (node : HeapNode) (index : Nat)
    : (heap.write slot node).nodes[index]?
      = if index = slot then some node else heap.nodes[index]? := by
  simp only [write, nodes_save, Array.getElem?_setIfInBounds, inside, if_true]
  rcases Nat.decEq index slot with different | rfl
  · rw [if_neg different, if_neg (Ne.symm different)]
  · simp only [if_true]

@[simp] theorem size_nodes_dropAt (heap : LeverageHeap) (index : Nat)
    : (heap.dropAt index).nodes.size = heap.nodes.size - 1 := by
  simp [dropAt]

/-- Dropping an index leaves the last node in its place. -/
theorem getElem?_dropAt {heap : LeverageHeap} {slot : Nat} (inside : slot < heap.nodes.size)
    (index : Nat)
    : (heap.dropAt slot).nodes[index]?
      = if heap.nodes.size - 1 ≤ index then none
        else if index = slot then heap.nodes[heap.nodes.size - 1]?
        else heap.nodes[index]? := by
  have last : heap.nodes.size - 1 < heap.nodes.size := by omega
  simp only [dropAt, nodes_save, Array.getElem?_pop, Array.swapIfInBounds_def, inside, last,
    dif_pos, Array.getElem?_swap, Array.size_swap]
  rcases Nat.lt_or_ge index (heap.nodes.size - 1) with kept | gone
  · rw [if_pos kept, if_neg (Nat.not_le.mpr kept), if_neg (Nat.ne_of_gt kept)]
    rcases Nat.decEq index slot with different | rfl
    · rw [if_neg different, if_neg (Ne.symm different)]
    · rw [if_pos rfl, if_pos rfl, Array.getElem?_eq_getElem last]
  · rw [if_neg (Nat.not_lt.mpr gone), if_pos gone]

/-- A slot that holds a node is the node's index and one. -/
theorem get?_eq_some {heap : LeverageHeap} {slot : Nat} {node : HeapNode}
    : heap.get? slot = some node ↔ slot ≠ 0 ∧ heap.nodes[slot - 1]? = some node := by
  unfold get?
  split <;> simp_all

theorem keyAt_of_getElem? {heap : LeverageHeap} {index : Nat} {node : HeapNode}
    (found : heap.nodes[index]? = some node)
    : heap.keyAt index = node.key := by
  simp [keyAt, found]

theorem mem_toList_iff {heap : LeverageHeap} {node : HeapNode}
    : node ∈ heap.toList ↔ ∃ index : Nat, heap.nodes[index]? = some node := by
  rw [toList, List.mem_iff_getElem?]
  simp

-----
-- Restoring heap order is a chain of exchanges
-----

/-- A chain of exchanges inside a heap leads to another one and reports moves on the way. -/
inductive Swaps : LeverageHeap → List Move → LeverageHeap → Prop
  | refl (heap : LeverageHeap) : Swaps heap [] heap
  | step {heap last : LeverageHeap} {a b : Nat} {moves : List Move}
      (inA : a < heap.nodes.size) (inB : b < heap.nodes.size) (different : a ≠ b)
      (rest : Swaps (heap.swap a b).1 moves last)
    : Swaps heap ((heap.swap a b).2 ++ moves) last

/-- Two chains in a row are one chain, by induction on the first. -/
theorem Swaps.trans {heap middle last : LeverageHeap} {first second : List Move}
    (before : Swaps heap first middle) (after : Swaps middle second last)
    : Swaps heap (first ++ second) last := by
  induction before with
  | refl heap => exact after
  | step inA inB different _ ih =>
      rw [List.append_assoc]
      exact .step inA inB different (ih after)

/-- A chain keeps the number of nodes, by induction on it. -/
theorem Swaps.size_nodes {heap last : LeverageHeap} {moves : List Move}
    (chain : Swaps heap moves last)
    : last.nodes.size = heap.nodes.size := by
  induction chain with
  | refl heap => rfl
  | step _ _ _ _ ih => rw [ih, size_nodes_swap]

/-- Moving a node up is a chain of exchanges with parents, by induction on the fuel. -/
theorem siftUpWithin_swaps (fuel : Nat) {heap : LeverageHeap} {index : Nat}
    (inside : index < heap.nodes.size)
    : Swaps heap (heap.siftUpWithin index fuel).moves (heap.siftUpWithin index fuel).heap := by
  induction fuel generalizing heap index with
  | zero => exact .refl heap
  | succ fuel ih =>
      simp only [siftUpWithin]
      split
      · exact .refl heap
      · next moving =>
          have positive : index ≠ 0 := fun zero => moving (.inl zero)
          have parentInside : (index - 1) / 2 < heap.nodes.size := by omega
          exact .step inside parentInside (by omega) (ih (by simpa using parentInside))

theorem siftUp_swaps {heap : LeverageHeap} {index : Nat} (inside : index < heap.nodes.size)
    : Swaps heap (heap.siftUp index).moves (heap.siftUp index).heap :=
  siftUpWithin_swaps index inside

/-- The index of the largest key among a node and its children lies in the heap. -/
theorem largestAmong_lt {heap : LeverageHeap} {index : Nat} (inside : index < heap.nodes.size)
    : heap.largestAmong index < heap.nodes.size := by
  simp only [largestAmong]
  split_ifs <;> omega

/-- Moving a node down is a chain of exchanges with children, by induction on the fuel. -/
theorem siftDownWithin_swaps (fuel : Nat) {heap : LeverageHeap} {index : Nat}
    (inside : index < heap.nodes.size)
    : Swaps heap (heap.siftDownWithin index fuel).moves
        (heap.siftDownWithin index fuel).heap := by
  induction fuel generalizing heap index with
  | zero => exact .refl heap
  | succ fuel ih =>
      simp only [siftDownWithin]
      split
      · exact .refl heap
      · next moving =>
          have childInside := largestAmong_lt inside
          exact .step inside childInside (Ne.symm moving) (ih (by simpa using childInside))

theorem siftDown_swaps {heap : LeverageHeap} {index : Nat} (inside : index < heap.nodes.size)
    : Swaps heap (heap.siftDown index).moves (heap.siftDown index).heap :=
  siftDownWithin_swaps heap.nodes.size inside

/-- Restoring order around a node is a chain of exchanges, up or else down. -/
theorem settle_swaps {heap : LeverageHeap} {index : Nat} (inside : index < heap.nodes.size)
    : Swaps heap (heap.settle index).moves (heap.settle index).heap := by
  have up := siftUp_swaps inside
  simp only [settle]
  split
  · refine up.trans (siftDown_swaps ?_)
    rw [up.size_nodes]
    exact inside
  · exact up

end MarginLending.LeverageHeap
