import MarginLending.Proofs.Heap.Slots

/-!
The journal of a heap. While it is open, the nodes at its opening can be read off the journal and
the heap together, whatever has been overwritten, dropped or added since.
-/

namespace MarginLending.LeverageHeap

/-- A heap with an open journal from which rolling back brings the original nodes back. -/
def Restores (origin : Array HeapNode) (heap : LeverageHeap) : Prop :=
  ∃ journal, heap.journal = some journal ∧ journal.size = origin.size
    ∧ ∀ index, index < origin.size →
        (journal.saved.lookup index).or heap.nodes[index]? = origin[index]?

/-- The journal holds the first value of an index, or the index did not exist at its opening. -/
def Saved (heap : LeverageHeap) (index : Nat) : Prop :=
  ∀ journal, heap.journal = some journal → index < journal.size →
    (journal.saved.lookup index).isSome

/-- Reading a list index by index gives its beginning, by induction on the number of indices. -/
private theorem filterMap_range {α : Type} (values : List α) (count : Nat)
    : (List.range count).filterMap (fun index => values[index]?) = values.take count := by
  induction count with
  | zero => rfl
  | succ count ih =>
      rw [List.range_succ, List.filterMap_append, ih, List.take_add_one]
      cases last : values[count]? <;> simp [last]

/-- A journal that was just opened restores the nodes as they are. -/
theorem restores_openJournal (heap : LeverageHeap) : Restores heap.nodes heap.openJournal :=
  ⟨_, rfl, rfl, fun _ _ => rfl⟩

/-- Rolling back brings the original nodes back and closes the journal. -/
theorem Restores.rollback_eq {origin : Array HeapNode} {heap : LeverageHeap}
    (restores : Restores origin heap)
    : heap.rollback = ⟨origin, none⟩ := by
  obtain ⟨journal, opened, size, entries⟩ := restores
  have values : ∀ index ∈ List.range journal.size,
      (journal.saved.lookup index).or heap.nodes[index]? = origin.toList[index]? := by
    intro index member
    rw [Array.getElem?_toList]
    exact entries index (size ▸ List.mem_range.mp member)
  have restored := List.filterMap_congr values
  rw [filterMap_range, size, ← Array.length_toList, List.take_length, Array.length_toList,
    ← size] at restored
  simp only [rollback, opened, restored, Array.toArray_toList]

/-- Journalling an index keeps what rolling back restores. -/
theorem Restores.save {origin : Array HeapNode} {heap : LeverageHeap}
    (restores : Restores origin heap) (slot : Nat)
    : Restores origin (heap.save slot) := by
  obtain ⟨journal, opened, size, entries⟩ := restores
  unfold LeverageHeap.save
  rw [opened]
  cases atSlot : heap.nodes[slot]? with
  | none => exact ⟨journal, opened, size, entries⟩
  | some node =>
      simp only
      split
      · next fresh =>
          refine ⟨_, rfl, size, ?_⟩
          intro index inside
          have before := entries index inside
          rw [List.lookup_cons]
          split
          · next same =>
              obtain rfl := beq_iff_eq.mp same
              rw [fresh.2, Option.none_or, atSlot] at before
              exact before
          · exact before
      · exact ⟨journal, opened, size, entries⟩

/-- After an index was journalled its first value is in the journal: either it was just put there,
or it was there before, or the index is one that has been dropped and was journalled then.
-/
theorem Restores.saved_save {origin : Array HeapNode} {heap : LeverageHeap}
    (restores : Restores origin heap) (slot : Nat)
    : (heap.save slot).Saved slot := by
  obtain ⟨journal, opened, size, entries⟩ := restores
  unfold LeverageHeap.save
  rw [opened]
  cases atSlot : heap.nodes[slot]? with
  | none =>
      intro current same inside
      obtain rfl := Option.some.inj (opened.symm.trans same)
      have before := entries slot (size ▸ inside)
      rw [atSlot, Option.or_none] at before
      rw [before, Array.getElem?_eq_getElem (size ▸ inside)]
      rfl
  | some node =>
      simp only
      split
      · intro current same _
        obtain rfl := Option.some.inj same
        simp
      · next known =>
          intro current same inside
          obtain rfl := Option.some.inj (opened.symm.trans same)
          rw [Option.isSome_iff_ne_none]
          exact fun absent => known ⟨inside, absent⟩

/-- Journalling another index forgets nothing. -/
theorem Saved.save {heap : LeverageHeap} {index : Nat} (saved : heap.Saved index) (slot : Nat)
    : (heap.save slot).Saved index := by
  unfold LeverageHeap.save
  split
  · next journal node opened _ =>
      split
      · intro current same inside
        obtain rfl := Option.some.inj same
        have before := saved journal opened inside
        simp only [List.lookup_cons]
        split
        · rfl
        · exact before
      · exact saved
  · exact saved

/-- Nodes at journalled indices may change freely. -/
theorem Restores.with_nodes {origin : Array HeapNode} {heap : LeverageHeap}
    (restores : Restores origin heap) (nodes : Array HeapNode)
    (kept : ∀ index, index < heap.nodes.size → ¬heap.Saved index →
      nodes[index]? = heap.nodes[index]?)
    : Restores origin { heap with nodes } := by
  obtain ⟨journal, opened, size, entries⟩ := restores
  refine ⟨journal, opened, size, ?_⟩
  intro index inside
  have before := entries index inside
  cases known : journal.saved.lookup index with
  | some node =>
      rw [known] at before
      exact before
  | none =>
      rw [known, Option.none_or] at before
      have unsaved : ¬heap.Saved index := by
        intro saved
        have isSome := saved journal opened (size ▸ inside)
        rw [known] at isSome
        cases isSome
      have present : index < heap.nodes.size := by
        rw [Array.getElem?_eq_getElem inside] at before
        exact (Array.getElem?_eq_some_iff.mp before).1
      rw [Option.none_or, ← before]
      exact kept index present unsaved

-----
-- Whatever an operation overwrites can be put back
-----

theorem Restores.write {origin : Array HeapNode} {heap : LeverageHeap}
    (restores : Restores origin heap) (slot : Nat) (node : HeapNode)
    : Restores origin (heap.write slot node) := by
  refine (restores.save slot).with_nodes _ ?_
  intro index _ unsaved
  rw [Array.getElem?_setIfInBounds]
  split
  · next same => exact absurd (same ▸ restores.saved_save slot) unsaved
  · rfl

theorem Restores.swap {origin : Array HeapNode} {heap : LeverageHeap}
    (restores : Restores origin heap) (a b : Nat)
    : Restores origin (heap.swap a b).1 := by
  have savedA := (restores.saved_save a).save b
  have savedB := (restores.save a).saved_save b
  refine ((restores.save a).save b).with_nodes _ ?_
  intro index inside unsaved
  have notA : index ≠ a := fun same => unsaved (same ▸ savedA)
  have notB : index ≠ b := fun same => unsaved (same ▸ savedB)
  unfold Array.swapIfInBounds
  split
  · split
    · rw [Array.getElem?_swap, if_neg (Ne.symm notB), if_neg (Ne.symm notA)]
    · rfl
  · rfl

theorem Restores.dropAt {origin : Array HeapNode} {heap : LeverageHeap}
    (restores : Restores origin heap) (slot : Nat)
    : Restores origin (heap.dropAt slot) := by
  have savedSlot := (restores.saved_save slot).save (heap.nodes.size - 1)
  have savedLast := (restores.save slot).saved_save (heap.nodes.size - 1)
  refine ((restores.save slot).save (heap.nodes.size - 1)).with_nodes _ ?_
  intro index inside unsaved
  have notSlot : index ≠ slot := fun same => unsaved (same ▸ savedSlot)
  have notLast : index ≠ heap.nodes.size - 1 := fun same => unsaved (same ▸ savedLast)
  simp only [nodes_save] at inside
  simp only [nodes_save]
  rw [Array.getElem?_pop, if_pos (by rw [Array.size_swapIfInBounds]; omega)]
  unfold Array.swapIfInBounds
  split
  · split
    · rw [Array.getElem?_swap, if_neg (Ne.symm notLast), if_neg (Ne.symm notSlot)]
    · rfl
  · rfl

theorem Restores.push {origin : Array HeapNode} {heap : LeverageHeap}
    (restores : Restores origin heap) (node : HeapNode)
    : Restores origin { heap with nodes := heap.nodes.push node } := by
  apply restores.with_nodes _
  intro index inside _
  rw [Array.getElem?_push, if_neg (Nat.ne_of_lt inside)]

/-- A chain of exchanges keeps what rolling back restores, by induction on the chain. -/
theorem Restores.swaps {origin : Array HeapNode} {heap last : LeverageHeap} {moves : List Move}
    (restores : Restores origin heap) (chain : Swaps heap moves last)
    : Restores origin last := by
  induction chain with
  | refl heap => exact restores
  | step _ _ _ _ ih => exact ih (restores.swap _ _)

theorem Restores.insert {origin : Array HeapNode} {heap : LeverageHeap}
    (restores : Restores origin heap) (node : HeapNode)
    : Restores origin (heap.insert node).heap := by
  obtain ⟨_, chain, _⟩ := insert_swaps heap node
  exact (restores.push node).swaps chain

theorem Restores.remove {origin : Array HeapNode} {heap : LeverageHeap}
    (restores : Restores origin heap) (slot : Nat)
    : Restores origin (heap.remove slot).heap := by
  cases found : heap.get? slot with
  | none => simpa only [LeverageHeap.remove, found] using restores
  | some removed =>
      obtain ⟨_, chain, _⟩ := remove_swaps found
      exact (restores.dropAt _).swaps chain

theorem Restores.updateKey {origin : Array HeapNode} {heap : LeverageHeap}
    (restores : Restores origin heap) (slot key : Nat)
    : Restores origin (heap.updateKey slot key).heap := by
  cases found : heap.get? slot with
  | none => simpa only [LeverageHeap.updateKey, found] using restores
  | some old => exact (restores.write _ _).swaps (updateKey_swaps found key)

theorem Restores.setAccount {origin : Array HeapNode} {heap : LeverageHeap}
    (restores : Restores origin heap) (slot : Nat) (account : AccountId)
    : Restores origin (heap.setAccount slot account).heap := by
  unfold LeverageHeap.setAccount
  split
  · exact restores
  · exact restores.write _ _

/-- One operation on a heap. -/
inductive Rewrite : LeverageHeap → LeverageHeap → Prop
  | insert (heap : LeverageHeap) (node : HeapNode) : heap.Rewrite (heap.insert node).heap
  | remove (heap : LeverageHeap) (slot : Nat) : heap.Rewrite (heap.remove slot).heap
  | updateKey (heap : LeverageHeap) (slot key : Nat) : heap.Rewrite (heap.updateKey slot key).heap
  | setAccount (heap : LeverageHeap) (slot : Nat) (account : AccountId)
    : heap.Rewrite (heap.setAccount slot account).heap

/-- Every operation keeps what rolling back restores. -/
theorem Restores.rewrite {origin : Array HeapNode} {heap heap' : LeverageHeap}
    (restores : Restores origin heap) (rewritten : heap.Rewrite heap')
    : Restores origin heap' := by
  cases rewritten with
  | insert node => exact restores.insert node
  | remove slot => exact restores.remove slot
  | updateKey slot key => exact restores.updateKey slot key
  | setAccount slot account => exact restores.setAccount slot account

end MarginLending.LeverageHeap
