import MarginLending.Proofs.Heap.History
import MarginLending.Proofs.Heap.Rollback

/-!
The journal of a heap over any sequence of calls. However often the heap shrinks below its size at
the opening and grows past it again, rolling back puts every node back in its slot. Once the journal
is closed no call opens it, so nothing is left to roll back.
-/

namespace MarginLending

/-- Every call is one operation on the heap. -/
theorem HeapCall.rewrite_run (heap : LeverageHeap) (call : HeapCall)
    : heap.Rewrite (call.run heap).heap := by
  cases call with
  | insert node => exact .insert heap node
  | remove slot => exact .remove heap slot
  | pop => exact .remove heap 1
  | updateKey slot key => exact .updateKey heap slot key
  | setAccount slot account => exact .setAccount heap slot account

namespace LeverageHeap

/-- The heap after calls, one after the other. -/
def runAll (heap : LeverageHeap) (calls : List HeapCall) : LeverageHeap :=
  calls.foldl (fun heap call => (call.run heap).heap) heap

/-- Calls keep what rolling back restores, by induction on them. -/
theorem Restores.runAll {origin : Array HeapNode} {heap : LeverageHeap}
    (restores : Restores origin heap) (calls : List HeapCall)
    : Restores origin (heap.runAll calls) := by
  induction calls generalizing heap with
  | nil => exact restores
  | cons call rest ih => exact ih (restores.rewrite (call.rewrite_run heap))

-----
-- A closed journal stays closed
-----

/-- No journal is open. -/
def Closed (heap : LeverageHeap) : Prop := heap.journal = none

namespace Closed

variable {heap : LeverageHeap}

/-- Then nothing is journalled. -/
theorem save_eq (closed : heap.Closed) (index : Nat) : heap.save index = heap := by
  unfold LeverageHeap.save
  rw [show heap.journal = none from closed]

theorem write (closed : heap.Closed) (index : Nat) (node : HeapNode)
    : (heap.write index node).Closed := by
  rw [LeverageHeap.write, closed.save_eq]
  exact closed

theorem swap (closed : heap.Closed) (a b : Nat) : (heap.swap a b).1.Closed := by
  rw [LeverageHeap.swap, closed.save_eq, closed.save_eq]
  exact closed

theorem dropAt (closed : heap.Closed) (index : Nat) : (heap.dropAt index).Closed := by
  rw [LeverageHeap.dropAt, closed.save_eq, closed.save_eq]
  exact closed

/-- By induction on the chain. -/
theorem swaps {last : LeverageHeap} {moves : List Move} (closed : heap.Closed)
    (chain : Swaps heap moves last)
    : last.Closed := by
  induction chain with
  | refl heap => exact closed
  | step _ _ _ _ ih => exact ih (closed.swap _ _)

theorem rewrite {heap' : LeverageHeap} (closed : heap.Closed) (rewritten : heap.Rewrite heap')
    : heap'.Closed := by
  cases rewritten with
  | insert node =>
      obtain ⟨_, chain, _⟩ := insert_swaps heap node
      have pushed : Closed { heap with nodes := heap.nodes.push node } := closed
      exact pushed.swaps chain
  | remove slot =>
      cases found : heap.get? slot with
      | none => simpa only [LeverageHeap.remove, found] using closed
      | some removed =>
          obtain ⟨_, chain, _⟩ := remove_swaps found
          exact (closed.dropAt _).swaps chain
  | updateKey slot key =>
      cases found : heap.get? slot with
      | none => simpa only [LeverageHeap.updateKey, found] using closed
      | some old => exact (closed.write _ _).swaps (updateKey_swaps found key)
  | setAccount slot account =>
      unfold LeverageHeap.setAccount
      split
      · exact closed
      · exact closed.write _ _

/-- By induction on the calls. -/
theorem runAll (closed : heap.Closed) (calls : List HeapCall) : (heap.runAll calls).Closed := by
  induction calls generalizing heap with
  | nil => exact closed
  | cons call rest ih => exact ih (closed.rewrite (call.rewrite_run heap))

/-- And rolling back does nothing. -/
theorem rollback_eq (closed : heap.Closed) : heap.rollback = heap := by
  unfold LeverageHeap.rollback
  rw [show heap.journal = none from closed]

end Closed

/-- Whatever is called on a heap after its journal is opened, rolling back puts back its length and
the node of every slot, and closes the journal. Committing instead keeps what the calls did, and
from then on rolling back changes nothing, at once or after any further calls.
-/
theorem rollback_undoes_calls (heap : LeverageHeap) (calls further : List HeapCall)
    : let last := heap.openJournal.runAll calls
      last.rollback.size = heap.size
      ∧ (∀ slot, last.rollback.get? slot = heap.get? slot)
      ∧ last.rollback.nodes = heap.nodes
      ∧ last.rollback.Closed
      ∧ last.commit.nodes = last.nodes
      ∧ last.commit.rollback = last.commit
      ∧ (last.commit.runAll further).rollback = last.commit.runAll further := by
  intro last
  have restored : last.rollback = ⟨heap.nodes, none⟩ :=
    (heap.restores_openJournal.runAll calls).rollback_eq
  have closed : last.commit.Closed := rfl
  rw [restored]
  exact ⟨rfl, fun _ => rfl, rfl, rfl, rfl, closed.rollback_eq, (closed.runAll further).rollback_eq⟩

/-- Two of three nodes leave, three others take their slots and the one behind, and one is handed
over.
-/
example :
    let heap : LeverageHeap := ⟨#[⟨9, ⟨1⟩⟩, ⟨7, ⟨2⟩⟩, ⟨5, ⟨3⟩⟩], none⟩
    let last := heap.openJournal.runAll
      [.pop, .remove 1, .insert ⟨2, ⟨4⟩⟩, .insert ⟨8, ⟨5⟩⟩, .insert ⟨6, ⟨6⟩⟩, .setAccount 4 ⟨7⟩]
    last.size = 4 ∧ last.rollback = heap := by
  decide

end LeverageHeap

end MarginLending
