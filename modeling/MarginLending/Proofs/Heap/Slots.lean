import MarginLending.Proofs.Heap.Nodes
import Mathlib.Data.List.Perm.Basic

/-!
Contents and slots of a heap. An operation changes the nodes by exactly what it says and permutes
the rest, and a table of slots that agrees with the heap agrees with it again once the reported
moves are replayed.
-/

namespace MarginLending

/-- The slot that an account keeps after moves are replayed; its last report counts. -/
def slotAfter (moves : List Move) (account : AccountId) (slot : Nat) : Nat :=
  moves.foldl (fun slot move => if move.account = account then move.slot else slot) slot

@[simp] theorem slotAfter_nil (account : AccountId) (slot : Nat)
    : slotAfter [] account slot = slot := rfl

@[simp] theorem slotAfter_cons (move : Move) (moves : List Move) (account : AccountId)
    (slot : Nat)
    : slotAfter (move :: moves) account slot
      = slotAfter moves account (if move.account = account then move.slot else slot) := rfl

theorem slotAfter_append (first second : List Move) (account : AccountId) (slot : Nat)
    : slotAfter (first ++ second) account slot
      = slotAfter second account (slotAfter first account slot) := by
  simp [slotAfter, List.foldl_append]

/-- An account that no move reports keeps its slot, by induction on the moves. -/
theorem slotAfter_of_unreported {moves : List Move} {account : AccountId}
    (unreported : ∀ move ∈ moves, move.account ≠ account) (slot : Nat)
    : slotAfter moves account slot = slot := by
  induction moves generalizing slot with
  | nil => rfl
  | cons move rest ih =>
      rw [slotAfter_cons, if_neg (unreported move List.mem_cons_self)]
      exact ih (fun later member => unreported later (List.mem_cons_of_mem _ member)) slot

namespace LeverageHeap

/-- The accounts that a heap ranks. -/
def accounts (heap : LeverageHeap) : List AccountId := heap.toList.map HeapNode.account

theorem length_accounts (heap : LeverageHeap) : heap.accounts.length = heap.size := by
  simp [accounts, toList, size]

/-- A table of slots agrees with a heap on every account that it ranks. -/
def Tracks (heap : LeverageHeap) (slotOf : AccountId → Nat) : Prop :=
  ∀ index node, heap.nodes[index]? = some node → slotOf node.account = index + 1

theorem mem_accounts_iff {heap : LeverageHeap} {account : AccountId}
    : account ∈ heap.accounts ↔ ∃ node ∈ heap.toList, node.account = account := by
  simp [accounts]

theorem mem_accounts_of_getElem? {heap : LeverageHeap} {index : Nat} {node : HeapNode}
    (found : heap.nodes[index]? = some node)
    : node.account ∈ heap.accounts :=
  mem_accounts_iff.mpr ⟨node, mem_toList_iff.mpr ⟨index, found⟩, rfl⟩

/-- A tracked account sits at one index only. -/
theorem Tracks.index_unique {heap : LeverageHeap} {slotOf : AccountId → Nat} {i j : Nat}
    {left right : HeapNode} (tracks : heap.Tracks slotOf) (atI : heap.nodes[i]? = some left)
    (atJ : heap.nodes[j]? = some right) (same : left.account = right.account)
    : i = j := by
  have slotI := tracks i left atI
  have slotJ := tracks j right atJ
  rw [same, slotJ] at slotI
  omega

/-- A tracked heap ranks no account twice. -/
theorem Tracks.nodup_accounts {heap : LeverageHeap} {slotOf : AccountId → Nat}
    (tracks : heap.Tracks slotOf)
    : heap.accounts.Nodup := by
  apply List.pairwise_iff_getElem.mpr
  intro i j inI inJ less same
  simp only [accounts, toList, List.length_map, Array.length_toList] at inI inJ
  simp only [accounts, toList, List.getElem_map, Array.getElem_toList] at same
  have index := tracks.index_unique (Array.getElem?_eq_getElem inI)
    (Array.getElem?_eq_getElem inJ) same
  omega

-----
-- Exchanges move nodes and report where they went
-----

theorem swap_perm {heap : LeverageHeap} {a b : Nat} (inA : a < heap.nodes.size)
    (inB : b < heap.nodes.size)
    : List.Perm (heap.swap a b).1.toList heap.toList := by
  simp only [toList, swap, nodes_save, Array.swapIfInBounds_def, inA, inB, dif_pos]
  exact Array.perm_iff_toList_perm.mp (Array.swap_perm inA inB)

/-- Replaying an exchange keeps a table in agreement: the two nodes carry different accounts, so
each gets its own report.
-/
theorem Tracks.swap {heap : LeverageHeap} {slotOf : AccountId → Nat} {a b : Nat}
    (tracks : heap.Tracks slotOf) (inA : a < heap.nodes.size) (inB : b < heap.nodes.size)
    (different : a ≠ b)
    : (heap.swap a b).1.Tracks fun account =>
        slotAfter (heap.swap a b).2 account (slotOf account) := by
  have atA := Array.getElem?_eq_getElem inA
  have atB := Array.getElem?_eq_getElem inB
  intro index node found
  rw [getElem?_swap inA inB] at found
  rw [moves_swap atA atB different]
  simp only [slotAfter_cons, slotAfter_nil]
  split at found
  · next isA =>
      have node_eq := Option.some.inj (atB.symm.trans found)
      subst isA node_eq
      have apart : heap.nodes[index].account ≠ heap.nodes[b].account :=
        fun same => different (tracks.index_unique atA atB same)
      rw [if_neg apart, if_pos rfl]
  · next notA =>
      split at found
      · next isB =>
          have node_eq := Option.some.inj (atA.symm.trans found)
          subst isB node_eq
          rw [if_pos rfl]
      · next notB =>
          have apartA : heap.nodes[a].account ≠ node.account :=
            fun same => notA (tracks.index_unique atA found same).symm
          have apartB : heap.nodes[b].account ≠ node.account :=
            fun same => notB (tracks.index_unique atB found same).symm
          rw [if_neg apartA, if_neg apartB]
          exact tracks index node found

theorem Swaps.perm {heap last : LeverageHeap} {moves : List Move} (chain : Swaps heap moves last)
    : List.Perm last.toList heap.toList := by
  induction chain with
  | refl heap => exact .refl _
  | step inA inB _ _ ih => exact ih.trans (swap_perm inA inB)

/-- A chain of exchanges keeps a table in agreement, by induction on the chain. -/
theorem Swaps.tracks {heap last : LeverageHeap} {moves : List Move}
    (chain : Swaps heap moves last) {slotOf : AccountId → Nat} (tracks : heap.Tracks slotOf)
    : last.Tracks fun account => slotAfter moves account (slotOf account) := by
  induction chain generalizing slotOf with
  | refl heap => exact tracks
  | step inA inB different _ ih =>
      simpa only [slotAfter_append] using ih (tracks.swap inA inB different)

/-- A chain of exchanges reports only accounts of the heap, by induction on the chain. -/
theorem Swaps.reported {heap last : LeverageHeap} {moves : List Move}
    (chain : Swaps heap moves last)
    : ∀ move ∈ moves, move.account ∈ heap.accounts := by
  induction chain with
  | refl heap => simp
  | @step heap last a b moves inA inB different rest ih =>
      intro move member
      rcases List.mem_append.mp member with member | member
      · rw [moves_swap (Array.getElem?_eq_getElem inA) (Array.getElem?_eq_getElem inB) different]
          at member
        rcases List.mem_pair.mp member with rfl | rfl
        · exact mem_accounts_of_getElem? (Array.getElem?_eq_getElem inB)
        · exact mem_accounts_of_getElem? (Array.getElem?_eq_getElem inA)
      · exact ((swap_perm inA inB).map HeapNode.account).mem_iff.mp (ih move member)

/-- Adding a node is pushing it behind the last one and a chain of exchanges. -/
theorem insert_swaps (heap : LeverageHeap) (node : HeapNode)
    : ∃ moves,
        Swaps { heap with nodes := heap.nodes.push node } moves (heap.insert node).heap
          ∧ (heap.insert node).moves = ⟨node.account, heap.nodes.size + 1⟩ :: moves :=
  ⟨_, siftUp_swaps (by simp), rfl⟩

theorem insert_perm (heap : LeverageHeap) (node : HeapNode)
    : List.Perm (heap.insert node).heap.toList (node :: heap.toList) := by
  obtain ⟨_, chain, _⟩ := insert_swaps heap node
  refine chain.perm.trans ?_
  simp only [toList, Array.toList_push]
  exact List.perm_append_singleton _ _

/-- Adding a node for a new account keeps a table in agreement. -/
theorem Tracks.insert {heap : LeverageHeap} {slotOf : AccountId → Nat} {node : HeapNode}
    (tracks : heap.Tracks slotOf) (isNew : node.account ∉ heap.accounts)
    : (heap.insert node).heap.Tracks fun account =>
        slotAfter (heap.insert node).moves account (slotOf account) := by
  obtain ⟨moves, chain, moves_eq⟩ := insert_swaps heap node
  rw [moves_eq]
  simp only [slotAfter_cons]
  refine chain.tracks fun index other found => ?_
  rcases Nat.lt_trichotomy index heap.nodes.size with inside | isLast | outside
  · have old : heap.nodes[index]? = some other := by
      simpa [Array.getElem?_push, Nat.ne_of_lt inside] using found
    have apart : node.account ≠ other.account :=
      fun same => isNew (same ▸ mem_accounts_of_getElem? old)
    rw [if_neg apart]
    exact tracks index other old
  · subst isLast
    have other_eq : node = other := by simpa using found
    rw [if_pos (congrArg HeapNode.account other_eq)]
  · have bound := (Array.getElem?_eq_some_iff.mp found).1
    simp only [Array.size_push] at bound
    omega

theorem insert_reported (heap : LeverageHeap) (node : HeapNode)
    : ∀ move ∈ (heap.insert node).moves,
        move.account = node.account ∨ move.account ∈ heap.accounts := by
  obtain ⟨moves, chain, moves_eq⟩ := insert_swaps heap node
  rw [moves_eq]
  intro move member
  rcases List.mem_cons.mp member with rfl | member
  · exact .inl rfl
  · have reported := chain.reported move member
    simp only [accounts, toList, Array.toList_push, List.map_append, List.mem_append] at reported
    exact reported.symm.imp (by simp) id

-----
-- Operations keep the reported slots in step with the nodes
-----

theorem dropAt_perm {heap : LeverageHeap} {index : Nat} {removed : HeapNode}
    (found : heap.nodes[index]? = some removed)
    : List.Perm heap.toList (removed :: (heap.dropAt index).toList) := by
  obtain ⟨inside, rfl⟩ := Array.getElem?_eq_some_iff.mp found
  have lastInside : heap.nodes.size - 1 < heap.nodes.size := by omega
  simp only [toList, dropAt, nodes_save, Array.swapIfInBounds_def, inside, lastInside, dif_pos,
    Array.toList_pop]
  have exchanged := Array.perm_iff_toList_perm.mp (Array.swap_perm inside lastInside)
  refine exchanged.symm.trans ?_
  have nonempty : (heap.nodes.swap index (heap.nodes.size - 1)).toList ≠ [] := by
    intro empty
    have size := congrArg List.length empty
    simp only [Array.length_toList, Array.size_swap, List.length_nil] at size
    omega
  have last : (heap.nodes.swap index (heap.nodes.size - 1)).toList.getLast nonempty
      = heap.nodes[index] := by
    simp [List.getLast_eq_getElem]
  have split := List.dropLast_append_getLast nonempty
  rw [last] at split
  exact (List.Perm.of_eq split.symm).trans (List.perm_append_singleton _ _)

/-- Removing the node of a slot drops it, and repairs the heap by a chain of exchanges where another
node took its place.
-/
theorem remove_swaps {heap : LeverageHeap} {slot : Nat} {removed : HeapNode}
    (found : heap.get? slot = some removed)
    : ∃ moves,
        Swaps (heap.dropAt (slot - 1)) moves (heap.remove slot).heap
          ∧ (heap.remove slot).moves
            = ⟨removed.account, 0⟩ :: ((heap.dropAt (slot - 1)).landing (slot - 1) ++ moves) := by
  simp only [remove, found]
  split
  · next inside => exact ⟨_, settle_swaps inside, rfl⟩
  · next outside =>
      refine ⟨[], .refl _, ?_⟩
      have absent : (heap.dropAt (slot - 1)).nodes[slot - 1]? = none :=
        Array.getElem?_eq_none (Nat.le_of_not_lt outside)
      simp [landing, absent]

theorem remove_perm {heap : LeverageHeap} {slot : Nat} {removed : HeapNode}
    (found : heap.get? slot = some removed)
    : List.Perm heap.toList (removed :: (heap.remove slot).heap.toList) := by
  obtain ⟨_, chain, _⟩ := remove_swaps found
  exact (dropAt_perm (get?_eq_some.mp found).2).trans (chain.perm.symm.cons removed)

/-- The removed account is not ranked any more. -/
theorem Tracks.remove_not_mem {heap : LeverageHeap} {slotOf : AccountId → Nat} {slot : Nat}
    {removed : HeapNode} (tracks : heap.Tracks slotOf) (found : heap.get? slot = some removed)
    : removed.account ∉ (heap.remove slot).heap.accounts := by
  have nodup := ((remove_perm found).map HeapNode.account).nodup_iff.mp tracks.nodup_accounts
  rw [List.map_cons, List.nodup_cons] at nodup
  exact nodup.1

/-- Dropping an index and reporting the node that took its place keeps a table in agreement. -/
theorem Tracks.dropAt {heap : LeverageHeap} {slotOf : AccountId → Nat} {index : Nat}
    {removed : HeapNode} (tracks : heap.Tracks slotOf) (found : heap.nodes[index]? = some removed)
    : (heap.dropAt index).Tracks fun account =>
        slotAfter ((heap.dropAt index).landing index) account (slotOf account) := by
  have inside := (Array.getElem?_eq_some_iff.mp found).1
  intro other node atOther
  have before := atOther
  rw [getElem?_dropAt inside] at before
  split at before
  · cases before
  · split at before
    · next same =>
        subst same
        simp [landing, atOther]
    · next different =>
        have kept := tracks other node before
        have unreported : ∀ move ∈ (heap.dropAt index).landing index,
            move.account ≠ node.account := by
          intro move member
          unfold landing at member
          split at member
          · next moved atIndex =>
              rw [List.mem_singleton] at member
              subst member
              rw [getElem?_dropAt inside] at atIndex
              simp only [if_true] at atIndex
              split at atIndex
              · cases atIndex
              · intro same
                have last := tracks.index_unique atIndex before same
                omega
          · cases member
        exact (slotAfter_of_unreported unreported _).trans kept

theorem remove_reported {heap : LeverageHeap} {slot : Nat} {removed : HeapNode}
    (found : heap.get? slot = some removed)
    : ∀ move ∈ (heap.remove slot).moves, move.account ∈ heap.accounts := by
  obtain ⟨moves, chain, moves_eq⟩ := remove_swaps found
  have contents := (dropAt_perm (get?_eq_some.mp found).2).map HeapNode.account
  have stays : ∀ account ∈ (heap.dropAt (slot - 1)).accounts, account ∈ heap.accounts :=
    fun account member => contents.mem_iff.mpr (List.mem_cons_of_mem _ member)
  rw [moves_eq]
  intro move member
  rcases List.mem_cons.mp member with rfl | member
  · exact mem_accounts_of_getElem? (get?_eq_some.mp found).2
  · rcases List.mem_append.mp member with member | member
    · refine stays _ ?_
      unfold landing at member
      split at member
      · next node atIndex =>
          obtain rfl := List.mem_singleton.mp member
          exact mem_accounts_of_getElem? atIndex
      · cases member
    · exact stays _ (chain.reported move member)

/-- The removed account ends up in slot zero: after its own report no other one names it. -/
theorem Tracks.slotAfter_remove {heap : LeverageHeap} {slotOf : AccountId → Nat} {slot : Nat}
    {removed : HeapNode} (tracks : heap.Tracks slotOf) (found : heap.get? slot = some removed)
    (before : Nat)
    : slotAfter (heap.remove slot).moves removed.account before = 0 := by
  obtain ⟨moves, chain, moves_eq⟩ := remove_swaps found
  have contents := (dropAt_perm (get?_eq_some.mp found).2).map HeapNode.account
  have nodup := contents.nodup_iff.mp tracks.nodup_accounts
  have gone : removed.account ∉ (heap.dropAt (slot - 1)).accounts := (List.nodup_cons.mp nodup).1
  rw [moves_eq, slotAfter_cons, if_pos rfl]
  refine slotAfter_of_unreported (fun move member same => gone ?_) 0
  rw [← same]
  rcases List.mem_append.mp member with member | member
  · unfold landing at member
    split at member
    · next node atIndex =>
        obtain rfl := List.mem_singleton.mp member
        exact mem_accounts_of_getElem? atIndex
    · cases member
  · exact chain.reported move member

/-- Removing a node keeps a table in agreement. -/
theorem Tracks.remove {heap : LeverageHeap} {slotOf : AccountId → Nat} {slot : Nat}
    {removed : HeapNode} (tracks : heap.Tracks slotOf) (found : heap.get? slot = some removed)
    : (heap.remove slot).heap.Tracks fun account =>
        slotAfter (heap.remove slot).moves account (slotOf account) := by
  obtain ⟨moves, chain, moves_eq⟩ := remove_swaps found
  have atSlot := (get?_eq_some.mp found).2
  have gone := tracks.remove_not_mem found
  have after := chain.tracks (tracks.dropAt atSlot)
  rw [moves_eq]
  intro index node atIndex
  have apart : removed.account ≠ node.account :=
    fun same => gone (same ▸ mem_accounts_of_getElem? atIndex)
  simp only [slotAfter_cons, if_neg apart, slotAfter_append]
  exact after index node atIndex

/-- Overwriting a node changes the contents by that node alone. -/
theorem write_perm {heap : LeverageHeap} {index : Nat} {old : HeapNode}
    (found : heap.nodes[index]? = some old) (node : HeapNode)
    : ∃ rest, List.Perm heap.toList (old :: rest)
        ∧ List.Perm (heap.write index node).toList (node :: rest) := by
  obtain ⟨inside, rfl⟩ := Array.getElem?_eq_some_iff.mp found
  refine ⟨heap.toList.eraseIdx index, ?_, ?_⟩
  · exact (List.getElem_cons_eraseIdx_perm (l := heap.toList) inside).symm
  · simp only [toList, write, nodes_save, Array.toList_setIfInBounds]
    exact List.set_perm_cons_eraseIdx inside node

/-- Giving a node another key overwrites it and repairs the heap by a chain of exchanges. -/
theorem updateKey_swaps {heap : LeverageHeap} {slot : Nat} {old : HeapNode}
    (found : heap.get? slot = some old) (key : Nat)
    : Swaps (heap.write (slot - 1) { old with key }) (heap.updateKey slot key).moves
        (heap.updateKey slot key).heap := by
  have inside := (Array.getElem?_eq_some_iff.mp (get?_eq_some.mp found).2).1
  simp only [updateKey, found]
  split
  · exact siftUp_swaps (by simpa using inside)
  · split
    · exact siftDown_swaps (by simpa using inside)
    · exact .refl _

theorem updateKey_perm {heap : LeverageHeap} {slot : Nat} {old : HeapNode}
    (found : heap.get? slot = some old) (key : Nat)
    : ∃ rest, List.Perm heap.toList (old :: rest)
        ∧ List.Perm (heap.updateKey slot key).heap.toList ({ old with key } :: rest) := by
  obtain ⟨rest, before, after⟩ := write_perm (get?_eq_some.mp found).2 { old with key }
  exact ⟨rest, before, (updateKey_swaps found key).perm.trans after⟩

/-- Giving a node another key keeps a table in agreement. -/
theorem Tracks.updateKey {heap : LeverageHeap} {slotOf : AccountId → Nat} {slot : Nat}
    {old : HeapNode} (tracks : heap.Tracks slotOf) (found : heap.get? slot = some old) (key : Nat)
    : (heap.updateKey slot key).heap.Tracks fun account =>
        slotAfter (heap.updateKey slot key).moves account (slotOf account) := by
  have atSlot := (get?_eq_some.mp found).2
  apply (updateKey_swaps found key).tracks
  intro index node atIndex
  rw [getElem?_write (Array.getElem?_eq_some_iff.mp atSlot).1] at atIndex
  split at atIndex
  · next same =>
      cases atIndex
      exact same ▸ tracks (slot - 1) old atSlot
  · exact tracks index node atIndex

theorem updateKey_reported {heap : LeverageHeap} {slot : Nat} {old : HeapNode}
    (found : heap.get? slot = some old) (key : Nat)
    : ∀ move ∈ (heap.updateKey slot key).moves, move.account ∈ heap.accounts := by
  obtain ⟨rest, before, after⟩ := write_perm (get?_eq_some.mp found).2 { old with key }
  intro move member
  have reported := (updateKey_swaps found key).reported move member
  exact (before.map HeapNode.account).mem_iff.mpr
    ((after.map HeapNode.account).mem_iff.mp reported)

/-- Handing a node over overwrites it where it is. -/
theorem setAccount_eq {heap : LeverageHeap} {slot : Nat} {node : HeapNode}
    (found : heap.get? slot = some node) (account : AccountId)
    : heap.setAccount slot account
      = ⟨true, heap.write (slot - 1) { node with account }, []⟩ := by
  simp only [setAccount, found]

end LeverageHeap

end MarginLending
