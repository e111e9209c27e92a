import MarginLending.Proofs.Heap.Order
import MarginLending.Proofs.Heap.Slots

/-!
A heap over its whole life. A roster is what a caller knows who never looks into the heap: which
nodes it put in and has not taken out, in no order, and the slot that each account was last reported
at. Along every sequence of calls that keeps the accounts apart, the roster and the heap describe
the same nodes.
-/

namespace MarginLending

/-- A call on a heap. Slots may be invalid. -/
inductive HeapCall where
  | insert (node : HeapNode)
  | remove (slot : Nat)
  | pop
  | updateKey (slot key : Nat)
  | setAccount (slot : Nat) (account : AccountId)

/-- What a call answers: the slot of a new node, the node taken out, or whether the slot holds a
node.
-/
inductive HeapAnswer where
  | slot (slot : Nat)
  | removed (node : Option HeapNode)
  | isNode (found : Bool)
  deriving DecidableEq

def HeapCall.run (heap : LeverageHeap) : HeapCall → HeapUpdate HeapAnswer
  | insert node =>
      let update := heap.insert node
      ⟨.slot update.result, update.heap, update.moves⟩
  | remove slot =>
      let update := heap.remove slot
      ⟨.removed update.result, update.heap, update.moves⟩
  | pop =>
      let update := heap.pop
      ⟨.removed update.result, update.heap, update.moves⟩
  | updateKey slot key =>
      let update := heap.updateKey slot key
      ⟨.isNode update.result, update.heap, update.moves⟩
  | setAccount slot account =>
      let update := heap.setAccount slot account
      ⟨.isNode update.result, update.heap, update.moves⟩

-----
-- The roster
-----

/-- A slot that was handed over is its taker's, and its giver has none. -/
def handOver (slotOf : AccountId → Nat) (giver taker account : AccountId) : Nat :=
  if account = taker then slotOf giver else if account = giver then 0 else slotOf account

@[simp] theorem handOver_taker (slotOf : AccountId → Nat) (giver taker : AccountId)
    : handOver slotOf giver taker taker = slotOf giver :=
  if_pos rfl

theorem handOver_of_ne {slotOf : AccountId → Nat} {giver taker account : AccountId}
    (notTaker : account ≠ taker) (notGiver : account ≠ giver)
    : handOver slotOf giver taker account = slotOf account := by
  rw [handOver, if_neg notTaker, if_neg notGiver]

/-- Whoever has no slot, or gives it away, has none once a slot is handed over to another. -/
theorem handOver_eq_zero {slotOf : AccountId → Nat} {giver taker account : AccountId}
    (notTaker : account ≠ taker) (none : account ≠ giver → slotOf account = 0)
    : handOver slotOf giver taker account = 0 := by
  rw [handOver, if_neg notTaker]
  split
  · rfl
  · next notGiver => exact none notGiver

/-- The nodes that were put into a heap and not taken out, in no order, and the last reported slots.
-/
structure Roster where
  nodes : List HeapNode
  slotOf : AccountId → Nat

namespace Roster

def empty : Roster := ⟨[], fun _ => 0⟩

def accounts (roster : Roster) : List AccountId := roster.nodes.map HeapNode.account

/-- The node whose account was last reported at the slot. -/
def at? (roster : Roster) (slot : Nat) : Option HeapNode :=
  roster.nodes.find? fun node => roster.slotOf node.account == slot

/-- The slots once moves are replayed. -/
def replay (roster : Roster) (moves : List Move) (account : AccountId) : Nat :=
  slotAfter moves account (roster.slotOf account)

@[simp] theorem replay_nil (roster : Roster) : roster.replay [] = roster.slotOf := rfl

/-- The nodes with one in another's place. -/
def replace (roster : Roster) (old node : HeapNode) : List HeapNode :=
  node :: roster.nodes.erase old

def removeAt (roster : Roster) (slot : Nat) : List HeapNode :=
  match roster.at? slot with
  | none => roster.nodes
  | some removed => roster.nodes.erase removed

/-- The roster after a call that reported moves. -/
def after (roster : Roster) (moves : List Move) : HeapCall → Roster
  | .insert node => ⟨node :: roster.nodes, roster.replay moves⟩
  | .remove slot => ⟨roster.removeAt slot, roster.replay moves⟩
  | .pop => ⟨roster.removeAt 1, roster.replay moves⟩
  | .updateKey slot key =>
      match roster.at? slot with
      | none => ⟨roster.nodes, roster.replay moves⟩
      | some old => ⟨roster.replace old { old with key }, roster.replay moves⟩
  | .setAccount slot account =>
      match roster.at? slot with
      | none => ⟨roster.nodes, roster.replay moves⟩
      | some old =>
          ⟨roster.replace old { old with account },
            handOver (roster.replay moves) old.account account⟩

/-- What a call has to answer. A new node's slot is where it was last reported. -/
def answer (roster : Roster) (moves : List Move) : HeapCall → HeapAnswer
  | .insert node => .slot (roster.replay moves node.account)
  | .remove slot => .removed (roster.at? slot)
  | .pop => .removed (roster.at? 1)
  | .updateKey slot _ => .isNode (roster.at? slot).isSome
  | .setAccount slot _ => .isNode (roster.at? slot).isSome

end Roster

namespace LeverageHeap

/-- Where accounts are apart, each sits at one index only. -/
theorem index_unique_of_nodup {heap : LeverageHeap} {i j : Nat} {left right : HeapNode}
    (distinct : heap.accounts.Nodup) (atI : heap.nodes[i]? = some left)
    (atJ : heap.nodes[j]? = some right) (same : left.account = right.account)
    : i = j := by
  have inI := (Array.getElem?_eq_some_iff.mp atI).1
  refine (List.getElem?_inj (by simpa [accounts, toList] using inI) distinct).mp ?_
  simp [accounts, toList, atI, atJ, same]

/-- A table that transfers the slot agrees with a heap whose node was handed over. -/
theorem Tracks.handOver {heap : LeverageHeap} {slotOf : AccountId → Nat} {index : Nat}
    {old : HeapNode} {account : AccountId} (tracks : heap.Tracks slotOf)
    (found : heap.nodes[index]? = some old)
    (distinct : (heap.write index { old with account }).accounts.Nodup)
    : (heap.write index { old with account }).Tracks (handOver slotOf old.account account) := by
  have inside := (Array.getElem?_eq_some_iff.mp found).1
  have atIndex : (heap.write index { old with account }).nodes[index]?
      = some { old with account } := by
    rw [getElem?_write inside, if_pos rfl]
  intro other node atOther
  by_cases same : other = index
  · subst same
    obtain rfl := Option.some.inj (atIndex.symm.trans atOther)
    rw [handOver_taker]
    exact tracks _ _ found
  · have notTaker : node.account ≠ account :=
      fun taken => same (index_unique_of_nodup distinct atOther atIndex taken)
    rw [getElem?_write inside, if_neg same] at atOther
    have notGiver : node.account ≠ old.account :=
      fun given => same (tracks.index_unique atOther found given)
    rw [handOver_of_ne notTaker notGiver]
    exact tracks _ _ atOther

end LeverageHeap

/-- A heap that was empty once, and its roster, after calls that never gave two nodes one account.
-/
inductive HeapHistory : LeverageHeap → Roster → Prop
  | empty : HeapHistory .empty .empty
  | step {heap : LeverageHeap} {roster : Roster} (history : HeapHistory heap roster)
      (call : HeapCall) (distinct : (roster.after (call.run heap).moves call).accounts.Nodup)
    : HeapHistory (call.run heap).heap (roster.after (call.run heap).moves call)

-----
-- What every call keeps
-----

/-- A roster describes a heap: it has the same nodes, each account's slot, and no slot for any
other.
-/
structure Mirrors (roster : Roster) (heap : LeverageHeap) : Prop where
  nodes : List.Perm roster.nodes heap.toList
  tracks : heap.Tracks roster.slotOf
  gone : ∀ account, account ∉ heap.accounts → roster.slotOf account = 0

namespace Mirrors

variable {roster : Roster} {heap : LeverageHeap}

theorem accounts (mirrors : Mirrors roster heap) : List.Perm roster.accounts heap.accounts :=
  mirrors.nodes.map HeapNode.account

/-- The roster finds what the heap has in a slot. -/
theorem at?_eq (mirrors : Mirrors roster heap) (slot : Nat) : roster.at? slot = heap.get? slot := by
  cases found : heap.get? slot with
  | none =>
      refine List.find?_eq_none.mpr fun node member same => ?_
      obtain ⟨index, atIndex⟩ := LeverageHeap.mem_toList_iff.mp (mirrors.nodes.mem_iff.mp member)
      have isSlot : slot = index + 1 := (beq_iff_eq.mp same).symm.trans (mirrors.tracks _ _ atIndex)
      have present : heap.get? slot = some node :=
        LeverageHeap.get?_eq_some.mpr ⟨by omega, by rwa [isSlot, Nat.add_sub_cancel]⟩
      rw [found] at present
      cases present
  | some node =>
      obtain ⟨positive, atSlot⟩ := LeverageHeap.get?_eq_some.mp found
      have member := mirrors.nodes.mem_iff.mpr (LeverageHeap.mem_toList_iff.mpr ⟨_, atSlot⟩)
      have isSlot : roster.slotOf node.account = slot := by
        rw [mirrors.tracks _ _ atSlot]
        omega
      cases first : roster.at? slot with
      | none => exact absurd (beq_iff_eq.mpr isSlot) (List.find?_eq_none.mp first node member)
      | some other =>
          obtain ⟨index, atIndex⟩ := LeverageHeap.mem_toList_iff.mp
            (mirrors.nodes.mem_iff.mp (List.mem_of_find?_eq_some first))
          have same : roster.slotOf other.account = slot := by
            simpa using List.find?_some first
          have isIndex : index = slot - 1 := by
            rw [mirrors.tracks _ _ atIndex] at same
            omega
          rw [isIndex, atSlot] at atIndex
          exact atIndex.symm

/-- An account outside the heap that no move reports has no slot. -/
theorem replay_of_unreported (mirrors : Mirrors roster heap) {moves : List Move}
    {account : AccountId}
    (outside : account ∉ heap.accounts) (unreported : ∀ move ∈ moves, move.account ≠ account)
    : roster.replay moves account = 0 := by
  rw [Roster.replay, slotAfter_of_unreported unreported, mirrors.gone account outside]

theorem insert (mirrors : Mirrors roster heap) {node : HeapNode}
    (distinct : (node.account :: roster.accounts).Nodup)
    : Mirrors ⟨node :: roster.nodes, roster.replay (heap.insert node).moves⟩
      (heap.insert node).heap := by
  have isNew : node.account ∉ heap.accounts :=
    fun member => (List.nodup_cons.mp distinct).1 (mirrors.accounts.mem_iff.mpr member)
  have contents := heap.insert_perm node
  refine ⟨(mirrors.nodes.cons node).trans contents.symm, mirrors.tracks.insert isNew, ?_⟩
  intro account outside
  have apart : account ∉ node.account :: heap.accounts :=
    fun member => outside ((contents.map HeapNode.account).mem_iff.mpr member)
  rw [List.mem_cons, not_or] at apart
  refine mirrors.replay_of_unreported apart.2 ?_
  rintro move member rfl
  exact (heap.insert_reported node move member).elim apart.1 apart.2

theorem remove (mirrors : Mirrors roster heap) (slot : Nat)
    : Mirrors ⟨roster.removeAt slot, roster.replay (heap.remove slot).moves⟩
      (heap.remove slot).heap := by
  unfold Roster.removeAt
  rw [mirrors.at?_eq]
  cases found : heap.get? slot with
  | none => simpa only [LeverageHeap.remove, found, Roster.replay_nil] using mirrors
  | some removed =>
      have contents := LeverageHeap.remove_perm found
      have rest := (mirrors.nodes.trans contents).erase removed
      rw [List.erase_cons_head] at rest
      refine ⟨rest, mirrors.tracks.remove found, ?_⟩
      intro account outside
      by_cases taken : account = removed.account
      · rw [taken]
        exact mirrors.tracks.slotAfter_remove found _
      · have apart : account ∉ heap.accounts := by
          intro member
          rcases List.mem_cons.mp ((contents.map HeapNode.account).mem_iff.mp member) with
              same | kept
          · exact taken same
          · exact outside kept
        refine mirrors.replay_of_unreported apart ?_
        rintro move member rfl
        exact apart (LeverageHeap.remove_reported found move member)

theorem updateKey (mirrors : Mirrors roster heap) {slot : Nat} {old : HeapNode}
    (found : heap.get? slot = some old) (key : Nat)
    : Mirrors ⟨roster.replace old { old with key }, roster.replay (heap.updateKey slot key).moves⟩
        (heap.updateKey slot key).heap := by
  obtain ⟨rest, before, contents⟩ := LeverageHeap.updateKey_perm found key
  have others := (mirrors.nodes.trans before).erase old
  rw [List.erase_cons_head] at others
  refine ⟨(others.cons _).trans contents.symm, mirrors.tracks.updateKey found key, ?_⟩
  intro account outside
  have apart : account ∉ heap.accounts := fun member => outside
    ((contents.map HeapNode.account).mem_iff.mpr ((before.map HeapNode.account).mem_iff.mp member))
  refine mirrors.replay_of_unreported apart ?_
  rintro move member rfl
  exact apart (LeverageHeap.updateKey_reported found key move member)

theorem setAccount (mirrors : Mirrors roster heap) {slot : Nat} {old : HeapNode}
    {account : AccountId} (found : heap.get? slot = some old)
    (distinct : ((roster.replace old { old with account }).map HeapNode.account).Nodup)
    : Mirrors ⟨roster.replace old { old with account },
        handOver (roster.replay (heap.setAccount slot account).moves) old.account account⟩
        (heap.setAccount slot account).heap := by
  rw [LeverageHeap.setAccount_eq found]
  have atSlot := (LeverageHeap.get?_eq_some.mp found).2
  obtain ⟨rest, before, contents⟩ := LeverageHeap.write_perm atSlot { old with account }
  have others := (mirrors.nodes.trans before).erase old
  rw [List.erase_cons_head] at others
  have replaced := (others.cons { old with account }).trans contents.symm
  have distinct := (replaced.map HeapNode.account).nodup_iff.mp distinct
  refine ⟨replaced, mirrors.tracks.handOver atSlot distinct, ?_⟩
  intro other outside
  have apart : other ∉ account :: rest.map HeapNode.account :=
    fun member => outside ((contents.map HeapNode.account).mem_iff.mpr member)
  rw [List.mem_cons, not_or] at apart
  refine handOver_eq_zero apart.1 fun notGiver => mirrors.gone other fun member => ?_
  rcases List.mem_cons.mp ((before.map HeapNode.account).mem_iff.mp member) with same | kept
  · exact notGiver same
  · exact apart.2 kept

/-- Every call keeps a roster that replays its moves in step with the heap, as long as it keeps the
accounts apart.
-/
theorem step (mirrors : Mirrors roster heap) {call : HeapCall}
    (distinct : (roster.after (call.run heap).moves call).accounts.Nodup)
    : Mirrors (roster.after (call.run heap).moves call) (call.run heap).heap := by
  cases call with
  | insert node => exact mirrors.insert distinct
  | remove slot => exact mirrors.remove slot
  | pop => exact mirrors.remove 1
  | updateKey slot key =>
      simp only [Roster.after, mirrors.at?_eq]
      cases found : heap.get? slot with
      | none =>
          simpa only [HeapCall.run, LeverageHeap.updateKey, found, Roster.replay_nil] using mirrors
      | some old => exact mirrors.updateKey found key
  | setAccount slot account =>
      simp only [Roster.after, mirrors.at?_eq] at distinct ⊢
      cases found : heap.get? slot with
      | none =>
          simpa only [HeapCall.run, LeverageHeap.setAccount, found, Roster.replay_nil] using mirrors
      | some old =>
          rw [found] at distinct
          exact mirrors.setAccount found distinct

end Mirrors

/-- Every call restores the order. -/
theorem LeverageHeap.Ordered.run {heap : LeverageHeap} (ordered : heap.Ordered) (call : HeapCall)
    : (call.run heap).heap.Ordered := by
  cases call with
  | insert node => exact ordered.insert node
  | remove slot => exact ordered.remove slot
  | pop => exact ordered.remove 1
  | updateKey slot key => exact ordered.updateKey slot key
  | setAccount slot account => exact ordered.setAccount slot account

-----
-- What a call answers
-----

namespace LeverageHeap

/-- A rising node is where the answer says, by induction on the fuel. -/
theorem getElem?_siftUpWithin (fuel : Nat) {heap : LeverageHeap} {index : Nat}
    (inside : index < heap.nodes.size)
    : (heap.siftUpWithin index fuel).heap.nodes[(heap.siftUpWithin index fuel).result]?
      = heap.nodes[index]? := by
  induction fuel generalizing heap index with
  | zero => rfl
  | succ fuel ih =>
      simp only [siftUpWithin]
      split
      · rfl
      · have parentInside : (index - 1) / 2 < heap.nodes.size := by omega
        rw [ih (by simpa using parentInside), getElem?_swap inside parentInside]
        split
        · next same => rw [same]
        · rw [if_pos rfl]

/-- A new node is in the slot that adding it answers. -/
theorem get?_insert (heap : LeverageHeap) (node : HeapNode)
    : (heap.insert node).heap.get? (heap.insert node).result = some node := by
  refine get?_eq_some.mpr ⟨Nat.succ_ne_zero _, ?_⟩
  show (LeverageHeap.siftUp { heap with nodes := heap.nodes.push node } _).heap.nodes[_]? = _
  rw [siftUp]
  exact (getElem?_siftUpWithin _ (by simp)).trans (by simp)

theorem result_remove (heap : LeverageHeap) (slot : Nat)
    : (heap.remove slot).result = heap.get? slot := by
  unfold remove
  split
  · next absent => exact absent.symm
  · next found =>
      rw [found]
      simp only
      split <;> rfl

end LeverageHeap

/-- A call answers what the roster says. -/
theorem Mirrors.answer {roster : Roster} {heap : LeverageHeap} (mirrors : Mirrors roster heap)
    {call : HeapCall} (distinct : (roster.after (call.run heap).moves call).accounts.Nodup)
    : (call.run heap).result = roster.answer (call.run heap).moves call := by
  cases call with
  | insert node =>
      have atSlot := LeverageHeap.get?_eq_some.mp (heap.get?_insert node)
      have isSlot : roster.replay (heap.insert node).moves node.account
          = (heap.insert node).result :=
        ((mirrors.step distinct).tracks _ _ atSlot.2).trans (Nat.succ_pred atSlot.1)
      exact congrArg HeapAnswer.slot isSlot.symm
  | remove slot =>
      exact congrArg HeapAnswer.removed ((heap.result_remove slot).trans (mirrors.at?_eq slot).symm)
  | pop =>
      exact congrArg HeapAnswer.removed ((heap.result_remove 1).trans (mirrors.at?_eq 1).symm)
  | updateKey slot key =>
      simp only [HeapCall.run, Roster.answer, mirrors.at?_eq]
      cases found : heap.get? slot with
      | none => simp only [LeverageHeap.updateKey, found, Option.isSome_none]
      | some old =>
          simp only [LeverageHeap.updateKey, found, Option.isSome_some]
          split_ifs <;> rfl
  | setAccount slot account =>
      simp only [HeapCall.run, Roster.answer, mirrors.at?_eq]
      cases found : heap.get? slot with
      | none => simp only [LeverageHeap.setAccount, found, Option.isSome_none]
      | some old => simp only [LeverageHeap.setAccount, found, Option.isSome_some]

-----
-- Histories
-----

theorem ordered_empty : LeverageHeap.empty.Ordered :=
  fun _ _ _ inside => absurd inside (Nat.not_lt_zero _)

theorem mirrors_empty : Mirrors .empty .empty where
  nodes := .nil
  tracks := fun _ _ found => by simp [LeverageHeap.empty] at found
  gone := fun _ _ => rfl

namespace HeapHistory

variable {heap : LeverageHeap} {roster : Roster}

/-- By induction on the calls. -/
theorem ordered (history : HeapHistory heap roster) : heap.Ordered := by
  induction history with
  | empty => exact ordered_empty
  | step _ call _ ih => exact ih.run call

/-- By induction on the calls. -/
theorem mirrors (history : HeapHistory heap roster) : Mirrors roster heap := by
  induction history with
  | empty => exact mirrors_empty
  | step _ call distinct ih => exact ih.step distinct

/-- Over any sequence of calls with any keys and slots that never gives two nodes one account, a
heap is in order, so that its root has the largest key; it has exactly the nodes that were put in
and not taken out, under their latest keys and accounts; a call answers what the roster says, which
for a removal is the node that was in the slot; and the slots that were reported last are those of
the accounts that have a node, and zero for every other.
-/
theorem agrees (history : HeapHistory heap roster)
    : heap.Ordered
      ∧ (∀ node ∈ roster.nodes, ∃ root, heap.peek? = some root ∧ node.key ≤ root.key)
      ∧ List.Perm heap.toList roster.nodes
      ∧ (∀ slot, (heap.remove slot).result = heap.get? slot ∧ heap.get? slot = roster.at? slot)
      ∧ (∀ call : HeapCall, (roster.after (call.run heap).moves call).accounts.Nodup
        → (call.run heap).result = roster.answer (call.run heap).moves call)
      ∧ (∀ node ∈ roster.nodes, heap.get? (roster.slotOf node.account) = some node)
      ∧ ∀ account, account ∉ roster.accounts → roster.slotOf account = 0 := by
  have mirrors := history.mirrors
  have found : ∀ node ∈ roster.nodes, ∃ index, heap.nodes[index]? = some node := fun node member =>
    LeverageHeap.mem_toList_iff.mp (mirrors.nodes.mem_iff.mp member)
  refine ⟨history.ordered, ?_, mirrors.nodes.symm,
    fun slot => ⟨heap.result_remove slot, (mirrors.at?_eq slot).symm⟩,
    fun call distinct => mirrors.answer distinct, ?_, ?_⟩
  · intro node member
    obtain ⟨index, atIndex⟩ := found node member
    have nonempty : 0 < heap.nodes.size :=
      Nat.zero_lt_of_lt (Array.getElem?_eq_some_iff.mp atIndex).1
    have atRoot : heap.peek? = some heap.nodes[0] := Array.getElem?_eq_getElem nonempty
    exact ⟨_, atRoot, history.ordered.key_le_peek (mirrors.nodes.mem_iff.mp member) atRoot⟩
  · intro node member
    obtain ⟨index, atIndex⟩ := found node member
    rw [mirrors.tracks _ _ atIndex]
    exact LeverageHeap.get?_eq_some.mpr ⟨Nat.succ_ne_zero _, atIndex⟩
  · exact fun account outside =>
      mirrors.gone account fun member => outside (mirrors.accounts.mem_iff.mpr member)

/-- Four accounts of which two have equal keys; one leaves from the middle, the root falls behind
the others and is handed over in the last slot, an invalid slot is named, and the new root leaves.
-/
theorem agrees_sample
    : ∃ heap roster, HeapHistory heap roster
      ∧ heap.toList = [⟨30, ⟨1⟩⟩, ⟨5, ⟨7⟩⟩]
      ∧ heap.Ordered
      ∧ List.Perm heap.toList roster.nodes
      ∧ (heap.remove 2).result = some ⟨5, ⟨7⟩⟩
      ∧ heap.get? (roster.slotOf ⟨7⟩) = some ⟨5, ⟨7⟩⟩
      ∧ roster.slotOf ⟨2⟩ = 0 := by
  have history :=
    HeapHistory.empty
      |>.step (.insert ⟨30, ⟨1⟩⟩) (by decide)
      |>.step (.insert ⟨50, ⟨2⟩⟩) (by decide)
      |>.step (.insert ⟨40, ⟨3⟩⟩) (by decide)
      |>.step (.insert ⟨50, ⟨4⟩⟩) (by decide)
      |>.step (.remove 2) (by decide)
      |>.step (.updateKey 1 5) (by decide)
      |>.step (.setAccount 3 ⟨7⟩) (by decide)
      |>.step (.updateKey 9 1) (by decide)
      |>.step .pop (by decide)
  obtain ⟨ordered, _, contents, removal, _, slots, gone⟩ := history.agrees
  refine ⟨_, _, history, by decide, ordered, contents, ?_, slots ⟨5, ⟨7⟩⟩ (by decide),
    gone ⟨2⟩ (by decide)⟩
  exact (removal 2).1.trans (by decide)

end HeapHistory

end MarginLending
