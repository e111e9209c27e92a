import MarginLending.Proofs.Heap.Nodes

/-!
Heap order. Every operation leaves no node above its parent. Around the node that an operation
changed the order may fail: a rising node may be too large for its place, a sinking one too small.
One exchange moves the gap one level on, and the move that is not made closes it.
-/

namespace MarginLending.LeverageHeap

/-- An index is a child of another. Index zero is nobody's child. -/
def IsChild (child parent : Nat) : Prop := 0 < child ∧ (child - 1) / 2 = parent

/-- No node ranks above its parent. -/
def Ordered (heap : LeverageHeap) : Prop :=
  ∀ child parent, IsChild child parent → child < heap.nodes.size →
    heap.keyAt child ≤ heap.keyAt parent

/-- The children of an index do not rank above its own parent. -/
def Bridged (heap : LeverageHeap) (index : Nat) : Prop :=
  ∀ child parent, IsChild child index → IsChild index parent → child < heap.nodes.size →
    heap.keyAt child ≤ heap.keyAt parent

/-- The order holds wherever an index is not involved. -/
structure OrderedAround (heap : LeverageHeap) (index : Nat) : Prop where
  others : ∀ child parent, IsChild child parent → child < heap.nodes.size → child ≠ index →
    parent ≠ index → heap.keyAt child ≤ heap.keyAt parent
  bridged : heap.Bridged index

/-- The order holds but for the node at an index, which may rank above its parent. -/
structure Rising (heap : LeverageHeap) (index : Nat) : Prop where
  others : ∀ child parent, IsChild child parent → child < heap.nodes.size → child ≠ index →
    heap.keyAt child ≤ heap.keyAt parent
  bridged : heap.Bridged index

/-- The order holds but for the node at an index, which may rank below its children. -/
structure Sinking (heap : LeverageHeap) (index : Nat) : Prop where
  others : ∀ child parent, IsChild child parent → child < heap.nodes.size → parent ≠ index →
    heap.keyAt child ≤ heap.keyAt parent
  bridged : heap.Bridged index

theorem IsChild.lt {child parent : Nat} (isChild : IsChild child parent) : parent < child := by
  unfold IsChild at isChild
  omega

theorem IsChild.parent_unique {child left right : Nat} (isLeft : IsChild child left)
    (isRight : IsChild child right)
    : left = right :=
  isLeft.2.symm.trans isRight.2

/-- A child is the left or the right one. -/
theorem IsChild.left_or_right {child parent : Nat} (isChild : IsChild child parent)
    : child = 2 * parent + 1 ∨ child = 2 * parent + 2 := by
  unfold IsChild at isChild
  omega

/-- The root of an ordered heap has the largest key, by induction on the index. -/
theorem Ordered.keyAt_le_root {heap : LeverageHeap} (ordered : heap.Ordered) (index : Nat)
    (inside : index < heap.nodes.size)
    : heap.keyAt index ≤ heap.keyAt 0 := by
  induction index using Nat.strongRecOn with
  | ind index ih =>
      rcases Nat.eq_zero_or_pos index with rfl | positive
      · exact Nat.le_refl _
      · have isChild : IsChild index ((index - 1) / 2) := ⟨positive, rfl⟩
        exact Nat.le_trans (ordered _ _ isChild inside)
          (ih _ isChild.lt (Nat.lt_trans isChild.lt inside))

/-- The root ranks no lower than any node. -/
theorem Ordered.key_le_peek {heap : LeverageHeap} (ordered : heap.Ordered)
    {node root : HeapNode} (member : node ∈ heap.toList) (atRoot : heap.peek? = some root)
    : node.key ≤ root.key := by
  obtain ⟨index, found⟩ := mem_toList_iff.mp member
  have bound := ordered.keyAt_le_root index (Array.getElem?_eq_some_iff.mp found).1
  rwa [keyAt_of_getElem? found, keyAt_of_getElem? atRoot] at bound

/-- Heaps with the same keys are ordered alike. -/
theorem Ordered.of_keyAt_eq {heap other : LeverageHeap} (ordered : heap.Ordered)
    (sizes : other.nodes.size = heap.nodes.size)
    (keys : ∀ index, index < heap.nodes.size → other.keyAt index = heap.keyAt index)
    : other.Ordered := by
  intro child parent isChild inside
  rw [sizes] at inside
  rw [keys child inside, keys parent (Nat.lt_trans isChild.lt inside)]
  exact ordered child parent isChild inside

-----
-- An exchange moves the one place that is out of order
-----

/-- An exchange exchanges the two keys. -/
theorem keyAt_swap {heap : LeverageHeap} {a b : Nat} (inA : a < heap.nodes.size)
    (inB : b < heap.nodes.size) (index : Nat)
    : (heap.swap a b).1.keyAt index
      = if index = a then heap.keyAt b else if index = b then heap.keyAt a
        else heap.keyAt index := by
  unfold keyAt
  rw [getElem?_swap inA inB]
  split_ifs <;> rfl

/-- A rising node that ranks above its parent changes places with it and rises on. -/
theorem Rising.move {heap : LeverageHeap} {index parent : Nat} (rising : heap.Rising index)
    (isChild : IsChild index parent) (inside : index < heap.nodes.size)
    (above : heap.keyAt parent < heap.keyAt index)
    : (heap.swap index parent).1.Rising parent := by
  have parentInside : parent < heap.nodes.size := Nat.lt_trans isChild.lt inside
  have descends := isChild.lt
  constructor
  · intro child up isBelow childInside notParent
    rw [size_nodes_swap] at childInside
    have upBelow := isBelow.lt
    simp only [keyAt_swap inside parentInside, if_neg notParent]
    rcases Nat.decEq child index with notIndex | rfl
    · rw [if_neg notIndex]
      have before := rising.others child up isBelow childInside notIndex
      rcases Nat.decEq up index with otherUp | rfl
      · rw [if_neg otherUp]
        split
        · next upIsParent =>
            subst upIsParent
            omega
        · exact before
      · rw [if_pos rfl]
        exact rising.bridged child parent isBelow isChild childInside
    · obtain rfl := isBelow.parent_unique isChild
      simp only [if_true, if_neg (Nat.ne_of_lt descends)]
      omega
  · intro child up isBelow isAbove childInside
    rw [size_nodes_swap] at childInside
    have upBelow := isAbove.lt
    have onward := rising.others parent up isAbove parentInside (Nat.ne_of_lt descends)
    simp only [keyAt_swap inside parentInside, if_neg (Nat.ne_of_gt isBelow.lt),
      if_neg (Nat.ne_of_lt (Nat.lt_trans upBelow descends)), if_neg (Nat.ne_of_lt upBelow)]
    split
    · exact onward
    · next notIndex =>
        exact Nat.le_trans (rising.others child parent isBelow childInside notIndex) onward

/-- A rising node that does not rank above its parent is in its place. -/
theorem Rising.finish {heap : LeverageHeap} {index : Nat} (rising : heap.Rising index)
    (settled : ∀ parent, IsChild index parent → heap.keyAt index ≤ heap.keyAt parent)
    : heap.Ordered := by
  intro child parent isChild inside
  rcases Nat.decEq child index with notIndex | rfl
  · exact rising.others child parent isChild inside notIndex
  · exact settled parent isChild

/-- A sinking node below its largest child changes places with it and sinks on. -/
theorem Sinking.move {heap : LeverageHeap} {index largest : Nat} (sinking : heap.Sinking index)
    (isChild : IsChild largest index) (inside : largest < heap.nodes.size)
    (below : heap.keyAt index < heap.keyAt largest)
    (isLargest : ∀ child, IsChild child index → child < heap.nodes.size →
      heap.keyAt child ≤ heap.keyAt largest)
    : (heap.swap index largest).1.Sinking largest := by
  have descends := isChild.lt
  have indexInside : index < heap.nodes.size := Nat.lt_trans descends inside
  constructor
  · intro child up isBelow childInside notLargest
    rw [size_nodes_swap] at childInside
    have upBelow := isBelow.lt
    simp only [keyAt_swap indexInside inside, if_neg notLargest]
    rcases Nat.decEq up index with otherUp | rfl
    · rw [if_neg otherUp]
      rcases Nat.decEq child index with notIndex | rfl
      · have notLargestChild : child ≠ largest := by
          rintro rfl
          exact otherUp (isBelow.parent_unique isChild)
        rw [if_neg notIndex, if_neg notLargestChild]
        exact sinking.others child up isBelow childInside otherUp
      · rw [if_pos rfl]
        exact sinking.bridged largest up isChild isBelow inside
    · rw [if_pos rfl, if_neg (Nat.ne_of_gt upBelow)]
      split
      · exact Nat.le_of_lt below
      · exact isLargest child isBelow childInside
  · intro child up isBelow isAbove childInside
    rw [size_nodes_swap] at childInside
    obtain rfl := isAbove.parent_unique isChild
    have deeper := isBelow.lt
    simp only [keyAt_swap indexInside inside, if_neg (Nat.ne_of_gt (Nat.lt_trans descends deeper)),
      if_neg (Nat.ne_of_gt deeper), if_true]
    exact sinking.others child largest isBelow childInside (Nat.ne_of_gt descends)

/-- A sinking node that no child ranks above is in its place. -/
theorem Sinking.finish {heap : LeverageHeap} {index : Nat} (sinking : heap.Sinking index)
    (settled : ∀ child, IsChild child index → child < heap.nodes.size →
      heap.keyAt child ≤ heap.keyAt index)
    : heap.Ordered := by
  intro child parent isChild inside
  rcases Nat.decEq parent index with notIndex | rfl
  · exact sinking.others child parent isChild inside notIndex
  · exact settled child isChild inside

/-- A node that ranks above its parent has its children in order below it. -/
theorem OrderedAround.rising {heap : LeverageHeap} {index parent : Nat}
    (around : heap.OrderedAround index) (isChild : IsChild index parent)
    (above : heap.keyAt parent ≤ heap.keyAt index)
    : heap.Rising index := by
  refine ⟨?_, around.bridged⟩
  intro child up isBelow inside notIndex
  rcases Nat.decEq up index with otherUp | rfl
  · exact around.others child up isBelow inside notIndex otherUp
  · exact Nat.le_trans (around.bridged child parent isBelow isChild inside) above

/-- A node that does not rank above its parent can only be too small. -/
theorem OrderedAround.sinking {heap : LeverageHeap} {index : Nat}
    (around : heap.OrderedAround index)
    (settled : ∀ parent, IsChild index parent → heap.keyAt index ≤ heap.keyAt parent)
    : heap.Sinking index := by
  refine ⟨?_, around.bridged⟩
  intro child up isBelow inside otherUp
  rcases Nat.decEq child index with notIndex | rfl
  · exact around.others child up isBelow inside notIndex otherUp
  · exact settled up isBelow

-----
-- Sifting leaves nothing out of order
-----

/-- The index of the largest key ranks no lower than the node and its children. -/
theorem keyAt_le_largestAmong (heap : LeverageHeap) (index : Nat)
    : heap.keyAt index ≤ heap.keyAt (heap.largestAmong index)
      ∧ ∀ child, IsChild child index → child < heap.nodes.size →
          heap.keyAt child ≤ heap.keyAt (heap.largestAmong index) := by
  have below : ∀ child, IsChild child index → child < heap.nodes.size →
      child = 2 * index + 1 ∨ child = 2 * index + 1 + 1 :=
    fun child isChild _ => isChild.left_or_right
  simp only [largestAmong]
  split_ifs with left right right
  · refine ⟨by omega, ?_⟩
    intro child isChild inside
    rcases below child isChild inside with rfl | rfl <;> omega
  · refine ⟨by omega, ?_⟩
    intro child isChild inside
    rcases below child isChild inside with rfl | rfl <;> omega
  · refine ⟨by omega, ?_⟩
    intro child isChild inside
    rcases below child isChild inside with rfl | rfl <;> omega
  · refine ⟨by omega, ?_⟩
    intro child isChild inside
    rcases below child isChild inside with rfl | rfl <;> omega

/-- If it is not the node itself, it is a child that ranks above it. -/
theorem largestAmong_of_ne {heap : LeverageHeap} {index : Nat}
    (moving : heap.largestAmong index ≠ index)
    : IsChild (heap.largestAmong index) index
      ∧ heap.keyAt index < heap.keyAt (heap.largestAmong index) := by
  unfold IsChild
  revert moving
  simp only [largestAmong]
  split_ifs <;> intro moving <;> omega

/-- Moving a rising node up restores the order, by induction on the fuel. -/
theorem siftUpWithin_ordered (fuel : Nat) {heap : LeverageHeap} {index : Nat}
    (rising : heap.Rising index) (inside : index < heap.nodes.size) (enough : index ≤ fuel)
    : (heap.siftUpWithin index fuel).heap.Ordered := by
  induction fuel generalizing heap index with
  | zero =>
      apply rising.finish
      intro parent isChild
      have := isChild.lt
      omega
  | succ fuel ih =>
      simp only [siftUpWithin]
      split
      · next settled =>
          apply rising.finish
          intro parent isChild
          rcases settled with rfl | settled
          · exact absurd isChild.lt (Nat.not_lt_zero _)
          · exact isChild.2 ▸ settled
      · next moving =>
          rw [not_or, Nat.not_le] at moving
          have isChild : IsChild index ((index - 1) / 2) := ⟨Nat.pos_of_ne_zero moving.1, rfl⟩
          have descends := isChild.lt
          refine ih (rising.move isChild inside moving.2) ?_ (by omega)
          rw [size_nodes_swap]
          omega

/-- Moving a sinking node down restores the order, by induction on the fuel. Each step at least
doubles the index, so the number of nodes is enough fuel.
-/
theorem siftDownWithin_ordered (fuel : Nat) {heap : LeverageHeap} {index : Nat}
    (sinking : heap.Sinking index) (inside : index < heap.nodes.size)
    (enough : heap.nodes.size ≤ index + fuel)
    : (heap.siftDownWithin index fuel).heap.Ordered := by
  induction fuel generalizing heap index with
  | zero => omega
  | succ fuel ih =>
      obtain ⟨_, isLargest⟩ := keyAt_le_largestAmong heap index
      simp only [siftDownWithin]
      split
      · next settled =>
          rw [settled] at isLargest
          exact sinking.finish isLargest
      · next moving =>
          obtain ⟨isChild, below⟩ := largestAmong_of_ne moving
          have childInside := largestAmong_lt inside
          have descends := isChild.lt
          refine ih (sinking.move isChild childInside below isLargest) ?_ ?_
          · rwa [size_nodes_swap]
          · rw [size_nodes_swap]
            omega

theorem siftUp_ordered {heap : LeverageHeap} {index : Nat} (rising : heap.Rising index)
    (inside : index < heap.nodes.size)
    : (heap.siftUp index).heap.Ordered :=
  siftUpWithin_ordered index rising inside (Nat.le_refl _)

theorem siftDown_ordered {heap : LeverageHeap} {index : Nat} (sinking : heap.Sinking index)
    (inside : index < heap.nodes.size)
    : (heap.siftDown index).heap.Ordered :=
  siftDownWithin_ordered heap.nodes.size sinking inside (by omega)

/-- The index where a rising node settles is no higher than where it was, by induction on the fuel.
-/
theorem siftUpWithin_result_le (fuel : Nat) (heap : LeverageHeap) (index : Nat)
    : (heap.siftUpWithin index fuel).result ≤ index := by
  induction fuel generalizing heap index with
  | zero => exact Nat.le_refl _
  | succ fuel ih =>
      simp only [siftUpWithin]
      split
      · exact Nat.le_refl _
      · refine Nat.le_trans (ih _ _) ?_
        omega

/-- A node stays where it is exactly when it does not rank above its parent, and then nothing is
changed.
-/
theorem siftUp_stays {heap : LeverageHeap} {index : Nat}
    (stays : (heap.siftUp index).result = index)
    : heap.siftUp index = ⟨index, heap, []⟩
      ∧ ∀ parent, IsChild index parent → heap.keyAt index ≤ heap.keyAt parent := by
  revert stays
  unfold siftUp
  cases index with
  | zero => exact fun _ => ⟨rfl, fun parent isChild => absurd isChild.lt (Nat.not_lt_zero _)⟩
  | succ below =>
      simp only [siftUpWithin]
      split
      · next settled =>
          refine fun _ => ⟨rfl, ?_⟩
          intro parent isChild
          rcases settled with impossible | settled
          · exact absurd impossible (Nat.succ_ne_zero _)
          · exact isChild.2 ▸ settled
      · intro stays
        have bound := siftUpWithin_result_le below
          (heap.swap (below + 1) ((below + 1 - 1) / 2)).1 ((below + 1 - 1) / 2)
        have : (below + 1 - 1) / 2 ≤ below := Nat.div_le_self _ _
        simp only at stays
        omega

theorem siftUp_rises {heap : LeverageHeap} {index : Nat}
    (rises : (heap.siftUp index).result ≠ index)
    : ∃ parent, IsChild index parent ∧ heap.keyAt parent ≤ heap.keyAt index := by
  revert rises
  unfold siftUp
  cases index with
  | zero => exact fun moved => absurd rfl moved
  | succ below =>
      simp only [siftUpWithin]
      split
      · exact fun moved => absurd rfl moved
      · next moving =>
          intro _
          rw [not_or, Nat.not_le] at moving
          exact ⟨_, ⟨Nat.succ_pos _, rfl⟩, Nat.le_of_lt moving.2⟩

/-- Restoring order around a node works whether it is too large or too small for its place. -/
theorem settle_ordered {heap : LeverageHeap} {index : Nat} (around : heap.OrderedAround index)
    (inside : index < heap.nodes.size)
    : (heap.settle index).heap.Ordered := by
  simp only [settle]
  split
  · next stays =>
      obtain ⟨unchanged, settled⟩ := siftUp_stays stays
      rw [unchanged]
      exact siftDown_ordered (around.sinking settled) inside
  · next rises =>
      obtain ⟨parent, isChild, above⟩ := siftUp_rises rises
      exact siftUp_ordered (around.rising isChild above) inside

-----
-- Every operation ends in heap order
-----

/-- Adding a node keeps the order: it starts last, where only its own parent can be out of order.
-/
theorem Ordered.insert {heap : LeverageHeap} (ordered : heap.Ordered) (node : HeapNode)
    : (heap.insert node).heap.Ordered := by
  have keys : ∀ index, index < heap.nodes.size →
      LeverageHeap.keyAt { heap with nodes := heap.nodes.push node } index
        = heap.keyAt index := by
    intro index inside
    simp [keyAt, Array.getElem?_push, Nat.ne_of_lt inside]
  refine siftUp_ordered ⟨?_, ?_⟩ (by simp)
  · intro child parent isChild inside notLast
    have descends := isChild.lt
    simp only [Array.size_push] at inside
    rw [keys child (by omega), keys parent (by omega)]
    exact ordered child parent isChild (by omega)
  · intro child _ isChild _ inside
    have descends := isChild.lt
    simp only [Array.size_push] at inside
    omega

theorem keyAt_dropAt {heap : LeverageHeap} {slot index : Nat} (inside : slot < heap.nodes.size)
    (kept : index < heap.nodes.size - 1) (different : index ≠ slot)
    : (heap.dropAt slot).keyAt index = heap.keyAt index := by
  unfold keyAt
  rw [getElem?_dropAt inside, if_neg (by omega), if_neg different]

/-- Dropping an index keeps the order wherever that index is not involved. -/
theorem Ordered.dropAt {heap : LeverageHeap} {slot : Nat} (ordered : heap.Ordered)
    (inside : slot < heap.nodes.size)
    : (heap.dropAt slot).OrderedAround slot := by
  constructor
  · intro child parent isChild childInside notSlot parentNotSlot
    rw [size_nodes_dropAt] at childInside
    have descends := isChild.lt
    rw [keyAt_dropAt inside childInside notSlot,
      keyAt_dropAt inside (by omega) parentNotSlot]
    exact ordered child parent isChild (by omega)
  · intro child parent isBelow isAbove childInside
    rw [size_nodes_dropAt] at childInside
    have deeper := isBelow.lt
    have descends := isAbove.lt
    rw [keyAt_dropAt inside childInside (by omega), keyAt_dropAt inside (by omega) (by omega)]
    exact Nat.le_trans (ordered child slot isBelow (by omega)) (ordered slot parent isAbove inside)

theorem Ordered.remove {heap : LeverageHeap} (ordered : heap.Ordered) (slot : Nat)
    : (heap.remove slot).heap.Ordered := by
  cases found : heap.get? slot with
  | none => simpa only [LeverageHeap.remove, found] using ordered
  | some removed =>
      have inside := (Array.getElem?_eq_some_iff.mp (get?_eq_some.mp found).2).1
      have around := ordered.dropAt inside
      simp only [LeverageHeap.remove, found]
      split
      · next stillInside => exact settle_ordered around stillInside
      · next wasLast =>
          -- The dropped index was the last one, so it takes part in no pair any more.
          intro child parent isChild childInside
          have descends := isChild.lt
          simp only at childInside
          exact around.others child parent isChild childInside (by omega) (by omega)

theorem keyAt_write {heap : LeverageHeap} {slot : Nat} (inside : slot < heap.nodes.size)
    (node : HeapNode) (index : Nat)
    : (heap.write slot node).keyAt index
      = if index = slot then node.key else heap.keyAt index := by
  unfold keyAt
  rw [getElem?_write inside]
  split_ifs <;> rfl

/-- A larger key in place leaves a rising node. -/
theorem Ordered.write_rising {heap : LeverageHeap} {slot : Nat} {node : HeapNode}
    (ordered : heap.Ordered) (inside : slot < heap.nodes.size)
    (larger : heap.keyAt slot ≤ node.key)
    : (heap.write slot node).Rising slot := by
  constructor
  · intro child parent isChild childInside notSlot
    rw [size_nodes_write] at childInside
    have before := ordered child parent isChild childInside
    rw [keyAt_write inside, keyAt_write inside, if_neg notSlot]
    split
    · next isSlot =>
        subst isSlot
        exact Nat.le_trans before larger
    · exact before
  · intro child parent isBelow isAbove childInside
    rw [size_nodes_write] at childInside
    have deeper := isBelow.lt
    have descends := isAbove.lt
    rw [keyAt_write inside, keyAt_write inside, if_neg (by omega), if_neg (by omega)]
    exact Nat.le_trans (ordered child slot isBelow childInside)
      (ordered slot parent isAbove inside)

/-- A smaller key in place leaves a sinking node. -/
theorem Ordered.write_sinking {heap : LeverageHeap} {slot : Nat} {node : HeapNode}
    (ordered : heap.Ordered) (inside : slot < heap.nodes.size)
    (smaller : node.key ≤ heap.keyAt slot)
    : (heap.write slot node).Sinking slot := by
  constructor
  · intro child parent isChild childInside notSlot
    rw [size_nodes_write] at childInside
    have before := ordered child parent isChild childInside
    rw [keyAt_write inside, keyAt_write inside, if_neg notSlot]
    split
    · next isSlot =>
        subst isSlot
        exact Nat.le_trans smaller before
    · exact before
  · intro child parent isBelow isAbove childInside
    rw [size_nodes_write] at childInside
    have deeper := isBelow.lt
    have descends := isAbove.lt
    rw [keyAt_write inside, keyAt_write inside, if_neg (by omega), if_neg (by omega)]
    exact Nat.le_trans (ordered child slot isBelow childInside)
      (ordered slot parent isAbove inside)

/-- An equal key in place changes no rank. -/
theorem Ordered.write_same {heap : LeverageHeap} {slot : Nat} {node : HeapNode}
    (ordered : heap.Ordered) (inside : slot < heap.nodes.size)
    (same : node.key = heap.keyAt slot)
    : (heap.write slot node).Ordered := by
  refine ordered.of_keyAt_eq (size_nodes_write ..) ?_
  intro index _
  rw [keyAt_write inside]
  split
  · next isSlot => rw [same, isSlot]
  · rfl

theorem Ordered.updateKey {heap : LeverageHeap} (ordered : heap.Ordered) (slot key : Nat)
    : (heap.updateKey slot key).heap.Ordered := by
  cases found : heap.get? slot with
  | none => simpa only [LeverageHeap.updateKey, found] using ordered
  | some old =>
      have atSlot := (get?_eq_some.mp found).2
      have inside := (Array.getElem?_eq_some_iff.mp atSlot).1
      have oldKey := keyAt_of_getElem? atSlot
      simp only [LeverageHeap.updateKey, found]
      split
      · next larger =>
          refine siftUp_ordered (ordered.write_rising inside ?_) (by simpa using inside)
          rw [oldKey]
          exact Nat.le_of_lt larger
      · next notLarger =>
          split
          · next smaller =>
              refine siftDown_ordered (ordered.write_sinking inside ?_) (by simpa using inside)
              rw [oldKey]
              exact Nat.le_of_lt smaller
          · refine ordered.write_same inside ?_
            simp only
            omega

theorem Ordered.setAccount {heap : LeverageHeap} (ordered : heap.Ordered) (slot : Nat)
    (account : AccountId)
    : (heap.setAccount slot account).heap.Ordered := by
  cases found : heap.get? slot with
  | none => simpa only [LeverageHeap.setAccount, found] using ordered
  | some node =>
      have atSlot := (get?_eq_some.mp found).2
      simp only [LeverageHeap.setAccount, found]
      exact ordered.write_same (Array.getElem?_eq_some_iff.mp atSlot).1
        (keyAt_of_getElem? atSlot).symm

end MarginLending.LeverageHeap
