import MarginLending.Book.Ranking
import MarginLending.Pool.Takeover
import MarginLending.Proofs.Book.Fields
import MarginLending.Proofs.Heap.Order

/-!
Heaps and positions agree. A leveraged position sits in the heap of the asset it owes, at the rank
of its holdings, and knows its slot; nobody sits twice. While an operation changes an account's
holdings, that account alone may be ranked wrongly, until it is seated anew.
-/

namespace MarginLending

namespace Book

/-- Heaps and positions agree, except that the rank of one account may be stale. -/
structure Seated (book : Book) (stale : Option AccountId) : Prop where
  ordered : ∀ asset, (book.heap asset).Ordered
  tracked : ∀ asset, (book.heap asset).Tracks book.heapIndexOf
  apart
    : ∀ asset account, account ∈ (book.heap asset).accounts
        → account ∉ (book.heap asset.other).accounts
  ranked
    : ∀ asset node, node ∈ (book.heap asset).toList → stale ≠ some node.account
        → ∃ position, book.position? node.account = some position
            ∧ position.kind.debtAsset? = some asset ∧ position.sortKey = node.key
  covered
    : ∀ account position asset, book.position? account = some position → stale ≠ some account
        → position.kind.debtAsset? = some asset → account ∈ (book.heap asset).accounts
  unseated
    : ∀ account, (∀ asset, account ∉ (book.heap asset).accounts) → book.heapIndexOf account = 0

theorem heapIndexOf_of_position? {book : Book} {account : AccountId} {position : Position}
    (found : book.position? account = some position)
    : book.heapIndexOf account = position.heapIndex := by
  simp [heapIndexOf, found]

/-- A book in which every rank is right may be changed at any account. -/
theorem Seated.loosen {book : Book} (seated : book.Seated none) (account : AccountId)
    : book.Seated (some account) where
  ordered := seated.ordered
  tracked := seated.tracked
  apart := seated.apart
  ranked asset node member _ := seated.ranked asset node member nofun
  covered other position asset found _ := seated.covered other position asset found nofun
  unseated := seated.unseated

/-- Whether heaps and positions agree depends on nodes and positions only. -/
theorem Seated.of_same {book book' : Book} {stale : Option AccountId} (seated : book.Seated stale)
    (nodes : ∀ asset, (book'.heap asset).nodes = (book.heap asset).nodes)
    (positions : book'.positions = book.positions)
    : book'.Seated stale := by
  have lookups : book'.position? = book.position? := by
    funext account
    simp only [position?, positions]
  have slots : book'.heapIndexOf = book.heapIndexOf := by
    funext account
    simp only [heapIndexOf, lookups]
  have contents : ∀ asset, (book'.heap asset).toList = (book.heap asset).toList := by
    intro asset
    simp only [LeverageHeap.toList, nodes]
  have accounts : ∀ asset, (book'.heap asset).accounts = (book.heap asset).accounts := by
    intro asset
    simp only [LeverageHeap.accounts, contents]
  refine ⟨?_, ?_, ?_, ?_, ?_, ?_⟩
  · intro asset
    refine (seated.ordered asset).of_keyAt_eq (congrArg Array.size (nodes asset)) ?_
    intro index _
    simp only [LeverageHeap.keyAt, nodes]
  · intro asset
    simpa only [LeverageHeap.Tracks, nodes, slots] using seated.tracked asset
  · simpa only [accounts] using seated.apart
  · simpa only [contents, lookups] using seated.ranked
  · simpa only [accounts, lookups] using seated.covered
  · simpa only [accounts, slots] using seated.unseated

section Finding

variable {book : Book} {stale : Option AccountId} {account : AccountId} {asset : Asset}

/-- An account in a heap has a position. -/
theorem Seated.position?_isSome (seated : book.Seated stale)
    (member : account ∈ (book.heap asset).accounts)
    : (book.position? account).isSome := by
  obtain ⟨node, inHeap, rfl⟩ := LeverageHeap.mem_accounts_iff.mp member
  obtain ⟨index, found⟩ := LeverageHeap.mem_toList_iff.mp inHeap
  have slot := seated.tracked asset index node found
  cases position : book.position? node.account with
  | none => simp [heapIndexOf, position] at slot
  | some _ => rfl

/-- An account in a heap sits at the slot that its position knows. -/
theorem Seated.get?_heapIndexOf (seated : book.Seated stale)
    (member : account ∈ (book.heap asset).accounts)
    : ∃ node, (book.heap asset).get? (book.heapIndexOf account) = some node
        ∧ node.account = account := by
  obtain ⟨node, inHeap, rfl⟩ := LeverageHeap.mem_accounts_iff.mp member
  obtain ⟨index, found⟩ := LeverageHeap.mem_toList_iff.mp inHeap
  refine ⟨node, LeverageHeap.get?_eq_some.mpr ?_, rfl⟩
  rw [seated.tracked asset index node found]
  exact ⟨Nat.succ_ne_zero index, found⟩

/-- A slot holds an account exactly when the account sits in that heap and knows the slot. -/
theorem Seated.holds_iff (seated : book.Seated stale) (account : AccountId) (asset : Asset)
    : (((book.heap asset).get? (book.heapIndexOf account)).map HeapNode.account == some account)
      ↔ account ∈ (book.heap asset).accounts := by
  rw [beq_iff_eq, Option.map_eq_some_iff]
  constructor
  · rintro ⟨node, found, rfl⟩
    exact LeverageHeap.mem_accounts_of_getElem? (LeverageHeap.get?_eq_some.mp found).2
  · exact seated.get?_heapIndexOf

/-- The heap that a position is looked for in is the one it sits in. -/
theorem Seated.heapSide?_eq_some_iff (seated : book.Seated stale) (asset : Asset)
    : book.heapSide? account (book.heapIndexOf account) = some asset
      ↔ account ∈ (book.heap asset).accounts := by
  have base := seated.holds_iff account .base
  have quote := seated.holds_iff account .quote
  have apart := seated.apart .base account
  simp only [heapSide?, base, quote]
  cases asset <;> split_ifs <;> simp_all [Asset.other]

theorem Seated.heapSide?_eq_none_iff (seated : book.Seated stale)
    : book.heapSide? account (book.heapIndexOf account) = none
      ↔ ∀ asset, account ∉ (book.heap asset).accounts := by
  constructor
  · intro absent asset member
    rw [← seated.heapSide?_eq_some_iff, absent] at member
    cases member
  · intro nowhere
    cases side : book.heapSide? account (book.heapIndexOf account) with
    | none => rfl
    | some asset => exact absurd ((seated.heapSide?_eq_some_iff asset).mp side) (nowhere asset)

/-- A position that owes nothing sits in no heap. -/
theorem Seated.not_mem_of_unleveraged (seated : book.Seated stale) (fresh : stale ≠ some account)
    (unleveraged : ∀ position, book.position? account = some position →
      position.kind.debtAsset? = none)
    (asset : Asset)
    : account ∉ (book.heap asset).accounts := by
  intro member
  obtain ⟨node, inHeap, rfl⟩ := LeverageHeap.mem_accounts_iff.mp member
  obtain ⟨position, found, owes, _⟩ := seated.ranked asset node inHeap fresh
  rw [unleveraged position found] at owes
  cases owes

/-- A leveraged position sits in no heap but its own. -/
theorem Seated.mem_iff (seated : book.Seated none) {position : Position}
    (found : book.position? account = some position)
    : account ∈ (book.heap asset).accounts ↔ position.kind.debtAsset? = some asset := by
  constructor
  · intro member
    obtain ⟨node, inHeap, rfl⟩ := LeverageHeap.mem_accounts_iff.mp member
    obtain ⟨other, foundOther, owes, _⟩ := seated.ranked asset node inHeap nofun
    obtain rfl := Option.some.inj (found.symm.trans foundOther)
    exact owes
  · exact seated.covered account position asset found nofun

/-- A slot holds an account exactly when its position owes the heap's asset and knows the slot. -/
theorem Seated.get?_iff (seated : book.Seated none) {slot : Nat}
    : (∃ node, (book.heap asset).get? slot = some node ∧ node.account = account)
      ↔ ∃ position, book.position? account = some position
          ∧ position.kind.debtAsset? = some asset ∧ position.heapIndex = slot := by
  constructor
  · rintro ⟨node, atSlot, rfl⟩
    obtain ⟨positive, found⟩ := LeverageHeap.get?_eq_some.mp atSlot
    have member := LeverageHeap.mem_accounts_of_getElem? found
    obtain ⟨position, has⟩ := Option.isSome_iff_exists.mp (seated.position?_isSome member)
    refine ⟨position, has, (seated.mem_iff has).mp member, ?_⟩
    rw [← heapIndexOf_of_position? has, seated.tracked asset _ node found]
    omega
  · rintro ⟨position, has, owes, rfl⟩
    obtain ⟨node, atSlot, same⟩ := seated.get?_heapIndexOf ((seated.mem_iff has).mpr owes)
    rw [heapIndexOf_of_position? has] at atSlot
    exact ⟨node, atSlot, same⟩

/-- A position that owes nothing knows no slot. -/
theorem Seated.heapIndex_of_unleveraged (seated : book.Seated none) {position : Position}
    (found : book.position? account = some position) (owes : position.kind.debtAsset? = none)
    : position.heapIndex = 0 := by
  rw [← heapIndexOf_of_position? found]
  apply seated.unseated account
  intro asset member
  rw [seated.mem_iff found, owes] at member
  cases member

/-- Nobody sits twice, be it in one heap or in both. -/
theorem Seated.nodup (seated : book.Seated stale)
    : ((book.heap .base).accounts ++ (book.heap .quote).accounts).Nodup :=
  List.nodup_append.mpr ⟨(seated.tracked .base).nodup_accounts,
    (seated.tracked .quote).nodup_accounts, fun _ inBase _ inQuote same =>
      seated.apart .base _ inBase (same ▸ inQuote)⟩

/-- The root ranks no lower than any position that owes the heap's asset. -/
theorem Seated.sortKey_le_peek (seated : book.Seated none) {position : Position} {root : HeapNode}
    (atRoot : (book.heap asset).peek? = some root) (found : book.position? account = some position)
    (owes : position.kind.debtAsset? = some asset)
    : position.sortKey ≤ root.key := by
  obtain ⟨node, inHeap, rfl⟩ := LeverageHeap.mem_accounts_iff.mp ((seated.mem_iff found).mpr owes)
  obtain ⟨other, foundOther, _, rank⟩ := seated.ranked asset node inHeap nofun
  obtain rfl := Option.some.inj (found.symm.trans foundOther)
  exact rank ▸ (seated.ordered asset).key_le_peek inHeap atRoot

/-- The root of a heap ranks a position that owes the heap's asset by its own rank. -/
theorem Seated.root_ranked (seated : book.Seated none) {position : Position} {root : HeapNode}
    (atRoot : (book.heap asset).peek? = some root)
    (found : book.position? root.account = some position)
    : position.kind.debtAsset? = some asset ∧ position.sortKey = root.key := by
  obtain ⟨other, foundOther, owes, rank⟩ :=
    seated.ranked asset root (LeverageHeap.mem_toList_iff.mpr ⟨0, atRoot⟩) nofun
  obtain rfl := Option.some.inj (found.symm.trans foundOther)
  exact ⟨owes, rank⟩

end Finding

/-- Changing the holdings of one account keeps everything in place if its rank is stale anyway, or
if it sits nowhere and keeps owing nothing.
-/
theorem Seated.rebooked {book book' : Book} {stale : Option AccountId} {account : AccountId}
    (seated : book.Seated stale) (heaps : ∀ asset, book'.heap asset = book.heap asset)
    (others : ∀ other, other ≠ account → book'.position? other = book.position? other)
    (slot : book'.heapIndexOf account = book.heapIndexOf account)
    (unranked : stale = some account
      ∨ (∀ asset, account ∉ (book.heap asset).accounts)
        ∧ ∀ position, book'.position? account = some position → position.kind.debtAsset? = none)
    : book'.Seated stale := by
  have slots : book'.heapIndexOf = book.heapIndexOf := by
    funext other
    rcases decEq other account with different | rfl
    · simp only [heapIndexOf, others other different]
    · exact slot
  constructor
  · intro asset
    exact heaps asset ▸ seated.ordered asset
  · intro asset
    rw [heaps, slots]
    exact seated.tracked asset
  · intro asset other
    rw [heaps, heaps]
    exact seated.apart asset other
  · intro asset node member fresh
    rw [heaps] at member
    have different : node.account ≠ account := by
      rintro rfl
      rcases unranked with same | ⟨nowhere, _⟩
      · exact fresh same
      · exact nowhere asset (LeverageHeap.mem_accounts_iff.mpr ⟨node, member, rfl⟩)
    rw [others _ different]
    exact seated.ranked asset node member fresh
  · intro other position asset found fresh owes
    rcases decEq other account with different | rfl
    · rw [others other different] at found
      exact heaps asset ▸ seated.covered other position asset found fresh owes
    · rcases unranked with same | ⟨_, after⟩
      · exact absurd same fresh
      · rw [after position found] at owes
        cases owes
  · intro other away
    rw [slots]
    exact seated.unseated other fun asset => heaps asset ▸ away asset

/-- Once the account itself is ranked rightly, every rank is right. -/
theorem Seated.tighten {book : Book} {account : AccountId} (seated : book.Seated (some account))
    (ranked : ∀ asset node, node ∈ (book.heap asset).toList → node.account = account →
      ∃ position, book.position? account = some position
        ∧ position.kind.debtAsset? = some asset ∧ position.sortKey = node.key)
    (covered : ∀ position asset, book.position? account = some position →
      position.kind.debtAsset? = some asset → account ∈ (book.heap asset).accounts)
    : book.Seated none := by
  refine ⟨seated.ordered, seated.tracked, seated.apart, ?_, ?_, seated.unseated⟩
  · intro asset node member _
    rcases decEq node.account account with different | same
    · exact seated.ranked asset node member fun stale => different (Option.some.inj stale).symm
    · rw [same]
      exact ranked asset node member same
  · intro other position asset found _ owes
    rcases decEq other account with different | rfl
    · exact seated.covered other position asset found
        (fun stale => different (Option.some.inj stale).symm) owes
    · exact covered position asset found owes

-----
-- Replayed reports keep seats in step with the heap
-----

section Updates

variable {α : Type} {book : Book} {asset : Asset} {update : HeapUpdate α}

/-- Positions know the slots that were reported for them. -/
theorem heapIndexOf_applyUpdate (asset : Asset)
    (known : ∀ move ∈ update.moves, (book.position? move.account).isSome)
    : (book.applyUpdate asset update).heapIndexOf
      = fun account => slotAfter update.moves account (book.heapIndexOf account) := by
  funext account
  simp only [heapIndexOf, position?_applyUpdate]
  cases found : book.position? account with
  | some position => rfl
  | none =>
      refine (slotAfter_of_unreported ?_ 0).symm
      intro move member same
      have isSome := known move member
      rw [same, found] at isSome
      cases isSome

/-- Replaying reports changes no holdings. -/
theorem position?_applyUpdate_of_eq_some (asset : Asset) (update : HeapUpdate α)
    {account : AccountId} {position : Position}
    (found : book.position? account = some position)
    : ∃ slot, (book.applyUpdate asset update).position? account
        = some { position with heapIndex := slot } := by
  rw [position?_applyUpdate, found]
  exact ⟨_, rfl⟩

theorem exists_of_position?_applyUpdate {account : AccountId} {position : Position}
    (found : (book.applyUpdate asset update).position? account = some position)
    : ∃ before slot, book.position? account = some before
        ∧ position = { before with heapIndex := slot } := by
  rw [position?_applyUpdate, Option.map_eq_some_iff] at found
  obtain ⟨before, foundBefore, rfl⟩ := found
  exact ⟨before, _, foundBefore, rfl⟩

/-- An update of an asset's heap that moves no account but one in or out, and reports each node that
lands in a new slot.
-/
structure Replaces (book : Book) (asset : Asset) (update : HeapUpdate α) (account : AccountId)
    : Prop where
  present : (book.position? account).isSome
  elsewhere : account ∉ (book.heap asset.other).accounts
  ordered : update.heap.Ordered
  tracks : update.heap.Tracks fun other => slotAfter update.moves other (book.heapIndexOf other)
  reported
    : ∀ move ∈ update.moves,
        move.account = account ∨ move.account ∈ (book.heap asset).accounts
  alike
    : ∀ node, node.account ≠ account →
        (node ∈ update.heap.toList ↔ node ∈ (book.heap asset).toList)
  gone : account ∉ update.heap.accounts → ∀ slot, slotAfter update.moves account slot = 0

section Replacing

variable {account other : AccountId}

/-- Everybody else is in the heap after an update exactly when they were before. -/
theorem Replaces.mem_accounts_iff (replaces : book.Replaces asset update account)
    (different : other ≠ account)
    : other ∈ update.heap.accounts ↔ other ∈ (book.heap asset).accounts := by
  rw [LeverageHeap.mem_accounts_iff, LeverageHeap.mem_accounts_iff]
  constructor
  · rintro ⟨node, member, rfl⟩
    exact ⟨node, (replaces.alike node different).mp member, rfl⟩
  · rintro ⟨node, member, rfl⟩
    exact ⟨node, (replaces.alike node different).mpr member, rfl⟩

/-- Whoever is in the heap after an update is not in the other one. -/
theorem Replaces.apart (replaces : book.Replaces asset update account)
    (seated : book.Seated (some account)) (member : other ∈ update.heap.accounts)
    : other ∉ (book.heap asset.other).accounts := by
  rcases decEq other account with different | rfl
  · exact seated.apart asset other ((replaces.mem_accounts_iff different).mp member)
  · exact replaces.elsewhere

/-- After an update is replayed, slots are those before it with its reports. -/
theorem Replaces.heapIndexOf (replaces : book.Replaces asset update account)
    (seated : book.Seated (some account))
    : (book.applyUpdate asset update).heapIndexOf
      = fun other => slotAfter update.moves other (book.heapIndexOf other) := by
  apply heapIndexOf_applyUpdate asset
  intro move member
  rcases replaces.reported move member with same | inside
  · exact same ▸ replaces.present
  · exact seated.position?_isSome inside

/-- Whoever is not the account and not in the heap keeps the slot. -/
theorem Replaces.slotAfter_eq (replaces : book.Replaces asset update account)
    (different : other ≠ account) (away : other ∉ (book.heap asset).accounts) (slot : Nat)
    : slotAfter update.moves other slot = slot := by
  refine slotAfter_of_unreported ?_ _
  intro move member same
  rcases replaces.reported move member with isAccount | inside
  · exact different (same.symm.trans isAccount)
  · exact away (same ▸ inside)

/-- After an update is replayed both heaps are tracked. -/
theorem Replaces.tracked (replaces : book.Replaces asset update account)
    (seated : book.Seated (some account)) (side : Asset)
    : ((book.applyUpdate asset update).heap side).Tracks
        (book.applyUpdate asset update).heapIndexOf := by
  rw [replaces.heapIndexOf seated]
  rcases asset.eq_or_eq_other side with rfl | rfl
  · rw [heap_applyUpdate_same]
    exact replaces.tracks
  · rw [heap_applyUpdate_other]
    intro index node found
    have inOther := LeverageHeap.mem_accounts_of_getElem? found
    have away : node.account ∉ (book.heap asset).accounts :=
      fun inside => seated.apart asset _ inside inOther
    have different : node.account ≠ account := fun same => replaces.elsewhere (same ▸ inOther)
    exact (replaces.slotAfter_eq different away _).trans
      (seated.tracked asset.other index node found)

/-- After an update is replayed whoever sits nowhere knows no slot. -/
theorem Replaces.unseated (replaces : book.Replaces asset update account)
    (seated : book.Seated (some account))
    (nowhere : ∀ side, other ∉ ((book.applyUpdate asset update).heap side).accounts)
    : (book.applyUpdate asset update).heapIndexOf other = 0 := by
  rw [replaces.heapIndexOf seated]
  have awayHere := nowhere asset
  have awayThere := nowhere asset.other
  rw [heap_applyUpdate_same] at awayHere
  rw [heap_applyUpdate_other] at awayThere
  rcases decEq other account with different | rfl
  · have awayBefore : other ∉ (book.heap asset).accounts :=
      fun inside => awayHere ((replaces.mem_accounts_iff different).mpr inside)
    refine (replaces.slotAfter_eq different awayBefore _).trans (seated.unseated other ?_)
    intro side
    rcases asset.eq_or_eq_other side with rfl | rfl
    · exact awayBefore
    · exact awayThere
  · exact replaces.gone awayHere _

end Replacing

/-- Replacing a heap by one that differs in the stale account's node, and replaying its reports,
keeps everybody else in place. The account may enter or leave the heap that way.
-/
theorem Seated.applyUpdate {account : AccountId} (seated : book.Seated (some account))
    (replaces : book.Replaces asset update account)
    : (book.applyUpdate asset update).Seated (some account) := by
  refine ⟨?_, replaces.tracked seated, ?_, ?_, ?_,
    fun other nowhere => replaces.unseated seated nowhere⟩
  · intro side
    rcases asset.eq_or_eq_other side with rfl | rfl
    · rw [heap_applyUpdate_same]
      exact replaces.ordered
    · rw [heap_applyUpdate_other]
      exact seated.ordered asset.other
  · intro side other member
    rcases asset.eq_or_eq_other side with rfl | rfl
    · rw [heap_applyUpdate_same] at member
      rw [heap_applyUpdate_other]
      exact replaces.apart seated member
    · rw [heap_applyUpdate_other] at member
      rw [Asset.other_other, heap_applyUpdate_same]
      exact fun inside => replaces.apart seated inside member
  · intro side node member fresh
    have different : node.account ≠ account := fun same => fresh (congrArg some same.symm)
    have before : node ∈ (book.heap side).toList := by
      rcases asset.eq_or_eq_other side with rfl | rfl
      · rw [heap_applyUpdate_same] at member
        exact (replaces.alike node different).mp member
      · rwa [heap_applyUpdate_other] at member
    obtain ⟨position, found, owes, key⟩ := seated.ranked side node before fresh
    obtain ⟨_, foundAfter⟩ := position?_applyUpdate_of_eq_some asset update found
    exact ⟨_, foundAfter, owes, key⟩
  · intro other position debtAsset found fresh owes
    have different : other ≠ account := fun same => fresh (congrArg some same.symm)
    obtain ⟨before, _, foundBefore, rfl⟩ := exists_of_position?_applyUpdate found
    have inside := seated.covered other before debtAsset foundBefore fresh owes
    rcases asset.eq_or_eq_other debtAsset with rfl | rfl
    · rw [heap_applyUpdate_same]
      exact (replaces.mem_accounts_iff different).mpr inside
    · rwa [heap_applyUpdate_other]

end Updates

-----
-- A changed position is taken out, put in or ranked anew
-----

section Seating

variable {book : Book} {account : AccountId} {asset : Asset} {position : Position}

/-- Taking an account out of its heap keeps everybody else in place, and leaves it nowhere. -/
theorem Seated.unseat (seated : book.Seated (some account))
    (member : account ∈ (book.heap asset).accounts)
    : (book.unseat asset (book.heapIndexOf account)).Seated (some account)
      ∧ ∀ other,
        account ∉ ((book.unseat asset (book.heapIndexOf account)).heap other).accounts := by
  obtain ⟨node, found, rfl⟩ := seated.get?_heapIndexOf member
  generalize book.heapIndexOf node.account = slot at found
  have tracks := seated.tracked asset
  have contents := LeverageHeap.remove_perm found
  have elsewhere := seated.apart asset _ member
  constructor
  · refine seated.applyUpdate ⟨seated.position?_isSome member, elsewhere,
      (seated.ordered asset).remove slot, tracks.remove found,
      fun move inMoves => .inr (LeverageHeap.remove_reported found move inMoves),
      fun other different => ?_, fun _ => tracks.slotAfter_remove found⟩
    rw [contents.mem_iff, List.mem_cons]
    exact ⟨.inr, fun inside => inside.resolve_left fun same => different (same ▸ rfl)⟩
  · intro other
    rcases asset.eq_or_eq_other other with rfl | rfl
    · rw [Book.unseat, heap_applyUpdate_same]
      exact tracks.remove_not_mem found
    · rwa [Book.unseat, heap_applyUpdate_other]

/-- Taking an account out of whatever heap it is found in leaves it nowhere. -/
theorem Seated.evict {after : Book} (seated : book.Seated (some account))
    (found : book.position? account = some position)
    (evicted : after = match book.heapSide? account position.heapIndex with
      | some asset => book.unseat asset position.heapIndex
      | none => book)
    : after.Seated (some account) ∧ (∀ other, account ∉ (after.heap other).accounts)
      ∧ ∃ slot, after.position? account = some { position with heapIndex := slot } := by
  have slot := heapIndexOf_of_position? found
  rw [← slot] at evicted
  cases side : book.heapSide? account (book.heapIndexOf account) with
  | none =>
      rw [side] at evicted
      subst evicted
      exact ⟨seated, seated.heapSide?_eq_none_iff.mp side, position.heapIndex, found⟩
  | some asset =>
      rw [side] at evicted
      subst evicted
      obtain ⟨kept, nowhere⟩ := seated.unseat ((seated.heapSide?_eq_some_iff asset).mp side)
      exact ⟨kept, nowhere, position?_applyUpdate_of_eq_some _ _ found⟩

/-- An account that sits nowhere is seated at its rank in the heap of the asset it owes. -/
theorem Seated.seat (seated : book.Seated (some account))
    (nowhere : ∀ other, account ∉ (book.heap other).accounts)
    (found : book.position? account = some position)
    (owes : position.kind.debtAsset? = some asset)
    : (book.applyUpdate asset ((book.heap asset).insert (position.heapNode account))).Seated
        none := by
  have contents := LeverageHeap.insert_perm (book.heap asset) (position.heapNode account)
  have entered : account ∈ ((book.heap asset).insert (position.heapNode account)).heap.accounts :=
    (contents.map HeapNode.account).mem_iff.mpr List.mem_cons_self
  have placed := seated.applyUpdate ⟨Option.isSome_of_mem found, nowhere asset.other,
    (seated.ordered asset).insert _, (seated.tracked asset).insert (nowhere asset),
    LeverageHeap.insert_reported _ _,
    fun node different => by
      rw [contents.mem_iff, List.mem_cons]
      exact ⟨fun inside => inside.resolve_left fun same => different (same ▸ rfl), .inr⟩,
    fun absent => absurd entered absent⟩
  obtain ⟨slot, foundAfter⟩ := position?_applyUpdate_of_eq_some asset
    ((book.heap asset).insert (position.heapNode account)) found
  refine placed.tighten ?_ ?_
  · intro other node member same
    rcases asset.eq_or_eq_other other with rfl | rfl
    · rw [heap_applyUpdate_same] at member
      rcases List.mem_cons.mp (contents.mem_iff.mp member) with rfl | before
      · exact ⟨_, foundAfter, owes, rfl⟩
      · exact absurd (LeverageHeap.mem_accounts_iff.mpr ⟨node, before, same⟩) (nowhere other)
    · rw [heap_applyUpdate_other] at member
      exact absurd (LeverageHeap.mem_accounts_iff.mpr ⟨node, member, same⟩) (nowhere asset.other)
  · intro after other foundOther owesOther
    obtain rfl := Option.some.inj (foundAfter.symm.trans foundOther)
    obtain rfl := Option.some.inj (owes.symm.trans owesOther)
    rwa [heap_applyUpdate_same]

/-- An account that sits in the right heap is ranked anew there. -/
theorem Seated.rekey (seated : book.Seated (some account))
    (member : account ∈ (book.heap asset).accounts)
    (found : book.position? account = some position)
    (owes : position.kind.debtAsset? = some asset)
    : (book.applyUpdate asset
        ((book.heap asset).updateKey (book.heapIndexOf account) position.sortKey)).Seated none := by
  obtain ⟨old, atSlot, rfl⟩ := seated.get?_heapIndexOf member
  generalize book.heapIndexOf old.account = slot at atSlot
  have tracks := seated.tracked asset
  obtain ⟨rest, before, after⟩ := LeverageHeap.updateKey_perm atSlot position.sortKey
  have alone : ∀ node ∈ rest, node.account ≠ old.account := by
    intro node inRest same
    have nodup := (before.map HeapNode.account).nodup_iff.mp tracks.nodup_accounts
    exact (List.nodup_cons.mp nodup).1 (same ▸ List.mem_map_of_mem inRest)
  have entered : old.account ∈
      ((book.heap asset).updateKey slot position.sortKey).heap.accounts :=
    (after.map HeapNode.account).mem_iff.mpr List.mem_cons_self
  have placed := seated.applyUpdate ⟨Option.isSome_of_mem found, seated.apart asset _ member,
    (seated.ordered asset).updateKey slot position.sortKey,
    tracks.updateKey atSlot position.sortKey,
    fun move inMoves => .inr (LeverageHeap.updateKey_reported atSlot _ move inMoves),
    fun node different => by
      rw [before.mem_iff, after.mem_iff, List.mem_cons, List.mem_cons]
      constructor
      · exact fun inside => .inr (inside.resolve_left fun same => different (same ▸ rfl))
      · exact fun inside => .inr (inside.resolve_left fun same => different (same ▸ rfl)),
    fun absent => absurd entered absent⟩
  obtain ⟨_, foundAfter⟩ := position?_applyUpdate_of_eq_some asset
    ((book.heap asset).updateKey slot position.sortKey) found
  refine placed.tighten ?_ ?_
  · intro other node inside same
    rcases asset.eq_or_eq_other other with rfl | rfl
    · rw [heap_applyUpdate_same] at inside
      rcases List.mem_cons.mp (after.mem_iff.mp inside) with rfl | inRest
      · exact ⟨_, foundAfter, owes, rfl⟩
      · exact absurd same (alone node inRest)
    · rw [heap_applyUpdate_other] at inside
      exact absurd (LeverageHeap.mem_accounts_iff.mpr ⟨node, inside, same⟩)
        (seated.apart asset _ member)
  · intro other debtAsset foundOther owesOther
    obtain rfl := Option.some.inj (foundAfter.symm.trans foundOther)
    obtain rfl := Option.some.inj (owes.symm.trans owesOther)
    rwa [heap_applyUpdate_same]

/-- Seating an account puts every rank right, whatever heap it sat in before. -/
theorem Seated.reseat (seated : book.Seated (some account))
    : (book.reseat account).Seated none := by
  cases found : book.position? account with
  | none =>
      have nowhere : ∀ asset, account ∉ (book.heap asset).accounts := by
        intro asset member
        have isSome := seated.position?_isSome member
        rw [found] at isSome
        cases isSome
      simp only [Book.reseat, found]
      apply seated.tighten
      · intro asset node member same
        exact absurd (LeverageHeap.mem_accounts_iff.mpr ⟨node, member, same⟩) (nowhere asset)
      · intro position asset impossible
        rw [found] at impossible
        cases impossible
  | some position =>
      have slot := heapIndexOf_of_position? found
      simp only [Book.reseat, found, ← slot]
      split
      · next inPlace =>
          cases target : position.kind.debtAsset? with
          | some asset =>
              rw [target] at inPlace
              exact seated.rekey ((seated.heapSide?_eq_some_iff asset).mp inPlace) found target
          | none =>
              rw [target] at inPlace
              have nowhere := seated.heapSide?_eq_none_iff.mp inPlace
              apply seated.tighten
              · intro asset node member same
                exact absurd (LeverageHeap.mem_accounts_iff.mpr ⟨node, member, same⟩)
                  (nowhere asset)
              · intro other asset foundOther owes
                obtain rfl := Option.some.inj (found.symm.trans foundOther)
                rw [target] at owes
                cases owes
      · obtain ⟨kept, nowhere, newSlot, foundAfter⟩ := seated.evict found rfl
        rw [← slot] at kept nowhere foundAfter
        cases target : position.kind.debtAsset? with
        | some asset =>
            have placed := kept.seat nowhere foundAfter target
            exact placed
        | none =>
            apply kept.tighten
            · intro asset node member same
              exact absurd (LeverageHeap.mem_accounts_iff.mpr ⟨node, member, same⟩)
                (nowhere asset)
            · intro other asset foundOther owes
              obtain rfl := Option.some.inj (foundAfter.symm.trans foundOther)
              exact nomatch target.symm.trans owes

/-- Removing the position of an account that sits nowhere keeps everybody else in place. -/
theorem Seated.erase (seated : book.Seated (some account))
    (nowhere : ∀ other, account ∉ (book.heap other).accounts)
    : (book.erasePosition account).Seated none := by
  have absent : (book.erasePosition account).position? account = none := by
    rw [position?_erasePosition, if_pos rfl]
  have kept : (book.erasePosition account).Seated (some account) := by
    refine seated.rebooked (fun asset => heap_erasePosition book account asset) ?_ ?_ (.inl rfl)
    · intro other different
      rw [position?_erasePosition, if_neg different.symm]
    · rw [seated.unseated account nowhere, heapIndexOf, absent]
  apply kept.tighten
  · intro asset node member same
    rw [heap_erasePosition] at member
    exact absurd (LeverageHeap.mem_accounts_iff.mpr ⟨node, member, same⟩) (nowhere asset)
  · intro position asset found
    rw [absent] at found
    cases found

-----
-- A takeover keeps the seat and changes the account
-----

/-- After a takeover the receiver has the bad position and the bad account none. -/
theorem position?_handOver (book : Book) (bad : Position) (badAccount receiver other : AccountId)
    : (book.handOver bad badAccount receiver).position? other
      = if receiver = other then some bad
        else if badAccount = other then none
        else book.position? other := by
  have moved : (((book.erasePosition receiver).erasePosition badAccount).putPosition receiver
      bad).position? other
      = if receiver = other then some bad
        else if badAccount = other then none
        else book.position? other := by
    rw [position?_putPosition, position?_erasePosition, position?_erasePosition]
    split_ifs <;> rfl
  unfold handOver
  split
  · exact moved
  · exact moved

theorem ledger_handOver {bad : Position} {badAccount receiver : AccountId} (asset : Asset)
    : (book.handOver bad badAccount receiver).ledger asset = book.ledger asset := by
  unfold handOver
  split <;> simp

/-- A receiver who sits nowhere takes over the position of the account in a node, and the node. -/
structure TakesOver (book after : Book) (asset : Asset) (bad : Position) (node : HeapNode)
    (receiver : AccountId)
    : Prop where
  found : book.position? node.account = some bad
  owes : bad.kind.debtAsset? = some asset
  atSlot : (book.heap asset).get? bad.heapIndex = some node
  nowhere : ∀ side, receiver ∉ (book.heap side).accounts
  heapHere : after.heap asset = ((book.heap asset).setAccount bad.heapIndex receiver).heap
  heapThere : after.heap asset.other = book.heap asset.other
  receiverHas : after.position? receiver = some bad
  badHas : after.position? node.account = none
  bystander
    : ∀ other, other ≠ receiver → other ≠ node.account →
        after.position? other = book.position? other

section TakingOver

variable {after : Book} {bad : Position} {node : HeapNode} {receiver other : AccountId}

/-- The heap of the asset owed differs in one node. -/
theorem TakesOver.write_eq (takes : book.TakesOver after asset bad node receiver)
    : after.heap asset
      = (book.heap asset).write (bad.heapIndex - 1) { node with account := receiver } := by
  rw [takes.heapHere, LeverageHeap.setAccount_eq takes.atSlot]

theorem TakesOver.mem_accounts (takes : book.TakesOver after asset bad node receiver)
    : node.account ∈ (book.heap asset).accounts :=
  LeverageHeap.mem_accounts_of_getElem? (LeverageHeap.get?_eq_some.mp takes.atSlot).2

/-- The nodes after a takeover are the receiver's and those of other accounts. -/
theorem TakesOver.mem_toList_iff (takes : book.TakesOver after asset bad node receiver)
    (seated : book.Seated none) {ranked : HeapNode}
    : ranked ∈ (after.heap asset).toList
      ↔ ranked = { node with account := receiver }
        ∨ (ranked.account ≠ node.account ∧ ranked ∈ (book.heap asset).toList) := by
  obtain ⟨rest, before, written⟩ :=
    LeverageHeap.write_perm (LeverageHeap.get?_eq_some.mp takes.atSlot).2
      { node with account := receiver }
  have nodup :=
    (before.map HeapNode.account).nodup_iff.mp (seated.tracked asset).nodup_accounts
  have alone : node.account ∉ rest.map HeapNode.account := (List.nodup_cons.mp nodup).1
  rw [takes.write_eq, written.mem_iff, before.mem_iff, List.mem_cons, List.mem_cons]
  refine or_congr_right ⟨?_, ?_⟩
  · intro inRest
    exact ⟨fun same => alone (same ▸ List.mem_map_of_mem inRest), .inr inRest⟩
  · rintro ⟨different, inside⟩
    exact inside.resolve_left fun same => different (congrArg HeapNode.account same)

/-- The accounts in the heap after a takeover are the receiver and all but the bad account. -/
theorem TakesOver.mem_accounts_iff (takes : book.TakesOver after asset bad node receiver)
    (seated : book.Seated none)
    : other ∈ (after.heap asset).accounts
      ↔ other = receiver ∨ (other ≠ node.account ∧ other ∈ (book.heap asset).accounts) := by
  simp only [LeverageHeap.mem_accounts_iff, takes.mem_toList_iff seated]
  constructor
  · rintro ⟨ranked, rfl | ⟨different, member⟩, rfl⟩
    · exact .inl rfl
    · exact .inr ⟨different, ranked, member, rfl⟩
  · rintro (rfl | ⟨different, ranked, member, rfl⟩)
    · exact ⟨_, .inl rfl, rfl⟩
    · exact ⟨ranked, .inr ⟨different, member⟩, rfl⟩

/-- Whoever is in the other heap is neither of the two accounts. -/
theorem TakesOver.mem_other (takes : book.TakesOver after asset bad node receiver)
    (seated : book.Seated none) (member : other ∈ (book.heap asset.other).accounts)
    : other ≠ receiver ∧ other ≠ node.account := by
  constructor
  · rintro rfl
    exact takes.nowhere _ member
  · rintro rfl
    exact seated.apart asset _ takes.mem_accounts member

theorem TakesOver.heapIndexOf_eq (takes : book.TakesOver after asset bad node receiver)
    (notReceiver : other ≠ receiver) (notBad : other ≠ node.account)
    : after.heapIndexOf other = book.heapIndexOf other := by
  rw [heapIndexOf, takes.bystander other notReceiver notBad, heapIndexOf]

/-- After a takeover both heaps are ordered. -/
theorem TakesOver.ordered (takes : book.TakesOver after asset bad node receiver)
    (seated : book.Seated none) (side : Asset)
    : (after.heap side).Ordered := by
  rcases asset.eq_or_eq_other side with rfl | rfl
  · rw [takes.heapHere]
    exact (seated.ordered side).setAccount bad.heapIndex receiver
  · rw [takes.heapThere]
    exact seated.ordered asset.other

/-- After a takeover both heaps are tracked: the receiver has the slot that came with the position.
-/
theorem TakesOver.tracked (takes : book.TakesOver after asset bad node receiver)
    (seated : book.Seated none) (side : Asset)
    : (after.heap side).Tracks after.heapIndexOf := by
  obtain ⟨someSlot, inSlot⟩ := LeverageHeap.get?_eq_some.mp takes.atSlot
  intro index ranked atIndex
  rcases asset.eq_or_eq_other side with rfl | rfl
  · rw [takes.write_eq, LeverageHeap.getElem?_write (Array.getElem?_eq_some_iff.mp inSlot).1]
      at atIndex
    split at atIndex
    · next same =>
        obtain rfl := Option.some.inj atIndex
        rw [heapIndexOf_of_position? takes.receiverHas, same]
        omega
    · next notSlot =>
        have inHeap := LeverageHeap.mem_accounts_of_getElem? atIndex
        have notReceiver : ranked.account ≠ receiver :=
          fun same => takes.nowhere side (same ▸ inHeap)
        have notBad : ranked.account ≠ node.account :=
          fun same => notSlot ((seated.tracked side).index_unique atIndex inSlot same)
        rw [takes.heapIndexOf_eq notReceiver notBad]
        exact seated.tracked side index ranked atIndex
  · rw [takes.heapThere] at atIndex
    obtain ⟨notReceiver, notBad⟩ :=
      takes.mem_other seated (LeverageHeap.mem_accounts_of_getElem? atIndex)
    rw [takes.heapIndexOf_eq notReceiver notBad]
    exact seated.tracked asset.other index ranked atIndex

/-- After a takeover nobody is in both heaps. -/
theorem TakesOver.apart (takes : book.TakesOver after asset bad node receiver)
    (seated : book.Seated none) (member : other ∈ (after.heap asset).accounts)
    : other ∉ (book.heap asset.other).accounts := by
  rcases (takes.mem_accounts_iff seated).mp member with rfl | ⟨_, inside⟩
  · exact takes.nowhere _
  · exact seated.apart asset other inside

/-- After a takeover each node ranks the holdings of its account. -/
theorem TakesOver.ranked (takes : book.TakesOver after asset bad node receiver)
    (seated : book.Seated none) {side : Asset} {ranked : HeapNode}
    (member : ranked ∈ (after.heap side).toList)
    : ∃ position, after.position? ranked.account = some position
      ∧ position.kind.debtAsset? = some side ∧ position.sortKey = ranked.key := by
  rcases asset.eq_or_eq_other side with rfl | rfl
  · rcases (takes.mem_toList_iff seated).mp member with rfl | ⟨notBad, inside⟩
    · have inBefore : node ∈ (book.heap side).toList :=
        Array.mem_toList_iff.mpr
          (Array.mem_of_getElem? (LeverageHeap.get?_eq_some.mp takes.atSlot).2)
      obtain ⟨position, found, _, key⟩ := seated.ranked side node inBefore nofun
      obtain rfl := Option.some.inj (takes.found.symm.trans found)
      exact ⟨bad, takes.receiverHas, takes.owes, key⟩
    · have notReceiver : ranked.account ≠ receiver := fun same =>
        takes.nowhere side (LeverageHeap.mem_accounts_iff.mpr ⟨ranked, inside, same⟩)
      rw [takes.bystander _ notReceiver notBad]
      exact seated.ranked side ranked inside nofun
  · rw [takes.heapThere] at member
    obtain ⟨notReceiver, notBad⟩ :=
      takes.mem_other seated (LeverageHeap.mem_accounts_iff.mpr ⟨ranked, member, rfl⟩)
    rw [takes.bystander _ notReceiver notBad]
    exact seated.ranked asset.other ranked member nofun

/-- After a takeover each leveraged position is in the heap of the asset it owes. -/
theorem TakesOver.covered (takes : book.TakesOver after asset bad node receiver)
    (seated : book.Seated none) {position : Position} {side : Asset}
    (found : after.position? other = some position) (owes : position.kind.debtAsset? = some side)
    : other ∈ (after.heap side).accounts := by
  rcases decEq other receiver with notReceiver | rfl
  · have notBad : other ≠ node.account := by
      rintro rfl
      cases takes.badHas.symm.trans found
    rw [takes.bystander other notReceiver notBad] at found
    have inside := seated.covered other position side found nofun owes
    rcases asset.eq_or_eq_other side with rfl | rfl
    · exact (takes.mem_accounts_iff seated).mpr (.inr ⟨notBad, inside⟩)
    · rwa [takes.heapThere]
  · obtain rfl := Option.some.inj (takes.receiverHas.symm.trans found)
    obtain rfl := Option.some.inj (takes.owes.symm.trans owes)
    exact (takes.mem_accounts_iff seated).mpr (.inl rfl)

/-- After a takeover whoever sits nowhere knows no slot. -/
theorem TakesOver.unseated (takes : book.TakesOver after asset bad node receiver)
    (seated : book.Seated none) (away : ∀ side, other ∉ (after.heap side).accounts)
    : after.heapIndexOf other = 0 := by
  have awayHere := mt (takes.mem_accounts_iff seated).mpr (away asset)
  have awayThere := takes.heapThere ▸ away asset.other
  rw [not_or, not_and] at awayHere
  rcases decEq other node.account with notBad | rfl
  · rw [takes.heapIndexOf_eq awayHere.1 notBad]
    apply seated.unseated other
    intro side
    rcases asset.eq_or_eq_other side with rfl | rfl
    · exact awayHere.2 notBad
    · exact awayThere
  · rw [heapIndexOf, takes.badHas]

end TakingOver

/-- Handing a position over is a takeover of its seat. -/
theorem takesOver_handOver {bad : Position} {node : HeapNode} {receiver : AccountId}
    (found : book.position? node.account = some bad) (owes : bad.kind.debtAsset? = some asset)
    (atSlot : (book.heap asset).get? bad.heapIndex = some node)
    (nowhere : ∀ side, receiver ∉ (book.heap side).accounts)
    : book.TakesOver (book.handOver bad node.account receiver) asset bad node receiver := by
  have positions := book.position?_handOver bad node.account receiver
  have inHeap : node.account ∈ (book.heap asset).accounts :=
    LeverageHeap.mem_accounts_of_getElem? (LeverageHeap.get?_eq_some.mp atSlot).2
  have different : receiver ≠ node.account := fun same => nowhere asset (same ▸ inHeap)
  refine ⟨found, owes, atSlot, nowhere, ?_, ?_, ?_, ?_, ?_⟩
  · simp only [Book.handOver, owes, heap_setHeap_same, heap_putPosition, heap_erasePosition]
  · simp [Book.handOver, owes]
  · rw [positions, if_pos rfl]
  · rw [positions, if_neg different, if_pos rfl]
  · intro other notReceiver notBad
    rw [positions, if_neg notReceiver.symm, if_neg notBad.symm]

/-- A takeover puts the receiver in the bad account's seat. -/
theorem Seated.handOver (seated : book.Seated none) {bad : Position}
    {badAccount receiver : AccountId} (found : book.position? badAccount = some bad)
    (owes : bad.kind.debtAsset? = some asset)
    (nowhere : ∀ other, receiver ∉ (book.heap other).accounts)
    : (book.handOver bad badAccount receiver).Seated none := by
  obtain ⟨node, atSlot, rfl⟩ := seated.get?_heapIndexOf ((seated.mem_iff found).mpr owes)
  rw [heapIndexOf_of_position? found] at atSlot
  have takes := takesOver_handOver found owes atSlot nowhere
  refine ⟨takes.ordered seated, takes.tracked seated, ?_,
    fun side ranked member _ => takes.ranked seated member,
    fun other position side foundAfter _ owesAfter => takes.covered seated foundAfter owesAfter,
    fun other away => takes.unseated seated away⟩
  intro side other member
  rcases asset.eq_or_eq_other side with rfl | rfl
  · rw [takes.heapThere]
    exact takes.apart seated member
  · rw [takes.heapThere] at member
    rw [Asset.other_other]
    exact fun inside => takes.apart seated inside member

end Seating

end Book

end MarginLending
