import MarginLending.Proofs.Book.Bookings
import MarginLending.Proofs.Book.Seats
import MarginLending.Proofs.Fixed

/-!
A consistent book: the totals of both ledgers are the sums over all positions, no position owes both
assets, the fee holder owes nothing, and heaps and positions agree. Every action of a book keeps it
consistent, except for the rank of the account whose holdings it changes.
-/

namespace MarginLending

namespace Book

/-- Discounted collateral of all positions in an asset. -/
def collateralSum (book : Book) (asset : Asset) : Nat :=
  book.positions.sumOf fun position => (position.holding asset).collateralAmount

/-- Discounted debt of all positions in an asset. -/
def debtSum (book : Book) (asset : Asset) : Nat :=
  book.positions.sumOf fun position => (position.holding asset).debtAmount

/-- Totals, sides and heaps of a book fit its positions; the rank of one account may be stale. -/
structure Consistent (book : Book) (stale : Option AccountId) : Prop where
  seated : book.Seated stale
  collateralTallied : ∀ asset, (book.ledger asset).discountedCollateral = book.collateralSum asset
  debtTallied : ∀ asset, (book.ledger asset).discountedDebt = book.debtSum asset
  oneSided
    : ∀ account position, book.position? account = some position
        → ∀ asset, (position.holding asset).debtAmount = 0
            ∨ (position.holding asset.other).debtAmount = 0
  feeHolderClear
    : ∀ position, book.position? .feeHolder = some position
        → ∀ asset, (position.holding asset).debtAmount = 0

/-- An empty book is consistent. -/
theorem consistent_new (parameters : Parameters) (start : Timestamp)
    : (Book.new parameters start).Consistent none := by
  have heaps : ∀ asset, (Book.new parameters start).heap asset = .empty := PerAsset.get_both _
  have ledgers : ∀ asset, (Book.new parameters start).ledger asset = .new := PerAsset.get_both _
  refine ⟨⟨?_, ?_, ?_, ?_, ?_, ?_⟩, ?_, ?_, ?_, ?_⟩
  · intro asset child _ _ inside
    rw [heaps] at inside
    exact absurd inside (Nat.not_lt_zero _)
  · intro asset index node found
    rw [heaps] at found
    cases found
  · intro asset account member
    rw [heaps] at member
    cases member
  · intro asset node member
    rw [heaps] at member
    cases member
  · intro account position _ found
    cases found
  · exact fun account _ => rfl
  · exact fun asset => congrArg Ledger.discountedCollateral (ledgers asset)
  · exact fun asset => congrArg Ledger.discountedDebt (ledgers asset)
  · intro account position found
    cases found
  · intro position found
    cases found

section Keeping

variable {book book' : Book} {stale : Option AccountId} {account : AccountId} {asset : Asset}
  {real : Nat}

theorem Consistent.loosen (consistent : book.Consistent none) (account : AccountId)
    : book.Consistent (some account) :=
  { consistent with seated := consistent.seated.loosen account }

/-- The fee holder sits in no heap. -/
theorem Consistent.feeHolder_nowhere (consistent : book.Consistent stale)
    (fresh : stale ≠ some .feeHolder) (asset : Asset)
    : .feeHolder ∉ (book.heap asset).accounts :=
  consistent.seated.not_mem_of_unleveraged fresh
    (fun position found =>
      Position.debtAsset?_eq_none_iff.mpr (consistent.feeHolderClear position found))
    asset

/-- Whatever keeps nodes, positions and totals keeps the book consistent. -/
theorem Consistent.of_same (consistent : book.Consistent stale)
    (nodes : ∀ asset, (book'.heap asset).nodes = (book.heap asset).nodes)
    (positions : book'.positions = book.positions)
    (collateral : ∀ asset, (book'.ledger asset).discountedCollateral
      = (book.ledger asset).discountedCollateral)
    (debt : ∀ asset, (book'.ledger asset).discountedDebt = (book.ledger asset).discountedDebt)
    : book'.Consistent stale := by
  have lookups : book'.position? = book.position? := by
    funext account
    simp only [position?, positions]
  refine ⟨consistent.seated.of_same nodes positions, ?_, ?_, ?_, ?_⟩
  · intro asset
    rw [collateral, consistent.collateralTallied, collateralSum, collateralSum, positions]
  · intro asset
    rw [debt, consistent.debtTallied, debtSum, debtSum, positions]
  · exact lookups ▸ consistent.oneSided
  · exact lookups ▸ consistent.feeHolderClear

/-- Replacing a ledger by one with the same totals keeps the book consistent. -/
theorem Consistent.setLedger (consistent : book.Consistent stale) {ledger : Ledger}
    (collateral : ledger.discountedCollateral = (book.ledger asset).discountedCollateral)
    (debt : ledger.discountedDebt = (book.ledger asset).discountedDebt)
    : (book.setLedger asset ledger).Consistent stale := by
  refine consistent.of_same (fun _ => rfl) rfl ?_ ?_
  · intro other
    rcases asset.eq_or_eq_other other with rfl | rfl
    · rw [ledger_setLedger_same, collateral]
    · rw [ledger_setLedger_other]
  · intro other
    rcases asset.eq_or_eq_other other with rfl | rfl
    · rw [ledger_setLedger_same, debt]
    · rw [ledger_setLedger_other]

-----
-- A booking moves a position and the totals alike
-----

theorem measureAt_positions (measure : Position → Nat) (nothing : measure .empty = 0)
    (book : Book) (account : AccountId)
    : book.positions.measureAt measure account = measure (book.positionOf account) := by
  unfold AccountTable.measureAt positionOf position?
  cases book.positions.get? account with
  | none => exact nothing.symm
  | some position => rfl

theorem Rebooked.position? {after : Position} (rebooked : book.Rebooked account after book')
    (other : AccountId)
    : book'.position? other = if account = other then some after else book.position? other := by
  unfold Book.position?
  rw [rebooked.positions, AccountTable.get?_insert]

theorem Rebooked.heapIndexOf {after : Position} (rebooked : book.Rebooked account after book')
    : book'.heapIndexOf account = book.heapIndexOf account := by
  simp only [Book.heapIndexOf, rebooked.position?, if_true, rebooked.slot, positionOf]
  cases book.position? account <;> rfl

theorem Rebooked.collateralTallied {after : Position}
    (rebooked : book.Rebooked account after book')
    (before : (book.ledger asset).discountedCollateral = book.collateralSum asset)
    : (book'.ledger asset).discountedCollateral = book'.collateralSum asset := by
  have exchanged := (rebooked.booked asset).collateral
  have sums := book.positions.sumOf_insert
    (fun position => (position.holding asset).collateralAmount) account after
  rw [measureAt_positions _ (by cases asset <;> rfl)] at sums
  simp only [collateralSum, rebooked.positions] at before ⊢
  omega

theorem Rebooked.debtTallied {after : Position}
    (rebooked : book.Rebooked account after book')
    (before : (book.ledger asset).discountedDebt = book.debtSum asset)
    : (book'.ledger asset).discountedDebt = book'.debtSum asset := by
  have exchanged := (rebooked.booked asset).debt
  have sums := book.positions.sumOf_insert
    (fun position => (position.holding asset).debtAmount) account after
  rw [measureAt_positions _ (by cases asset <;> rfl)] at sums
  simp only [debtSum, rebooked.positions] at before ⊢
  omega

/-- A booking that leaves debt on one side at most, and none to the fee holder, keeps the book
consistent, as long as the account's rank is stale or of no account.
-/
theorem Rebooked.consistent {after : Position} (rebooked : book.Rebooked account after book')
    (consistent : book.Consistent stale)
    (oneSided : ∀ asset, (after.holding asset).debtAmount = 0
      ∨ (after.holding asset.other).debtAmount = 0)
    (feeClear : account = .feeHolder → ∀ asset, (after.holding asset).debtAmount = 0)
    (unranked : stale = some account ∨ account = .feeHolder)
    : book'.Consistent stale := by
  refine ⟨?_, fun asset => rebooked.collateralTallied (consistent.collateralTallied asset),
    fun asset => rebooked.debtTallied (consistent.debtTallied asset), ?_, ?_⟩
  · refine consistent.seated.rebooked (fun asset => congrArg (PerAsset.get · asset) rebooked.heaps)
      ?_ rebooked.heapIndexOf ?_
    · intro other different
      rw [rebooked.position?, if_neg different.symm]
    · rcases decEq stale (some account) with fresh | same
      · refine .inr ⟨?_, ?_⟩
        · obtain rfl := unranked.resolve_left fresh
          exact consistent.feeHolder_nowhere fresh
        · intro position found
          rw [rebooked.position?, if_pos rfl] at found
          obtain rfl := Option.some.inj found
          exact Position.debtAsset?_eq_none_iff.mpr (feeClear (unranked.resolve_left fresh))
      · exact .inl same
  · intro other position found
    rw [rebooked.position?] at found
    split at found
    · obtain rfl := Option.some.inj found
      exact oneSided
    · exact consistent.oneSided other position found
  · intro position found
    rw [rebooked.position?] at found
    split at found
    · next same =>
        obtain rfl := Option.some.inj found
        exact feeClear same
    · exact consistent.feeHolderClear position found

/-- An account without a position counts as one that holds nothing. -/
theorem positionOf_cases (book : Book) (account : AccountId)
    : book.position? account = some (book.positionOf account)
      ∨ book.position? account = none ∧ book.positionOf account = .empty := by
  unfold positionOf
  cases book.position? account with
  | none => exact .inr ⟨rfl, rfl⟩
  | some position => exact .inl rfl

theorem Consistent.positionOf_oneSided (consistent : book.Consistent stale) (account : AccountId)
    (asset : Asset)
    : ((book.positionOf account).holding asset).debtAmount = 0
      ∨ ((book.positionOf account).holding asset.other).debtAmount = 0 := by
  rcases book.positionOf_cases account with found | ⟨_, empty⟩
  · exact consistent.oneSided account _ found asset
  · rw [empty]
    cases asset <;> exact .inl rfl

theorem Consistent.positionOf_feeHolder (consistent : book.Consistent stale) (asset : Asset)
    : ((book.positionOf .feeHolder).holding asset).debtAmount = 0 := by
  rcases book.positionOf_cases .feeHolder with found | ⟨_, empty⟩
  · exact consistent.feeHolderClear _ found asset
  · rw [empty]
    cases asset <;> rfl

theorem holding_rebook_other {position : Position} {holding otherHolding : Holding}
    : ((position.setHolding asset holding).setHolding asset.other otherHolding).holding asset
      = holding := by
  rw [Position.holding_setHolding_of_other, Position.holding_setHolding_same]

/-- Debts after a booking in one asset, by asset. -/
theorem debtAmount_rebook {position : Position} {holding otherHolding : Holding} (other : Asset)
    : (((position.setHolding asset holding).setHolding asset.other otherHolding).holding
        other).debtAmount
      = if other = asset then holding.debtAmount else otherHolding.debtAmount := by
  rcases asset.eq_or_eq_other other with rfl | rfl
  · rw [if_pos rfl, Position.holding_setHolding_of_other, Position.holding_setHolding_same]
  · rw [if_neg (Asset.other_ne asset), Position.holding_setHolding_same]

/-- A credit keeps the book consistent. -/
theorem Consistent.credit (consistent : book.Consistent stale)
    (credited : Book.credit account asset real book = .ok () book')
    (unranked : stale = some account ∨ account = .feeHolder)
    : book'.Consistent stale := by
  rcases credit_ok credited with
      ⟨_, rfl⟩ | ⟨_, after, ledger, other, otherLedger, paid, rebased, rfl⟩
  · exact consistent
  · have smaller := paid.debtAmount_le
    have same := rebased.debtAmount_eq
    refine (rebooked_rebook paid.exchanges.normalized rebased.exchanges).consistent consistent ?_ ?_
      unranked
    · intro side
      have before := consistent.positionOf_oneSided account asset
      rw [debtAmount_rebook, debtAmount_rebook, Holding.debtAmount_normalized, same]
      cases asset <;> cases side <;> simp only [Asset.other] at before ⊢ <;> grind
    · intro isFeeHolder side
      subst isFeeHolder
      have before := consistent.positionOf_feeHolder asset
      have beforeOther := consistent.positionOf_feeHolder asset.other
      rw [debtAmount_rebook, Holding.debtAmount_normalized, same]
      split <;> omega

/-- What an account holds, net of its charge, read off its position. -/
theorem collateralOf_ok {available : Nat} (known : book.collateralOf account asset = .ok available)
    : available = 0 ∨ ∃ whole charge,
        (book.ledger asset).realCollateral
            ((book.positionOf account).holding asset).collateralAmount = .ok whole
          ∧ (book.ledger asset).charge ((book.positionOf account).holding asset.other).debtAmount
            = .ok charge
          ∧ available = whole - charge := by
  unfold collateralOf at known
  unfold positionOf
  cases found : book.position? account with
  | none =>
      rw [found] at known
      exact .inl (Except.ok.inj known).symm
  | some position =>
      rw [found] at known
      exact .inr (Ledger.netCollateral_eq_ok.mp known)

/-- A debit that stays within the net collateral opens no debt. -/
theorem debtAmount_of_debit_within {ledger after : Ledger} {held new : Holding} {whole charge : Nat}
    (holds : ledger.realCollateral held.collateralAmount = .ok whole)
    (enough : real ≤ whole - charge) (nonzero : real ≠ 0)
    (taken : ledger.Debit real charge held new after)
    : new.debtAmount = 0 := by
  cases taken with
  | partly => rfl
  | wholly holds' _ _ adds =>
      obtain rfl := Except.ok.inj (holds.symm.trans holds')
      rw [Nat.sub_eq_zero_of_le enough] at adds
      exact Q96.unscaleUp_zero adds
  | adds holdsNothing _ _ =>
      rw [holdsNothing, Ledger.realCollateral_eq_ok] at holds
      rw [Q96.scale_zero holds] at enough
      omega

theorem debtAmount_of_debit_available {available charge : Nat} {after : Holding} {ledger : Ledger}
    (known : book.collateralOf account asset = .ok available) (enough : real ≤ available)
    (nonzero : real ≠ 0)
    (charged : (book.ledger asset).charge ((book.positionOf account).holding asset.other).debtAmount
      = .ok charge)
    (taken : (book.ledger asset).Debit real charge ((book.positionOf account).holding asset) after
      ledger)
    : after.debtAmount = 0 := by
  rcases collateralOf_ok known with rfl | ⟨whole, charge', holds, charged', rfl⟩
  · exact absurd (Nat.le_zero.mp enough) nonzero
  · obtain rfl := Except.ok.inj (charged.symm.trans charged')
    exact debtAmount_of_debit_within holds enough nonzero taken

/-- A debit keeps the book consistent. The fee holder may only be debited what it holds. -/
theorem Consistent.debit (consistent : book.Consistent (some account))
    (debited : Book.debit account asset real book = .ok () book')
    (feeBound : account = .feeHolder →
      ∃ available, book.collateralOf account asset = .ok available ∧ real ≤ available)
    : book'.Consistent (some account) := by
  rcases debit_ok debited with
    ⟨_, rfl⟩ | ⟨nonzero, charge, after, ledger, other, otherLedger, charged, taken, rebased, sided,
      rfl⟩
  · exact consistent
  · have same := rebased.debtAmount_eq
    refine (rebooked_rebook taken.exchanges.normalized rebased.exchanges).consistent consistent ?_
      ?_ (.inl rfl)
    · intro side
      rw [debtAmount_rebook, debtAmount_rebook, Holding.debtAmount_normalized]
      cases asset <;> cases side <;> simp only [Asset.other] at sided ⊢ <;> grind
    · intro isFeeHolder side
      obtain ⟨available, known, enough⟩ := feeBound isFeeHolder
      have cleared := debtAmount_of_debit_available known enough nonzero charged taken
      subst isFeeHolder
      have before := consistent.positionOf_feeHolder asset.other
      rw [debtAmount_rebook, Holding.debtAmount_normalized, same]
      split <;> omega

/-- Where everybody holds and owes the same, only the seats are left to check. -/
theorem Reranked.consistent (reranked : book.Reranked book') {stale' : Option AccountId}
    (consistent : book.Consistent stale) (seated : book'.Seated stale')
    : book'.Consistent stale' := by
  refine ⟨seated, ?_, ?_, ?_, ?_⟩
  · intro asset
    rw [reranked.ledger, consistent.collateralTallied]
    exact (reranked.sums fun holdings => (holdings.get asset).collateralAmount).symm
  · intro asset
    rw [reranked.ledger, consistent.debtTallied]
    exact (reranked.sums fun holdings => (holdings.get asset).debtAmount).symm
  · intro account position found asset
    obtain ⟨before, foundBefore, same⟩ := reranked.exists_before found
    have sided := consistent.oneSided account before foundBefore asset
    simpa only [Position.holding, same] using sided
  · intro position found asset
    obtain ⟨before, foundBefore, same⟩ := reranked.exists_before found
    have clear := consistent.feeHolderClear before foundBefore asset
    simpa only [Position.holding, same] using clear

/-- Seating the account anew makes the book consistent in everything. -/
theorem Consistent.reseat (consistent : book.Consistent (some account))
    : (book.reseat account).Consistent none :=
  (book.reranked_reseat account).consistent consistent consistent.seated.reseat

-----
-- Positions leave and change hands
-----

/-- Removing an account's position takes its holdings out of the totals and its node out of its
heap.
-/
theorem removePosition_ok (removed : removePosition account book = .ok () book')
    : book.position? account = none ∧ book' = book
      ∨ ∃ position baseLedger quoteLedger evicted, book.position? account = some position
          ∧ (book.ledger .base).Exchanges baseLedger (position.holding .base) .empty
          ∧ (book.ledger .quote).Exchanges quoteLedger (position.holding .quote) .empty
          ∧ (evicted = match ((book.setLedger .base baseLedger).setLedger .quote
                quoteLedger).heapSide? account position.heapIndex with
              | some asset => ((book.setLedger .base baseLedger).setLedger .quote
                  quoteLedger).unseat asset position.heapIndex
              | none => (book.setLedger .base baseLedger).setLedger .quote quoteLedger)
          ∧ book' = evicted.erasePosition account := by
  simp only [removePosition, EStateM.bind_eq_ok, EStateM.get_eq_ok] at removed
  obtain ⟨_, _, ⟨rfl, rfl⟩, removed⟩ := removed
  cases found : book.position? account with
  | none =>
      simp only [found, EStateM.pure_eq_ok] at removed
      exact .inl ⟨rfl, removed.2.symm⟩
  | some position =>
      rw [found] at removed
      simp only [modifyLedger, EStateM.bind_eq_ok, EStateM.get_eq_ok, EStateM.lift_eq_ok,
        EStateM.set_eq_ok, EStateM.modify_eq_ok] at removed
      obtain ⟨_, _, ⟨_, _, ⟨rfl, rfl⟩, baseLedger, _, ⟨releasedBase, rfl⟩, rfl⟩, _, _,
        ⟨_, _, ⟨rfl, rfl⟩, quoteLedger, _, ⟨releasedQuote, rfl⟩, rfl⟩, rfl⟩ := removed
      exact .inr ⟨position, baseLedger, quoteLedger, _, rfl, Ledger.release_ok releasedBase,
        Ledger.release_ok releasedQuote, rfl, rfl⟩

/-- An account's position left the book, and with it all it held and owed. -/
structure Removed (book : Book) (account : AccountId) (position : Position) (book' : Book)
    : Prop where
  exchanged
    : ∀ asset, (book.ledger asset).Exchanges (book'.ledger asset) (position.holding asset) .empty
  sums
    : ∀ measure : PerAsset Holding → Nat,
        book'.positions.sumOf (fun position => measure position.holdings)
          + measure position.holdings
          = book.positions.sumOf fun position => measure position.holdings
  holdings
    : ∀ other, (book'.position? other).map Position.holdings
        = if account = other then none else (book.position? other).map Position.holdings

/-- Whoever has a position afterwards had one of the same holdings before. -/
theorem Removed.exists_before {position : Position} (gone : book.Removed account position book')
    (other : AccountId) (remaining : Position) (found : book'.position? other = some remaining)
    : ∃ before, book.position? other = some before ∧ before.holdings = remaining.holdings := by
  have same := gone.holdings other
  rw [found, Option.map_some] at same
  split at same
  · cases same
  · exact Option.map_eq_some_iff.mp same.symm

/-- Removing a position takes what it held and owed out of the totals and leaves all others alone.
-/
theorem removed_of_removePosition (removed : removePosition account book = .ok () book')
    : book.position? account = none ∧ book' = book
      ∨ ∃ position, book.position? account = some position
          ∧ book.Removed account position book' := by
  rcases removePosition_ok removed with
    ⟨absent, rfl⟩ | ⟨position, baseLedger, quoteLedger, evicted, found, base, quote, evicting, rfl⟩
  · exact .inl ⟨absent, rfl⟩
  · refine .inr ⟨position, found, ?_⟩
    generalize middle_eq : (book.setLedger .base baseLedger).setLedger .quote quoteLedger = middle
      at evicting
    have foundMiddle : middle.position? account = some position := middle_eq ▸ found
    have reranked : middle.Reranked evicted := by
      subst evicting
      split
      · exact middle.reranked_applyUpdate _ _
      · exact .refl middle
    have heldEvicted := reranked.holdings account
    rw [foundMiddle, Option.map_some] at heldEvicted
    obtain ⟨last, foundEvicted, sameHoldings⟩ := Option.map_eq_some_iff.mp heldEvicted
    refine ⟨?_, ?_, ?_⟩
    · intro asset
      rw [ledger_erasePosition, reranked.ledger, ← middle_eq]
      cases asset with
      | base => exact base
      | quote => exact quote
    · intro measure
      have erased := evicted.positions.sumOf_erase (fun position => measure position.holdings)
        account
      rw [AccountTable.measureAt, show evicted.positions.get? account = _ from foundEvicted,
        Option.elim_some, sameHoldings, reranked.sums, ← middle_eq] at erased
      rw [positions_erasePosition]
      exact erased
    · intro other
      rw [position?_erasePosition]
      split
      · rfl
      · rw [reranked.holdings, ← middle_eq]
        rfl

/-- Removing a position frees its seat. -/
theorem Seated.removePosition (seated : book.Seated none)
    (removed : Book.removePosition account book = .ok () book')
    : book'.Seated none := by
  rcases removePosition_ok removed with
    ⟨_, rfl⟩ | ⟨position, baseLedger, quoteLedger, evicted, found, _, _, evicting, rfl⟩
  · exact seated
  · have exchanged : ((book.setLedger .base baseLedger).setLedger .quote quoteLedger).Seated
        (some account) :=
      (seated.loosen account).of_same (fun _ => rfl) rfl
    obtain ⟨kept, nowhere, _, _⟩ := exchanged.evict found evicting
    exact kept.erase nowhere

/-- Removing a position keeps the book consistent: what it held and owed leaves the totals with it.
-/
theorem Consistent.removePosition (consistent : book.Consistent none)
    (removed : Book.removePosition account book = .ok () book')
    : book'.Consistent none := by
  have seated := consistent.seated.removePosition removed
  rcases removed_of_removePosition removed with ⟨_, rfl⟩ | ⟨position, _, gone⟩
  · exact consistent
  · refine ⟨seated, ?_, ?_, ?_, ?_⟩
    · intro asset
      have sum := gone.sums fun holdings => (holdings.get asset).collateralAmount
      have exchange := (gone.exchanged asset).collateral
      rw [consistent.collateralTallied] at exchange
      simp only [collateralSum, Position.holding, Holding.empty, Holding.collateralAmount]
        at sum exchange ⊢
      omega
    · intro asset
      have sum := gone.sums fun holdings => (holdings.get asset).debtAmount
      have exchange := (gone.exchanged asset).debt
      rw [consistent.debtTallied] at exchange
      simp only [debtSum, Position.holding, Holding.empty, Holding.debtAmount] at sum exchange ⊢
      omega
    · intro other remaining foundAfter asset
      obtain ⟨before, foundBefore, same⟩ := gone.exists_before other remaining foundAfter
      have sided := consistent.oneSided other before foundBefore asset
      simpa only [Position.holding, same] using sided
    · intro remaining foundAfter asset
      obtain ⟨before, foundBefore, same⟩ := gone.exists_before _ remaining foundAfter
      have clear := consistent.feeHolderClear before foundBefore asset
      simpa only [Position.holding, same] using clear

/-- Dropping a position does nothing, or removes one that has not started. -/
theorem dropIfEmpty_ok (dropped : Book.dropIfEmpty account book = .ok () book')
    : book' = book
      ∨ book.kindOf account = .uninitialized
          ∧ Book.removePosition account book = .ok () book' := by
  simp only [Book.dropIfEmpty, EStateM.bind_eq_ok, EStateM.get_eq_ok] at dropped
  obtain ⟨_, _, ⟨rfl, rfl⟩, dropped⟩ := dropped
  split at dropped
  · next unstarted => exact .inr ⟨unstarted, dropped⟩
  · exact .inl (EStateM.pure_eq_ok.mp dropped).2.symm

theorem Consistent.dropIfEmpty (consistent : book.Consistent none)
    (dropped : Book.dropIfEmpty account book = .ok () book')
    : book'.Consistent none := by
  rcases dropIfEmpty_ok dropped with rfl | ⟨_, removed⟩
  · exact consistent
  · exact consistent.removePosition removed

theorem positions_handOver (bad : Position) (badAccount receiver : AccountId)
    : (book.handOver bad badAccount receiver).positions
      = ((book.positions.erase receiver).erase badAccount).insert receiver bad := by
  unfold handOver
  split <;> simp [setHeap]

/-- A position that has not started holds nothing. -/
theorem amounts_of_uninitialized {position : Position} (unstarted : position.kind = .uninitialized)
    (asset : Asset)
    : (position.holding asset).collateralAmount = 0 ∧ (position.holding asset).debtAmount = 0 := by
  obtain ⟨⟨base, quote⟩, slot⟩ := position
  unfold Position.kind Holding.isDebt Holding.isZero at unstarted
  cases asset <;> cases base <;> cases quote <;>
    simp only [Position.holding, PerAsset.get, Holding.amount, Holding.debtAmount,
      Holding.collateralAmount] at unstarted ⊢ <;>
    grind

/-- An account that has not started has no other position. -/
theorem kind_of_unstarted {position : Position} (unstarted : book.kindOf account = .uninitialized)
    (found : book.position? account = some position)
    : position.kind = .uninitialized := by
  simpa only [kindOf, found] using unstarted

/-- Who has not started holds and owes nothing, with a position or without. -/
theorem amounts_of_unstarted (unstarted : book.kindOf account = .uninitialized) (asset : Asset)
    : ((book.positionOf account).holding asset).collateralAmount = 0
      ∧ ((book.positionOf account).holding asset).debtAmount = 0 := by
  rcases book.positionOf_cases account with found | ⟨_, empty⟩
  · exact amounts_of_uninitialized (kind_of_unstarted unstarted found) asset
  · rw [empty]
    cases asset <;> exact ⟨rfl, rfl⟩

/-- A takeover keeps every sum to which nothing is added for who has not started. -/
theorem sumOf_handOver {bad : Position} {badAccount receiver : AccountId}
    (found : book.position? badAccount = some bad) (owes : bad.kind.debtAsset? = some asset)
    (unstarted : book.kindOf receiver = .uninitialized) {measure : Position → Nat}
    (nothing : ∀ position, position.kind = .uninitialized → measure position = 0)
    : (book.handOver bad badAccount receiver).positions.sumOf measure
      = book.positions.sumOf measure := by
  have different : receiver ≠ badAccount := by
    rintro rfl
    rw [kind_of_unstarted unstarted found] at owes
    cases owes
  have inserted := ((book.positions.erase receiver).erase badAccount).sumOf_insert measure
    receiver bad
  have erasedBad := (book.positions.erase receiver).sumOf_erase measure badAccount
  have erased := book.positions.sumOf_erase measure receiver
  have worthless : book.positions.measureAt measure receiver = 0 := by
    unfold AccountTable.measureAt
    cases foundReceiver : book.positions.get? receiver with
    | none => rfl
    | some position => exact nothing position (kind_of_unstarted unstarted foundReceiver)
  have worth : (book.positions.erase receiver).measureAt measure badAccount = measure bad := by
    rw [AccountTable.measureAt, AccountTable.get?_erase, if_neg different,
      show book.positions.get? badAccount = some bad from found]
    rfl
  have gone : ((book.positions.erase receiver).erase badAccount).measureAt measure receiver
      = 0 := by
    rw [AccountTable.measureAt, AccountTable.get?_erase, AccountTable.get?_erase]
    split <;> simp
  rw [positions_handOver]
  omega

/-- A takeover by an account that holds nothing keeps the book consistent. -/
theorem Consistent.handOver (consistent : book.Consistent none) {bad : Position}
    {badAccount receiver : AccountId} (found : book.position? badAccount = some bad)
    (owes : bad.kind.debtAsset? = some asset) (unstarted : book.kindOf receiver = .uninitialized)
    (notFee : receiver ≠ .feeHolder)
    : (book.handOver bad badAccount receiver).Consistent none := by
  have nowhere : ∀ other, receiver ∉ (book.heap other).accounts :=
    consistent.seated.not_mem_of_unleveraged nofun fun position foundReceiver => by
      rw [kind_of_unstarted unstarted foundReceiver]
      rfl
  have lookups := book.position?_handOver bad badAccount receiver
  refine ⟨consistent.seated.handOver found owes nowhere, ?_, ?_, ?_, ?_⟩
  · intro side
    rw [ledger_handOver, consistent.collateralTallied]
    exact (sumOf_handOver found owes unstarted fun position empty =>
      (amounts_of_uninitialized empty side).1).symm
  · intro side
    rw [ledger_handOver, consistent.debtTallied]
    exact (sumOf_handOver found owes unstarted fun position empty =>
      (amounts_of_uninitialized empty side).2).symm
  · intro account position foundAfter
    rw [lookups] at foundAfter
    split at foundAfter
    · obtain rfl := Option.some.inj foundAfter
      exact consistent.oneSided badAccount bad found
    · split at foundAfter
      · cases foundAfter
      · exact consistent.oneSided account position foundAfter
  · intro position foundAfter
    rw [lookups, if_neg notFee] at foundAfter
    split at foundAfter
    · cases foundAfter
    · exact consistent.feeHolderClear position foundAfter

end Keeping

end Book

end MarginLending
