import MarginLending.Proofs.Book.Writes
import MarginLending.Proofs.Heap.Rollback
import MarginLending.Proofs.Tables

/-!
The journal of a book. While it is open, what the book was at its opening can be read off the
journal and the book together, and every write keeps it so. Rolling back then undoes any sequence of
writes.
-/

namespace MarginLending

namespace Book

/-- No journal is open, neither of the book nor of a heap. -/
structure Settled (book : Book) : Prop where
  journal : book.journal = none
  heaps : ∀ asset, (book.heap asset).journal = none

/-- A book with an open journal from which rolling back brings the original book back. -/
structure Restores (origin : Book) (book : Book) (journal : BookJournal) : Prop where
  opened : book.journal = some journal
  fields
    : journal = { journal with
        parameters := origin.parameters
        ledgers := origin.ledgers
        leverage := origin.leverage
        lastAccrual := origin.lastAccrual
        mode := origin.mode
        snapshot := origin.snapshot }
  heaps : ∀ asset, LeverageHeap.Restores (origin.heap asset).nodes (book.heap asset)
  positions
    : ∀ account, (journal.positions.get? account).getD (book.position? account)
        = origin.position? account

theorem restores_openJournal (book : Book)
    : ∃ journal, Restores book book.openJournal journal := by
  refine ⟨_, rfl, rfl, ?_, fun account => rfl⟩
  intro asset
  have opened : book.openJournal.heap asset = (book.heap asset).openJournal :=
    PerAsset.get_map _ _ _
  rw [opened]
  exact LeverageHeap.restores_openJournal _

theorem get?_restorePosition (positions : AccountTable Position)
    (entry : AccountId × Option Position) (account : AccountId)
    : (restorePosition positions entry).get? account
      = if entry.1 = account then entry.2 else positions.get? account := by
  obtain ⟨key, position⟩ := entry
  cases position with
  | none => exact AccountTable.get?_erase positions key account
  | some position => exact AccountTable.get?_insert positions key account position

/-- Putting journalled entries back sets exactly the accounts listed, by induction on the list. -/
theorem get?_foldl_restorePosition {entries : List (AccountId × Option Position)}
    (sorted : entries.Pairwise fun a b => a.1.number < b.1.number)
    (positions : AccountTable Position) (account : AccountId)
    : (entries.foldl restorePosition positions).get? account
      = (AccountTable.lookupIn account entries).getD (positions.get? account) := by
  induction entries generalizing positions with
  | nil => rfl
  | cons head rest ih =>
      obtain ⟨key, position⟩ := head
      obtain ⟨above, later⟩ := List.pairwise_cons.mp sorted
      rw [List.foldl_cons, ih later, get?_restorePosition, AccountTable.lookupIn]
      split
      · next same =>
          subst same
          rw [AccountTable.lookupIn_of_forall_lt above]
          rfl
      · rfl

/-- Rolling back brings a book without open journals back as it was. -/
theorem Restores.rollback_eq {origin book : Book} {journal : BookJournal}
    (restores : Restores origin book journal) (settled : origin.Settled)
    : book.rollback = origin := by
  have heaps : book.heaps.map LeverageHeap.rollback = origin.heaps := by
    apply PerAsset.ext_get
    intro asset
    rw [PerAsset.get_map]
    refine (restores.heaps asset).rollback_eq.trans ?_
    have closed := settled.heaps asset
    change (⟨(origin.heap asset).nodes, none⟩ : LeverageHeap) = origin.heap asset
    rw [← closed]
  have positions : journal.positions.entries.foldl restorePosition book.positions
      = origin.positions := by
    refine AccountTable.ext_get? ?_
    intro account
    rw [get?_foldl_restorePosition journal.positions.sorted]
    exact restores.positions account
  simp only [rollback, restores.opened, heaps, positions]
  rw [restores.fields, ← settled.journal]

-----
-- Every write leaves the journal able to restore
-----

section Writes

variable {origin book book' : Book} {journal : BookJournal}

/-- A write that leaves positions, heaps and journal alone keeps what rolling back restores. -/
theorem Restores.of_same (restores : Restores origin book journal)
    (opened : book'.journal = book.journal) (heaps : book'.heaps = book.heaps)
    (positions : book'.positions = book.positions)
    : Restores origin book' journal where
  opened := opened.trans restores.opened
  fields := restores.fields
  heaps asset := by
    rw [show book'.heap asset = book.heap asset from congrArg (PerAsset.get · asset) heaps]
    exact restores.heaps asset
  positions account := by
    rw [position?, positions]
    exact restores.positions account

/-- A journalled account may get any position: only its first one counts. -/
theorem Restores.touched (restores : Restores origin book journal) (account : AccountId)
    (positions : AccountTable Position)
    (others : ∀ other, other ≠ account → positions.get? other = book.position? other)
    : ∃ touched, Restores origin { book with positions, journal := (book.touch account).journal }
        touched := by
  unfold touch
  rw [restores.opened]
  simp only
  cases known : journal.positions.get? account with
  | some prior =>
      refine ⟨journal, restores.opened, restores.fields, restores.heaps, ?_⟩
      intro other
      have before := restores.positions other
      rcases decEq other account with different | rfl
      · rw [← others other different] at before
        exact before
      · rw [known] at before ⊢
        exact before
  | none =>
      refine ⟨_, rfl, ?_, restores.heaps, ?_⟩
      · rw [restores.fields]
      · intro other
        have before := restores.positions other
        simp only [AccountTable.get?_insert]
        rcases decEq other account with different | rfl
        · rw [if_neg (Ne.symm different)]
          rw [← others other different] at before
          exact before
        · rw [known] at before
          rw [if_pos rfl]
          exact before

/-- Every write keeps what rolling back restores, in each of its cases. -/
theorem Restores.write (restores : Restores origin book journal) (written : book.Write book')
    : ∃ journal', Restores origin book' journal' := by
  cases written with
  | ledger asset ledger => exact ⟨journal, restores.of_same rfl rfl rfl⟩
  | put account position =>
      rw [putPosition_eq]
      apply restores.touched account _
      intro other different
      rw [AccountTable.get?_insert, if_neg different.symm, position?]
  | erase account =>
      rw [erasePosition_eq]
      apply restores.touched account _
      intro other different
      rw [AccountTable.get?_erase, if_neg different.symm, position?]
  | heap asset rewritten =>
      refine ⟨journal, restores.opened, restores.fields, ?_, restores.positions⟩
      intro other
      rcases asset.eq_or_eq_other other with rfl | rfl
      · rw [heap_setHeap_same]
        exact (restores.heaps other).rewrite rewritten
      · rw [heap_setHeap_other]
        exact restores.heaps asset.other
  | leverage leverage => exact ⟨journal, restores.of_same rfl rfl rfl⟩
  | accrued time => exact ⟨journal, restores.of_same rfl rfl rfl⟩
  | frozen asset snapshot => exact ⟨journal, restores.of_same rfl rfl rfl⟩
  | parameters valid => exact ⟨journal, restores.of_same rfl rfl rfl⟩

/-- A sequence of writes keeps what rolling back restores, by induction on the sequence. -/
theorem Restores.writes (restores : Restores origin book journal) (written : book.Writes book')
    : ∃ journal', Restores origin book' journal' := by
  induction written with
  | refl => exact ⟨journal, restores⟩
  | tail _ last ih =>
      obtain ⟨_, kept⟩ := ih
      exact kept.write last

/-- Rolling back after any sequence of writes brings the book back as it was at the opening. -/
theorem rollback_of_writes (settled : book.Settled) (written : book.openJournal.Writes book')
    : book'.rollback = book := by
  obtain ⟨_, opened⟩ := restores_openJournal book
  obtain ⟨_, kept⟩ := opened.writes written
  exact kept.rollback_eq settled

theorem settled_commit (book : Book) : book.commit.Settled := by
  refine ⟨rfl, ?_⟩
  intro asset
  change ((book.heaps.map LeverageHeap.commit).get asset).journal = none
  rw [PerAsset.get_map]
  rfl

theorem settled_new (parameters : Parameters) (start : Timestamp)
    : (Book.new parameters start).Settled := by
  refine ⟨rfl, ?_⟩
  intro asset
  change ((PerAsset.both LeverageHeap.empty).get asset).journal = none
  rw [PerAsset.get_both]
  rfl

end Writes

end Book

end MarginLending
