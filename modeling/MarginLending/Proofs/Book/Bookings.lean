import MarginLending.Proofs.Book.Fields
import MarginLending.Proofs.Ledger
import MarginLending.Proofs.Tables

/-!
Credits and debits as bookings. Each replaces one position, and in both assets the totals follow the
holdings, so the books of the whole pool stay balanced.
-/

namespace MarginLending

namespace Position

@[simp] theorem holding_setHolding_same (position : Position) (asset : Asset) (holding : Holding)
    : (position.setHolding asset holding).holding asset = holding :=
  PerAsset.get_set_same _ _ _

@[simp] theorem holding_setHolding_of_other (position : Position) (asset : Asset)
    (holding : Holding)
    : (position.setHolding asset.other holding).holding asset = position.holding asset :=
  PerAsset.get_other_set _ _ _

/-- A position owes nothing exactly when no holding of it is debt. -/
theorem debtAsset?_eq_none_iff {position : Position}
    : position.kind.debtAsset? = none ↔ ∀ asset, (position.holding asset).debtAmount = 0 := by
  constructor
  · intro unleveraged asset
    unfold kind Holding.isDebt at unleveraged
    cases asset <;> simp only [holding, PerAsset.get] <;> grind [PositionKind.debtAsset?]
  · intro noDebt
    have base := noDebt .base
    have quote := noDebt .quote
    simp only [holding, PerAsset.get] at base quote
    unfold kind Holding.isDebt
    grind [PositionKind.debtAsset?]

/-- The asset that a leveraged position owes is debt. -/
theorem debtAmount_pos_of_debtAsset? {position : Position} {asset : Asset}
    (owes : position.kind.debtAsset? = some asset)
    : 0 < (position.holding asset).debtAmount := by
  unfold kind Holding.isDebt at owes
  cases asset <;> simp only [holding, PerAsset.get] <;> grind [PositionKind.debtAsset?]

end Position

namespace Book

/-- The position of an account, an empty one for an account that has none. -/
def positionOf (book : Book) (account : AccountId) : Position :=
  (book.position? account).getD .empty

/-- One account's holdings and the totals of both ledgers were changed together, and nothing else.
-/
structure Rebooked (book : Book) (account : AccountId) (after : Position) (book' : Book)
    : Prop where
  heaps : book'.heaps = book.heaps
  positions : book'.positions = book.positions.insert account after
  slot : after.heapIndex = (book.positionOf account).heapIndex
  booked
    : ∀ asset, (book.ledger asset).Exchanges (book'.ledger asset)
        ((book.positionOf account).holding asset) (after.holding asset)

/-- The book in which an account's holdings and the ledgers of both assets are replaced. -/
def rebook (book : Book) (account : AccountId) (asset : Asset) (ledger otherLedger : Ledger)
    (holding otherHolding : Holding)
    : Book :=
  ((book.setLedger asset ledger).setLedger asset.other otherLedger).putPosition account
    (((book.positionOf account).setHolding asset holding).setHolding asset.other otherHolding)

section Rebooking

variable {book book' : Book} {account : AccountId} {asset : Asset} {real : Nat}
  {ledger otherLedger : Ledger} {holding otherHolding : Holding}

@[simp] theorem ledger_rebook_same
    : (book.rebook account asset ledger otherLedger holding otherHolding).ledger asset
      = ledger := by
  simp [rebook]

@[simp] theorem ledger_rebook_other
    : (book.rebook account asset ledger otherLedger holding otherHolding).ledger asset.other
      = otherLedger := by
  simp [rebook]

theorem rebooked_rebook
    (booked : (book.ledger asset).Exchanges ledger ((book.positionOf account).holding asset)
      holding)
    (bookedOther : (book.ledger asset.other).Exchanges otherLedger
      ((book.positionOf account).holding asset.other) otherHolding)
    : book.Rebooked account
        (((book.positionOf account).setHolding asset holding).setHolding asset.other otherHolding)
        (book.rebook account asset ledger otherLedger holding otherHolding) := by
  refine ⟨?_, positions_putPosition _ _ _, rfl, fun other => ?_⟩
  · unfold rebook
    rw [putPosition_eq]
    rfl
  · rcases asset.eq_or_eq_other other with rfl | rfl
    · rw [ledger_rebook_same, Position.holding_setHolding_of_other,
        Position.holding_setHolding_same]
      exact booked
    · rw [ledger_rebook_other, Position.holding_setHolding_same]
      exact bookedOther

/-- A credit of nothing does nothing; any other one credits the holding and rebases the other one.
-/
theorem credit_ok (credited : credit account asset real book = .ok () book')
    : real = 0 ∧ book' = book
      ∨ real ≠ 0 ∧ ∃ after ledger other otherLedger,
          (book.ledger asset).Credit real ((book.positionOf account).holding asset) after ledger
          ∧ (book.ledger asset.other).Rebase ((book.positionOf account).holding asset).debtAmount
              after.debtAmount ((book.positionOf account).holding asset.other) other otherLedger
          ∧ book' = book.rebook account asset ledger otherLedger after.normalized other := by
  unfold credit at credited
  split at credited
  · next nothing =>
      simp only [EStateM.pure_eq_ok] at credited
      exact .inl ⟨nothing, credited.2.symm⟩
  · next some =>
      simp only [EStateM.bind_eq_ok, EStateM.get_eq_ok, EStateM.lift_eq_ok, EStateM.set_eq_ok]
        at credited
      obtain ⟨_, _, ⟨rfl, rfl⟩, ⟨after, ledger⟩, _, ⟨paid, rfl⟩, ⟨other, otherLedger⟩, _,
        ⟨rebased, rfl⟩, rfl⟩ := credited
      have rebase := Ledger.rebase_ok rebased
      rw [Holding.debtAmount_normalized] at rebase
      exact .inr
        ⟨some, after, ledger, other, otherLedger, Ledger.creditHolding_ok paid, rebase, rfl⟩

/-- A debit of nothing does nothing; any other one debits the holding, rebases the other one, and
leaves debt on one side at most.
-/
theorem debit_ok (debited : debit account asset real book = .ok () book')
    : real = 0 ∧ book' = book
      ∨ real ≠ 0 ∧ ∃ charge after ledger other otherLedger,
          (book.ledger asset).charge ((book.positionOf account).holding asset.other).debtAmount
            = .ok charge
          ∧ (book.ledger asset).Debit real charge ((book.positionOf account).holding asset) after
              ledger
          ∧ (book.ledger asset.other).Rebase ((book.positionOf account).holding asset).debtAmount
              after.debtAmount ((book.positionOf account).holding asset.other) other otherLedger
          ∧ (after.debtAmount = 0 ∨ other.debtAmount = 0)
          ∧ book' = book.rebook account asset ledger otherLedger after.normalized other := by
  unfold debit at debited
  split at debited
  · next nothing =>
      simp only [EStateM.pure_eq_ok] at debited
      exact .inl ⟨nothing, debited.2.symm⟩
  · next some =>
      simp only [EStateM.bind_eq_ok, EStateM.get_eq_ok, EStateM.lift_eq_ok, EStateM.set_eq_ok]
        at debited
      obtain ⟨_, _, ⟨rfl, rfl⟩, charge, _, ⟨charged, rfl⟩, ⟨after, ledger⟩, _, ⟨taken, rfl⟩,
        ⟨other, otherLedger⟩, _, ⟨rebased, rfl⟩, _, _, rfl, debited⟩ := debited
      have rebase := Ledger.rebase_ok rebased
      rw [Holding.debtAmount_normalized] at rebase
      split at debited
      · exact (EStateM.throw_eq_ok.mp debited).elim
      · next oneSided =>
          simp only [EStateM.pure_eq_ok] at debited
          obtain ⟨_, rfl⟩ := debited
          refine .inr ⟨some, charge, after, ledger, other, otherLedger, charged,
            Ledger.debitHolding_ok taken, rebase, ?_, rfl⟩
          simp only [Holding.isDebt, Holding.debtAmount_normalized, Bool.and_eq_true,
            decide_eq_true_eq] at oneSided
          omega

end Rebooking

/-- Two books hold and owe the same; at most heaps and slots differ. -/
structure Reranked (book book' : Book) : Prop where
  ledgers : book'.ledgers = book.ledgers
  holdings
    : ∀ account, (book'.position? account).map Position.holdings
        = (book.position? account).map Position.holdings
  sums
    : ∀ measure : PerAsset Holding → Nat,
        book'.positions.sumOf (fun position => measure position.holdings)
          = book.positions.sumOf fun position => measure position.holdings

theorem Reranked.refl (book : Book) : book.Reranked book := ⟨rfl, fun _ => rfl, fun _ => rfl⟩

theorem Reranked.trans {first second third : Book} (before : first.Reranked second)
    (after : second.Reranked third)
    : first.Reranked third where
  ledgers := after.ledgers.trans before.ledgers
  holdings account := (after.holdings account).trans (before.holdings account)
  sums measure := (after.sums measure).trans (before.sums measure)

theorem Reranked.ledger {book book' : Book} (reranked : book.Reranked book') (asset : Asset)
    : book'.ledger asset = book.ledger asset :=
  congrArg (PerAsset.get · asset) reranked.ledgers

/-- Whoever has a position afterwards had one of the same holdings before. -/
theorem Reranked.exists_before {book book' : Book} (reranked : book.Reranked book')
    {account : AccountId} {position : Position} (found : book'.position? account = some position)
    : ∃ before, book.position? account = some before ∧ before.holdings = position.holdings := by
  have same := reranked.holdings account
  rw [found, Option.map_some] at same
  exact Option.map_eq_some_iff.mp same.symm

section Reranking

variable (book : Book) (account : AccountId)

/-- A replayed move changes a slot only. -/
theorem reranked_applyMove (move : Move) : book.Reranked (book.applyMove move) := by
  constructor
  · unfold applyMove
    split
    · rw [putPosition_eq]
    · rfl
  · intro account
    rw [position?_applyMove, Option.map_map]
    rfl
  · intro measure
    unfold applyMove
    split
    · next position found =>
        have sums := book.positions.sumOf_insert (fun position => measure position.holdings)
          move.account { position with heapIndex := move.slot }
        simp only [AccountTable.measureAt, show book.positions.get? move.account = some position
          from found, Option.elim_some] at sums
        rw [positions_putPosition]
        omega
    · rfl

theorem reranked_applyUpdate {α : Type} (asset : Asset) (update : HeapUpdate α)
    : book.Reranked (book.applyUpdate asset update) := by
  have replayed : ∀ (moves : List Move) (start : Book),
      start.Reranked (moves.foldl applyMove start) := by
    intro moves
    induction moves with
    | nil => exact Reranked.refl
    | cons move rest ih => exact fun start => (start.reranked_applyMove move).trans (ih _)
  have relaid : book.Reranked (book.setHeap asset update.heap) :=
    ⟨rfl, fun _ => rfl, fun _ => rfl⟩
  exact relaid.trans (replayed update.moves _)

/-- Seating an account anew changes heaps and slots only, in each of its cases. -/
theorem reranked_reseat : book.Reranked (book.reseat account) := by
  unfold reseat
  split
  · exact .refl book
  · simp only
    split
    · split
      · exact book.reranked_applyUpdate _ _
      · exact .refl book
    · split <;> split
      · exact (book.reranked_applyUpdate _ _).trans (reranked_applyUpdate _ _ _)
      · exact book.reranked_applyUpdate _ _
      · exact book.reranked_applyUpdate _ _
      · exact .refl book

end Reranking

end Book

end MarginLending
