import MarginLending.Proofs.Pool.Backing
import MarginLending.Proofs.Pool.Runs

/-!
When a margin call that charges the counterparties is cut in full: whenever the charge of every
borrower stays within the collateral it is taken from. A charge beyond that is floored at zero, and
what it was to cut there is cut from nobody. A run is cut in full if all its charges can be borne.
-/

namespace MarginLending

namespace Book

section Covers

variable {book book' : Book} {asset : Asset} {account : AccountId} {chargeCoeff : Q96}

/-- At a charge coefficient the charge of every position stays within its collateral. -/
def Covers (book : Book) (asset : Asset) (chargeCoeff : Q96) : Prop :=
  ∀ position ∈ book.positions.values,
    chargeCoeff.raw * (position.holding asset.other).debtAmount
      ≤ (book.ledger asset).collateralCoeff.raw * (position.holding asset).collateralAmount

theorem Covers.of_same (covers : book.Covers asset chargeCoeff)
    (coeff : (book'.ledger asset).collateralCoeff = (book.ledger asset).collateralCoeff)
    (positions : book'.positions = book.positions)
    : book'.Covers asset chargeCoeff := by
  unfold Covers at covers ⊢
  rwa [coeff, positions]

/-- A removed position leaves all others as they were. -/
theorem Covers.removePosition (covers : book.Covers asset chargeCoeff)
    (removed : Book.removePosition account book = .ok () book')
    : book'.Covers asset chargeCoeff := by
  rcases removed_of_removePosition removed with ⟨_, rfl⟩ | ⟨_, _, gone⟩
  · exact covers
  · intro position member
    obtain ⟨account, found⟩ := AccountTable.mem_values_iff.mp member
    obtain ⟨before, foundBefore, holdings⟩ := gone.exists_before account position found
    have within := covers before (AccountTable.mem_values_iff.mpr ⟨account, foundBefore⟩)
    have coeff : (book'.ledger asset).collateralCoeff = (book.ledger asset).collateralCoeff := by
      rw [(gone.exchanged asset).rest]
    unfold Position.holding at within ⊢
    rwa [coeff, ← holdings]

/-- Tokens that come and go change neither coefficients nor positions. -/
theorem Covers.settle (covers : book.Covers asset chargeCoeff) {order : SwapOrder} {fill : Fill}
    (settled : Book.settle order fill book = .ok () book')
    : book'.Covers asset chargeCoeff := by
  obtain ⟨middle, out, into⟩ := settle_ok settled
  obtain ⟨_, rfl⟩ := payOut_ok out
  obtain rfl := payIn_ok into
  refine covers.of_same ?_ rfl
  rcases order.tokenIn.eq_or_eq_other asset with rfl | rfl
  · rw [ledger_other_setLedger, ledger_setLedger_same]
  · rw [ledger_setLedger_same, ledger_setLedger_other]

/-- A charge that everybody can bear cuts claims by the whole shortfall: by the coefficient, rounded
up, for all debt that it is charged to.
-/
theorem claims_chargeBorrowers (consistent : book.Consistent none) {shortfall : Nat}
    (charged : chargeBorrowers asset shortfall (book.ledger asset.other).discountedDebt book
      = .ok () book')
    (covers : book.Covers asset (book'.ledger asset).chargeCoeff)
    : book'.claims asset + shortfall * Q96.unit ≤ book.claims asset := by
  obtain ⟨cut, coeff, quotient, sum, rfl⟩ := chargeBorrowers_ok charged
  have raised : coeff.raw = (book.ledger asset).chargeCoeff.raw + cut := (Q96.add_eq_ok.mp sum).2
  have whole := (mulDivUp_ok quotient).2.1
  rw [consistent.debtTallied asset.other] at whole
  refine Nat.le_trans (Nat.add_le_add_left whole _) ?_
  unfold claims
  rw [ledger_setLedger_same] at covers ⊢
  apply AccountTable.sumOf_add_mul_le book.positions
  intro position member
  have within := covers position member
  unfold Ledger.claim
  simp only [raised, Nat.add_mul] at within ⊢
  omega

end Covers

end Book

namespace Pool

section Cuts

variable {V : Type} {pool pool' : Pool V} {terms : Terms} {account : AccountId} {asset : Asset}
  {shortfall kept : Nat} {chargeCoeff : Q96} {calls : List (Pool V × Pool V)}

/-- Every borrower can bear what a margin call charged to the counterparties. -/
def Bearable (before after : Pool V) : Prop :=
  ∀ loss, EventPayload.deleverage loss ∈ recordedSince before after →
    loss.absorbedBy = .counterparties → before.book.Covers loss.asset loss.chargeCoeff

/-- Placing a shortfall is reported once. A report that names counterparties names what was charged
to them, and claims fell by all of it if everybody could bear that.
-/
theorem claims_placeShortfall (consistent : pool.book.Consistent none)
    (placed : placeShortfall terms asset shortfall kept pool = .ok () pool')
    : ∃ payload, pool'.pending = pool.pending ++ [payload]
        ∧ ∀ loss, payload = .deleverage loss → loss.absorbedBy = .counterparties →
            loss.asset = asset ∧ loss.shortfall = shortfall
              ∧ (pool.book.Covers asset loss.chargeCoeff →
                pool'.book.claims asset + shortfall * Q96.unit ≤ pool.book.claims asset) := by
  obtain ⟨_, _, ⟨_, _, charged⟩ | charged⟩ := placeShortfall_ok placed
  · obtain ⟨raised, debt, relieved, book', raises, _, relieves, shares, rfl⟩ :=
      chargeCounterparties_ok charged
    have atRelieved := (consistent.chargeBorrowers raises).relieveDebt relieves
    have claims := Book.claims_shareAmongLenders_other atRelieved shares
    rw [Asset.other_other, Book.claims_relieveDebt relieves] at claims
    refine ⟨_, rfl, ?_⟩
    intro loss reported _
    obtain rfl := EventPayload.deleverage.inj reported
    refine ⟨rfl, rfl, ?_⟩
    intro covers
    rw [Pool.book_recording, Pool.book_withBook, claims]
    exact Book.claims_chargeBorrowers consistent raises covers
  · obtain ⟨shared, _, ⟨_, froze⟩ | ⟨_, book', _, rfl⟩⟩ := chargeSameSide_ok charged
    · obtain ⟨_, _, rfl⟩ := freeze_ok froze
      exact ⟨_, rfl, fun _ reported => nomatch reported⟩
    · refine ⟨_, rfl, ?_⟩
      intro loss reported absorbed
      obtain rfl := EventPayload.deleverage.inj reported
      cases absorbed

theorem covers_sellSeized [Venue V] {side : Asset} {seized : Nat} {proceeds : Option Nat}
    (covers : pool.book.Covers asset chargeCoeff)
    (sold : sellSeized terms side seized pool = .ok proceeds pool')
    : pool'.book.Covers asset chargeCoeff := by
  rcases sellSeized_ok sold with
    ⟨_, _, rfl⟩ | ⟨_, _, rfl⟩ | ⟨_, _, _, _, _, settles, _, rfl⟩
  · exact covers
  · exact covers
  · exact covers.settle settles

/-- A margin call is cut in full if every borrower could bear what was charged to the
counterparties.
-/
theorem cutInFull_of_bearable [Venue V] (consistent : pool.book.Consistent none)
    (called : marginCall terms account pool = .ok () pool') (bearable : Bearable pool pool')
    : CutInFull asset pool pool' := by
  obtain ⟨position, debtAsset, seized, debt, removed, proceeds, sold, shared, payload, found, owes,
    holds, owed, removes, sells, sharing, placing⟩ := marginCall_ok called
  obtain ⟨_, _, claimsRemoved⟩ := gap_removed consistent found owes holds owed removes
  obtain ⟨_, _, claimsSold, pending, _⟩ := gap_sellSeized sells
  obtain ⟨_, oneOf, _⟩ := recovery_balance proceeds debt seized
  have soldConsistent : sold.book.Consistent none :=
    consistent_sellSeized (by exact consistent.removePosition removes) sells
  rw [Asset.other_other] at claimsSold
  intro loss recorded ofAsset absorbed
  have covers := bearable loss recorded absorbed
  rcases placing with ⟨unpaid, placed⟩ | ⟨_, rfl⟩
  · -- A shortfall leaves no surplus, so that the pool is the one after the sale.
    have unshared : shared = sold.book := by
      rcases sharing with ⟨gains, _⟩ | ⟨_, same⟩
      · omega
      · exact same
    subst unshared
    obtain ⟨report, reported, borne⟩ := claims_placeShortfall (by exact soldConsistent) placed
    have member : EventPayload.deleverage loss ∈ [EventPayload.marginCall payload, report] := by
      rw [recordedSince, reported] at recorded
      simpa [recording, withBook, pending] using recorded
    have isReport : EventPayload.deleverage loss = report := by simpa using member
    obtain ⟨sameAsset, sameShortfall, cut⟩ := borne loss isReport.symm absorbed
    rw [sameAsset] at covers
    have bears : sold.book.Covers debtAsset loss.chargeCoeff :=
      covers_sellSeized (by exact covers.removePosition removes) sells
    have cut := cut bears
    rw [Pool.book_recording, Pool.book_withBook, claimsSold, Pool.book_withBook,
      claimsRemoved] at cut
    rwa [← ofAsset, sameAsset, sameShortfall]
  · simp [recordedSince, recording, withBook, pending] at recorded

/-- A chain of margin calls whose charges can be borne is cut in full: each of them leaves a
consistent book to the next one.
-/
theorem Liquidation.cutInFull [Venue V] (chain : Liquidation terms pool calls pool')
    (consistent : pool.book.Consistent none) (bearable : ∀ call ∈ calls, Bearable call.1 call.2)
    : ∀ call ∈ calls, CutInFull asset call.1 call.2 := by
  have borne : ∀ call ∈ calls, Bearable call.1 call.2 → CutInFull asset call.1 call.2 := by
    refine chain.forall_calls (P := fun pool => pool.book.Consistent none)
      (R := fun before after => Bearable before after → CutInFull asset before after)
      consistent ?_ ?_
    · intro account before after consistent called
      exact ⟨consistent_marginCall consistent called, cutInFull_of_bearable consistent called⟩
    · exact fun consistent refreshed => consistent.refreshLeverage refreshed
  exact fun call member => borne call member (bearable call member)

theorem Updates.cutInFull [Venue V] (updates : Updates terms pool calls pool')
    (consistent : pool.book.Consistent none) (bearable : ∀ call ∈ calls, Bearable call.1 call.2)
    : ∀ call ∈ calls, CutInFull asset call.1 call.2 := by
  cases updates with
  | current => exact List.forall_mem_nil _
  | accrued accrues chain => exact chain.cutInFull (consistent.accrue accrues) bearable

theorem Acts.cutInFull [Venue V] (acts : Acts pool calls pool')
    (consistent : pool.book.Consistent none) (bearable : ∀ call ∈ calls, Bearable call.1 call.2)
    : ∀ call ∈ calls, CutInFull asset call.1 call.2 := by
  cases acts with
  | leave => exact List.forall_mem_nil _
  | update _ _ updates => exact updates.cutInFull consistent bearable
  | operate _ _ updates => exact updates.cutInFull consistent bearable
  | freeze _ updates => exact updates.cutInFull consistent bearable
  | parameters => exact List.forall_mem_nil _

/-- So is a run, by induction on the run: every pool in it has a consistent book. -/
theorem Run.cutInFull [Venue V] {records : List (CallRecord V)} (run : Run pool records)
    (bearable : ∀ record ∈ records, ∀ call ∈ record.marginCalls, Bearable call.1 call.2)
    : ∀ record ∈ records, ∀ call ∈ record.marginCalls, CutInFull asset call.1 call.2 := by
  induction run with
  | new => exact List.forall_mem_nil _
  | committed before acts _ ih =>
      obtain ⟨here, earlier⟩ := List.forall_mem_cons.mp bearable
      have consistent := before.reachable.sound.consistent.openJournal
      exact List.forall_mem_cons.mpr ⟨acts.cutInFull consistent here, ih earlier⟩
  | failed _ _ ih => exact ih bearable
  | setTime _ _ ih => exact ih bearable
  | changeVenue _ _ ih => exact ih bearable

end Cuts

end Pool

end MarginLending
