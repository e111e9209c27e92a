import MarginLending.Proofs.Book.Income
import MarginLending.Proofs.Pool.MarginCalls

/-!
Margin calls and accrual conserve value. In exact numbers, what backs an asset beyond its collateral
falls by less than one unit in a margin call, however the seized collateral is sold or kept and
whoever bears the shortfall: only the debt of the position itself is rounded against the pool, and
every gain and loss is booked in full. What accrual adds to the collateral, it adds to the debt.
-/

namespace MarginLending

/-- The charge on a position's collateral in an asset does not exceed the collateral before it. -/
def Book.ChargeCovered (book : Book) (position : Position) (asset : Asset) : Prop :=
  (book.ledger asset).chargeCoeff.raw * (position.holding asset.other).debtAmount
    ≤ (book.ledger asset).collateralCoeff.raw * (position.holding asset).collateralAmount

namespace Pool

section Surplus

variable {V : Type} {pool pool' : Pool V} {terms : Terms} {account : AccountId} {asset : Asset}
  {shortfall kept : Nat}

/-- A leveraged position leaves less than a token more than its real debt missing, and at least its
real collateral over, as long as its charge is covered.
-/
theorem reserve_removed (consistent : pool.book.Consistent none) {position : Position}
    {debtAsset : Asset} {seized debt : Nat} {removed : Book}
    (found : pool.book.position? account = some position)
    (owes : position.kind.debtAsset? = some debtAsset)
    (covered : pool.book.ChargeCovered position debtAsset.other)
    (holds : pool.book.collateralIn position debtAsset.other = .ok seized)
    (owed : pool.book.debtIn position debtAsset = .ok debt)
    (removes : Book.removePosition account pool.book = .ok () removed)
    : pool.book.reserve debtAsset < removed.reserve debtAsset + (debt + 1) * Q96.unit
      ∧ pool.book.reserve debtAsset.other + seized * Q96.unit
        ≤ removed.reserve debtAsset.other := by
  rcases Book.removed_of_removePosition removes with ⟨absent, _⟩ | ⟨position', found', gone⟩
  · rw [found] at absent
    cases absent
  · obtain rfl := Option.some.inj (found.symm.trans found')
    obtain ⟨noCollateral, noOtherDebt⟩ := sides_of_debtor consistent found owes
    have here := gone.reserve debtAsset
    have there := gone.reserve debtAsset.other
    have bounds := (Ledger.realDebt_bounds owed).2
    have claimed := Ledger.netCollateral_le_claim holds
    unfold Book.ChargeCovered at covered
    unfold Ledger.claim at claimed
    simp only [Asset.other_other, noCollateral, noOtherDebt] at here there covered claimed
    -- the claim is a difference cut off at zero, and a covered charge is not cut off
    zify [covered] at claimed
    constructor
    · push_cast at here
      linarith
    · push_cast at there
      linarith

/-- A sale of seized collateral moves the collateral and the proceeds, and what is kept moves
nothing.
-/
theorem reserve_sellSeized [Venue V] {seized : Nat} {proceeds : Option Nat}
    (sold : sellSeized terms asset seized pool = .ok proceeds pool')
    : pool'.book.reserve asset
        = pool.book.reserve asset - (if proceeds.isSome then seized else 0 : Nat) * Q96.unit
      ∧ pool'.book.reserve asset.other
        = pool.book.reserve asset.other + (proceeds.getD 0 : Nat) * Q96.unit := by
  rcases sellSeized_ok sold with
    ⟨rfl, rfl, rfl⟩ | ⟨rfl, venue, rfl⟩ | ⟨floor, fill, venue, settled, honoured, settles, rfl, rfl⟩
  · exact ⟨by simp, by simp⟩
  · exact ⟨by simp, by simp⟩
  · obtain ⟨out, into⟩ := Book.reserve_settle settles
    have amountIn := SwapOrder.amountIn_of_sell honoured
    simp only [SwapOrder.sell, amountIn] at out into
    exact ⟨by simpa using out, by simpa using into⟩

/-- After the sale the debt's reserve lacks what stays unpaid less the surplus, and less than a
token more; the kept collateral is over in the other one.
-/
theorem reserve_seize [Venue V] (consistent : pool.book.Consistent none) {position : Position}
    {debtAsset : Asset} {seized debt : Nat} {removed : Book} {proceeds : Option Nat} {sold : Pool V}
    (found : pool.book.position? account = some position)
    (owes : position.kind.debtAsset? = some debtAsset)
    (covered : pool.book.ChargeCovered position debtAsset.other)
    (holds : pool.book.collateralIn position debtAsset.other = .ok seized)
    (owed : pool.book.debtIn position debtAsset = .ok debt)
    (removes : Book.removePosition account pool.book = .ok () removed)
    (sells : sellSeized terms debtAsset.other seized (pool.withBook removed) = .ok proceeds sold)
    : pool.book.reserve debtAsset + (Recovery.of proceeds debt seized).surplus * Q96.unit
        < sold.book.reserve debtAsset
          + ((Recovery.of proceeds debt seized).shortfall + 1) * Q96.unit
      ∧ pool.book.reserve debtAsset.other + (Recovery.of proceeds debt seized).kept * Q96.unit
        ≤ sold.book.reserve debtAsset.other := by
  obtain ⟨here, there⟩ := reserve_removed consistent found owes covered holds owed removes
  obtain ⟨out, into⟩ := reserve_sellSeized sells
  obtain ⟨balance, _, kept⟩ := recovery_balance proceeds debt seized
  rw [Asset.other_other] at into
  rw [book_withBook] at out into
  zify at balance
  have paid := congrArg (fun amount : Int => amount * Q96.unit) balance
  simp only [add_mul] at paid
  constructor
  · linarith
  · rw [kept]
    split at out
    · next sold =>
        rw [if_pos sold]
        push_cast
        linarith
    · next unsold =>
        rw [if_neg unsold]
        push_cast at out
        linarith

/-- A shortfall charged to counterparties is booked in full, and so is the kept collateral. -/
theorem reserve_chargeCounterparties (consistent : pool.book.Consistent none)
    (charged : chargeCounterparties asset shortfall kept pool = .ok () pool')
    : pool.book.reserve asset + shortfall * Q96.unit ≤ pool'.book.reserve asset
      ∧ pool.book.reserve asset.other ≤ pool'.book.reserve asset.other + kept * Q96.unit := by
  obtain ⟨raised, debt, relieved, book', raises, _, relieves, shares, rfl⟩ :=
    chargeCounterparties_ok charged
  have atRelieved := (consistent.chargeBorrowers raises).relieveDebt relieves
  -- no more debt is written off than was kept, and the lenders get exactly the rest
  have within : min kept (debt - 1) ≤ kept := Nat.min_le_left _ _
  generalize min kept (debt - 1) = relief at *
  rw [← Book.ledger_chargeBorrowers_other raises] at relieves
  obtain ⟨raisedHere, raisedThere⟩ := Book.reserve_chargeBorrowers raises
  obtain ⟨relievedThere, relievedHere⟩ := Book.reserve_relieveDebt relieves
  obtain ⟨sharedThere, sharedHere⟩ := Book.reserve_shareAmongLenders atRelieved shares
  rw [Asset.other_other] at relievedHere sharedHere
  zify [within] at sharedThere
  simp only [book_recording, book_withBook]
  constructor
  · linarith
  · linarith

/-- A shortfall charged to the same side is booked in full, unless the pool freezes. -/
theorem reserve_chargeSameSide (consistent : pool.book.Consistent none)
    (charged : chargeSameSide terms asset shortfall kept pool = .ok () pool')
    (regular : pool'.book.mode.isEmergency = false)
    : pool.book.reserve asset + shortfall * Q96.unit ≤ pool'.book.reserve asset
      ∧ pool.book.reserve asset.other ≤ pool'.book.reserve asset.other + kept * Q96.unit := by
  obtain ⟨shared, shares, ⟨_, froze⟩ | ⟨_, book', raises, rfl⟩⟩ := chargeSameSide_ok charged
  · obtain ⟨_, _, rfl⟩ := freeze_ok froze
    cases asset <;> cases regular
  · obtain ⟨sharedThere, sharedHere⟩ := Book.reserve_shareAmongLenders consistent shares
    obtain ⟨raisedHere, raisedThere⟩ := Book.reserve_raiseDebt raises
    rw [Asset.other_other] at sharedHere
    simp only [book_recording, book_withBook]
    constructor
    · linarith
    · linarith

theorem reserve_placeShortfall (consistent : pool.book.Consistent none)
    (placed : placeShortfall terms asset shortfall kept pool = .ok () pool')
    (regular : pool'.book.mode.isEmergency = false)
    : pool.book.reserve asset + shortfall * Q96.unit ≤ pool'.book.reserve asset
      ∧ pool.book.reserve asset.other ≤ pool'.book.reserve asset.other + kept * Q96.unit := by
  obtain ⟨_, _, ⟨_, _, charged⟩ | charged⟩ := placeShortfall_ok placed
  · exact reserve_chargeCounterparties consistent charged
  · exact reserve_chargeSameSide consistent charged regular

/-- A margin call takes less than a token from the reserve of the debt and nothing from the other
one.
-/
theorem reserve_marginCall [Venue V] (consistent : pool.book.Consistent none) {position : Position}
    {debtAsset : Asset} (found : pool.book.position? account = some position)
    (owes : position.kind.debtAsset? = some debtAsset)
    (covered : pool.book.ChargeCovered position debtAsset.other)
    (called : marginCall terms account pool = .ok () pool')
    (regular : pool'.book.mode.isEmergency = false)
    : pool.book.reserve debtAsset < pool'.book.reserve debtAsset + Q96.unit
      ∧ pool.book.reserve debtAsset.other ≤ pool'.book.reserve debtAsset.other := by
  obtain ⟨position', debtAsset', seized, debt, removed, proceeds, sold, shared, payload, found',
    owes', holds, owed, removes, sells, sharing, placing⟩ := marginCall_ok called
  obtain rfl := Option.some.inj (found.symm.trans found')
  obtain rfl := Option.some.inj (owes.symm.trans owes')
  obtain ⟨here, there⟩ := reserve_seize consistent found owes covered holds owed removes sells
  have atSold : sold.book.Consistent none :=
    consistent_sellSeized (by exact consistent.removePosition removes) sells
  generalize Recovery.of proceeds debt seized = recovery at *
  have positive : (0 : Int) < Q96.unit := by exact_mod_cast Q96.unit_pos
  have keptUp : (0 : Int) ≤ recovery.kept * Q96.unit :=
    mul_nonneg (Int.natCast_nonneg _) positive.le
  have gained : shared.Consistent none
      ∧ sold.book.reserve debtAsset ≤ shared.reserve debtAsset + recovery.surplus * Q96.unit
      ∧ shared.reserve debtAsset.other = sold.book.reserve debtAsset.other := by
    rcases sharing with ⟨_, shares⟩ | ⟨none, rfl⟩
    · exact ⟨atSold.shareAmongLenders shares, Book.reserve_shareAmongLenders atSold shares⟩
    · exact ⟨atSold, by rw [none]; omega, rfl⟩
  obtain ⟨atShared, sharedHere, sharedThere⟩ := gained
  rcases placing with ⟨_, placed⟩ | ⟨none, rfl⟩
  · obtain ⟨placedHere, placedThere⟩ :=
      reserve_placeShortfall (by exact atShared) placed regular
    rw [book_recording, book_withBook] at placedHere placedThere
    constructor
    · linarith
    · linarith
  · rw [none] at here
    push_cast at here
    rw [book_recording, book_withBook]
    constructor
    · linarith
    · linarith

/-- Across a margin call that leaves the pool regular, the surplus of each asset falls by less than
one unit, as long as the charge of the account does not exceed its collateral before it.
-/
theorem surplus_marginCall [Venue V] (inPass : InPass pool) {position : Position}
    {debtAsset : Asset} (found : pool.book.position? account = some position)
    (owes : position.kind.debtAsset? = some debtAsset)
    (covered : pool.book.ChargeCovered position debtAsset.other)
    (called : marginCall terms account pool = .ok () pool')
    (regular : pool'.book.mode.isEmergency = false) (asset : Asset)
    : pool.book.surplus asset - 1 < pool'.book.surplus asset := by
  obtain ⟨here, there⟩ :=
    reserve_marginCall inPass.sturdy.consistent found owes covered called regular
  apply Book.surplus_lt_of_reserve
  rcases debtAsset.eq_or_eq_other asset with rfl | rfl
  · exact here
  · have positive : (0 : Int) < Q96.unit := by exact_mod_cast Q96.unit_pos
    linarith

end Surplus

/-- The kept collateral and the raised debt of the first trader make up for the debt that goes. -/
theorem surplus_marginCall_halted
    : ∃ pool', marginCall riseTerms ⟨21⟩ haltedRise = .ok () pool'
        ∧ (pool'.book.ledger .base).debtCoeff ≠ (haltedRise.book.ledger .base).debtCoeff
        ∧ ∀ asset, haltedRise.book.surplus asset - 1 < pool'.book.surplus asset := by
  obtain ⟨position, found, owes, _⟩ := debtor_haltedRise
  have called : marginCall riseTerms ⟨21⟩ haltedRise
      = .ok () (endState (marginCall riseTerms ⟨21⟩ haltedRise)) := by decide +kernel
  have regular : (endState (marginCall riseTerms ⟨21⟩ haltedRise)).book.mode.isEmergency
      = false := by
    decide +kernel
  have raised : ((endState (marginCall riseTerms ⟨21⟩ haltedRise)).book.ledger .base).debtCoeff
      ≠ (haltedRise.book.ledger .base).debtCoeff := by decide +kernel
  have uncharged : (haltedRise.book.ledger .quote).chargeCoeff.raw = 0 := by decide +kernel
  have covered : haltedRise.book.ChargeCovered position .quote := by
    unfold Book.ChargeCovered
    rw [uncharged, Nat.zero_mul]
    exact Nat.zero_le _
  have reachable : Reachable haltedRise := reachable_sample.after _
  exact ⟨_, called, raised,
    fun asset => surplus_marginCall reachable.inPass found owes covered called regular asset⟩

/-- Accrual creates no unbacked claims. Over any time for which it goes through, the real collateral
in an asset that somebody owes grows by less than its real debt, one unit, and the fee's growth
factor and one for each fraction of a token of discounted debt.
-/
theorem accrual_is_backed {V : Type} [Venue V] {pool : Pool V} (reachable : Reachable pool)
    {seconds : Nat} {price : Q96} {book : Book}
    (accrued : Book.accrueFor seconds price pool.book = .ok () book) {asset : Asset}
    (owes : 0 < (pool.book.ledger asset).discountedDebt)
    : ∃ annual growth held heldAfter owed owedAfter,
        pool.book.parameters.annualFee = .ok annual ∧ growthFactor annual seconds = .ok growth
        ∧ (pool.book.ledger asset).realCollateral (pool.book.ledger asset).discountedCollateral
          = .ok held
        ∧ (book.ledger asset).realCollateral (book.ledger asset).discountedCollateral
          = .ok heldAfter
        ∧ (pool.book.ledger asset).totalRealDebt = .ok owed
        ∧ (book.ledger asset).totalRealDebt = .ok owedAfter
        ∧ (heldAfter - held : ℚ) < owedAfter - owed + 1
          + (growth.toRat + 1) * (pool.book.ledger asset).discountedDebt / 2 ^ 96 := by
  have grown := Book.increase_accrueFor reachable.sound.consistent accrued owes
  have unit : ((Q96.unit : Nat) : ℚ) = 2 ^ 96 := by norm_num [Q96.unit, Q96.fractionBits]
  rwa [unit] at grown

/-- The book of the sample trades a year later. -/
def sampleYear : Book :=
  endState (Book.accrueFor secondsInYear .one (sample.after sampleTrades).book)

/-- In a year the sample's collateral in base grows by 512, and the debt by 513. -/
theorem accrual_is_backed_sample
    : Book.accrueFor secondsInYear .one (sample.after sampleTrades).book = .ok () sampleYear
      ∧ (sampleYear.ledger .base).totalRealDebt = .ok 6513
      ∧ ∃ annual growth, sample.book.parameters.annualFee = .ok annual
          ∧ growthFactor annual secondsInYear = .ok growth
          ∧ (10512 - 10000 : ℚ) < 6513 - 6000 + 1 + (growth.toRat + 1) * 6000 / 2 ^ 96 := by
  have accrued : Book.accrueFor secondsInYear .one (sample.after sampleTrades).book
      = .ok () sampleYear := by decide +kernel
  have debt : ((sample.after sampleTrades).book.ledger .base).discountedDebt = 6000 := by
    decide +kernel
  have before : ((sample.after sampleTrades).book.ledger .base).realCollateral
        ((sample.after sampleTrades).book.ledger .base).discountedCollateral = .ok 10000
      ∧ ((sample.after sampleTrades).book.ledger .base).totalRealDebt = .ok 6000 := by
    decide +kernel
  have after
      : (sampleYear.ledger .base).realCollateral (sampleYear.ledger .base).discountedCollateral
          = .ok 10512
      ∧ (sampleYear.ledger .base).totalRealDebt = .ok 6513 := by decide +kernel
  have owes : 0 < ((sample.after sampleTrades).book.ledger .base).discountedDebt := by omega
  have parameters : (sample.after sampleTrades).book.parameters = sample.book.parameters := by
    decide +kernel
  obtain ⟨annual, growth, held, heldAfter, owed, owedAfter, fee, factor, holds, holdsAfter, owing,
    owingAfter, increase⟩ := accrual_is_backed (reachable_sample.after sampleTrades) accrued owes
  obtain rfl := Except.ok.inj (before.1.symm.trans holds)
  obtain rfl := Except.ok.inj (before.2.symm.trans owing)
  obtain rfl := Except.ok.inj (after.1.symm.trans holdsAfter)
  obtain rfl := Except.ok.inj (after.2.symm.trans owingAfter)
  rw [parameters] at fee
  rw [debt] at increase
  exact ⟨accrued, after.2, annual, growth, fee, factor, by exact_mod_cast increase⟩

end Pool

end MarginLending
