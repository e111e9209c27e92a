import MarginLending.Proofs.Book.Entries

/-!
The way out of a frozen book. An account leaves with its share of the frozen balances. The share
rests on the snapshot, on the coefficients and on what the account holds and owes itself, and nobody
who leaves changes any of these for those who stay. Shares are rounded down, so they never add up to
more than the balances.
-/

namespace MarginLending

-----
-- Parts of a frozen balance
-----

namespace Snapshot

section Parts

variable {snapshot : Snapshot} {asset : Asset} {netValue : Nat}

/-- The part of a frozen balance that a worth is entitled to; nothing if nobody is worth anything.
-/
def part (snapshot : Snapshot) (asset : Asset) (netValue : Nat) : Nat :=
  snapshot.balances.get asset * min netValue snapshot.totalNetValue / snapshot.totalNetValue

theorem part_le_balance : snapshot.part asset netValue ≤ snapshot.balances.get asset := by
  refine Nat.div_le_of_le_mul ?_
  rw [Nat.mul_comm]
  exact Nat.mul_le_mul_right _ (Nat.min_le_right ..)

/-- A part is no more than what its worth is of the total. -/
theorem total_mul_part_le
    : snapshot.totalNetValue * snapshot.part asset netValue
      ≤ snapshot.balances.get asset * netValue :=
  Nat.le_trans (Nat.mul_div_le ..) (Nat.mul_le_mul_left _ (Nat.min_le_left ..))

theorem portion_eq (funded : snapshot.balances.get asset < amountLimit)
    (some : snapshot.totalNetValue ≠ 0)
    : snapshot.portion asset netValue = .ok (snapshot.part asset netValue) := by
  have small : snapshot.part asset netValue < amountLimit :=
    Nat.lt_of_le_of_lt part_le_balance funded
  have inWord : snapshot.part asset netValue < wordLimit := Nat.lt_trans small (by decide)
  exact Except.bind_eq_ok.mpr ⟨_, mulDiv_eq_ok_iff.mpr ⟨some, rfl, inWord⟩,
    Amount.ofWide_eq_ok_iff.mpr ⟨rfl, small⟩⟩

/-- Parts add up to no more than what the sum of the worths is of the total, by induction on the
worths.
-/
theorem total_mul_sum_part_le (snapshot : Snapshot) (asset : Asset) (worths : List Nat)
    : snapshot.totalNetValue * (worths.map (snapshot.part asset)).sum
      ≤ snapshot.balances.get asset * worths.sum := by
  induction worths with
  | nil => simp
  | cons worth rest ih =>
      have head : snapshot.totalNetValue * snapshot.part asset worth
          ≤ snapshot.balances.get asset * worth := total_mul_part_le
      rw [List.map_cons, List.sum_cons, List.sum_cons, Nat.mul_add, Nat.mul_add]
      omega

/-- If the total is the sum of the worths, their parts add up to no more than the balance. -/
theorem sum_part_le_balance {worths : List Nat} (exact : worths.sum = snapshot.totalNetValue)
    (asset : Asset)
    : (worths.map (snapshot.part asset)).sum ≤ snapshot.balances.get asset := by
  have scaled := snapshot.total_mul_sum_part_le asset worths
  rw [exact, Nat.mul_comm (snapshot.balances.get asset)] at scaled
  by_cases worthless : snapshot.totalNetValue = 0
  · have nothing : snapshot.part asset = fun _ => 0 := by
      funext worth
      simp [part, worthless]
    simp [nothing]
  · exact Nat.le_of_mul_le_mul_left scaled (Nat.pos_of_ne_zero worthless)

/-- Where the frozen balances are amounts, every worth has a share of them. -/
theorem shareOf_eq (funded : ∀ asset, snapshot.balances.get asset < amountLimit) (netValue : Nat)
    : snapshot.shareOf netValue
      = .ok ⟨snapshot.part .base netValue, snapshot.part .quote netValue⟩ := by
  unfold shareOf
  split
  · next worthless =>
      have nothing : ∀ asset, snapshot.part asset netValue = 0 := by
        intro asset
        unfold part
        rcases worthless with none | none <;> simp [none]
      rw [nothing, nothing]
      rfl
  · next worthy =>
      have some := (not_or.mp worthy).1
      rw [portion_eq (funded .base) some, portion_eq (funded .quote) some]
      rfl

end Parts

end Snapshot

-----
-- What positions are worth depends on the coefficients alone
-----

/-- The coefficients of a ledger, as a ledger of nobody. -/
def Ledger.rates (ledger : Ledger) : Ledger :=
  { ledger with discountedCollateral := 0, discountedDebt := 0, balance := 0 }

theorem Ledger.Exchanges.rates_eq {before after : Ledger} {old new : Holding}
    (exchanges : before.Exchanges after old new)
    : after.rates = before.rates := by
  rw [exchanges.rest]
  rfl

namespace Book

section Worth

variable {book book' : Book} {account : AccountId} {price : Q96}

/-- Under the same coefficients the same holdings amount to the same. -/
theorem collateralIn_congr {position position' : Position}
    (rates : ∀ asset, (book'.ledger asset).rates = (book.ledger asset).rates)
    (same : position'.holdings = position.holdings) (asset : Asset)
    : book'.collateralIn position' asset = book.collateralIn position asset := by
  change (book'.ledger asset).rates.netCollateral _ _ = (book.ledger asset).rates.netCollateral _ _
  rw [rates, Position.holding, Position.holding, Position.holding, Position.holding, same]

theorem debtIn_congr {position position' : Position}
    (rates : ∀ asset, (book'.ledger asset).rates = (book.ledger asset).rates)
    (same : position'.holdings = position.holdings) (asset : Asset)
    : book'.debtIn position' asset = book.debtIn position asset := by
  change (book'.ledger asset).rates.realDebt _ = (book.ledger asset).rates.realDebt _
  rw [rates, Position.holding, Position.holding, same]

/-- So they have the same worth. -/
theorem netValue_congr {position position' : Position}
    (rates : ∀ asset, (book'.ledger asset).rates = (book.ledger asset).rates)
    (same : position'.holdings = position.holdings) (price : Q96)
    : book'.netValue position' price = book.netValue position price := by
  unfold netValue
  rw [collateralIn_congr rates same, collateralIn_congr rates same, debtIn_congr rates same,
    debtIn_congr rates same]

/-- The worth of holdings, zero where it is unknown. -/
def worthOf (book : Book) (price : Q96) (holdings : PerAsset Holding) : Nat :=
  match book.netValue ⟨holdings, 0⟩ price with
  | .ok value => value
  | .error _ => 0

theorem worthOf_eq {position : Position} {value : Nat}
    (known : book.netValue position price = .ok value)
    : book.worthOf price position.holdings = value := by
  have same : book.netValue ⟨position.holdings, 0⟩ price = .ok value := known
  simp only [worthOf, same]

/-- Adding up worths with saturation adds them up as far as amounts go, by induction on the
positions.
-/
theorem foldlM_addSaturating {positions : List Position} {start total : Nat}
    (small : start ≤ Amount.max)
    (known : positions.foldlM (fun total position => do
      return Amount.addSaturating total (← book.netValue position price)) start = .ok total)
    : ∃ values, positions.mapM (fun position => book.netValue position price) = .ok values
        ∧ total = min (start + values.sum) Amount.max
        ∧ values = positions.map fun position => book.worthOf price position.holdings := by
  induction positions generalizing start with
  | nil =>
      obtain rfl := Except.pure_eq_ok.mp known
      exact ⟨[], rfl, (Nat.min_eq_left small).symm, rfl⟩
  | cons position rest ih =>
      simp only [List.foldlM_cons, Except.bind_eq_ok, Except.pure_eq_ok] at known
      obtain ⟨_, ⟨value, worth, rfl⟩, known⟩ := known
      obtain ⟨values, others, rfl, worths⟩ := ih (Nat.min_le_right ..) known
      refine ⟨value :: values, ?_, ?_, ?_⟩
      · simp only [List.mapM_cons, Except.bind_eq_ok, Except.pure_eq_ok]
        exact ⟨value, worth, values, others, rfl⟩
      · rw [List.sum_cons]
        omega
      · rw [List.map_cons, worthOf_eq worth, worths]

/-- Whoever is counted in the total has a known worth. -/
theorem netValue_eq_worthOf {positions : List Position} {values : List Nat}
    (known : positions.mapM (fun position => book.netValue position price) = .ok values)
    {position : Position} (member : position ∈ positions)
    : book.netValue position price = .ok (book.worthOf price position.holdings) := by
  induction positions generalizing values with
  | nil => cases member
  | cons first rest ih =>
      simp only [List.mapM_cons, Except.bind_eq_ok, Except.pure_eq_ok] at known
      obtain ⟨value, worth, others, known, _⟩ := known
      rcases List.mem_cons.mp member with rfl | later
      · rw [worthOf_eq worth, worth]
      · exact ih known later

end Worth

-----
-- Somebody leaves
-----

/-- What an account is paid when it leaves a frozen book: the share of its worth at the frozen
price.
-/
def shareAtExit (book : Book) (account : AccountId) : Except PoolError (PerAsset Nat) :=
  match book.snapshot, book.position? account with
  | none, _ => .error .notEmergency
  | some _, none => .error (.uninitializedPosition account)
  | some snapshot, some position => do
      let netValue ← book.netValue position snapshot.price
      return ← snapshot.shareOf netValue

/-- An account left a book with an amount of each asset. -/
structure Leaves (book : Book) (account : AccountId) (position : Position) (amounts : PerAsset Nat)
    (book' : Book) : Prop extends book.Steady book' where
  rates : ∀ asset, (book'.ledger asset).rates = (book.ledger asset).rates
  sums
    : ∀ measure : PerAsset Holding → Nat,
        book'.positions.sumOf (fun position => measure position.holdings)
          + measure position.holdings
          = book.positions.sumOf fun position => measure position.holdings
  holdings
    : ∀ other, (book'.position? other).map Position.holdings
        = if account = other then none else (book.position? other).map Position.holdings
  paid : ∀ asset, (book'.ledger asset).balance + amounts.get asset = (book.ledger asset).balance

section Leaving

variable {book book' removed basePaid quotePaid : Book} {account : AccountId} {asset : Asset}
  {position : Position} {amounts : PerAsset Nat}

theorem shareAtExit_eq_ok
    : book.shareAtExit account = .ok amounts
      ↔ ∃ snapshot position netValue, book.snapshot = some snapshot
          ∧ book.position? account = some position
          ∧ book.netValue position snapshot.price = .ok netValue
          ∧ snapshot.shareOf netValue = .ok amounts := by
  unfold shareAtExit
  cases book.snapshot with
  | none => simp
  | some snapshot =>
      cases book.position? account with
      | none => simp
      | some position =>
          simp only [Except.bind_eq_ok, Except.liftMath_eq_ok, Option.some.injEq]
          constructor
          · rintro ⟨netValue, worth, share⟩
            exact ⟨snapshot, position, netValue, rfl, rfl, worth, share⟩
          · rintro ⟨_, _, netValue, rfl, rfl, worth, share⟩
            exact ⟨netValue, worth, share⟩

/-- A holding that the totals cover can be released. -/
theorem release_isOk {ledger : Ledger} {holding : Holding}
    (collateral : holding.collateralAmount ≤ ledger.discountedCollateral)
    (debt : holding.debtAmount ≤ ledger.discountedDebt)
    : ∃ after, ledger.release holding = .ok after := by
  cases holding with
  | collateral amount => exact ⟨_, Ledger.removeCollateral_eq_ok.mpr ⟨collateral, rfl⟩⟩
  | debt amount => exact ⟨_, Ledger.removeDebt_eq_ok.mpr ⟨debt, rfl⟩⟩

/-- What one entry measures is no more than the sum. -/
theorem le_sumOf (found : book.position? account = some position) (measure : Position → Nat)
    : measure position ≤ book.positions.sumOf measure := by
  have erased := book.positions.sumOf_erase measure account
  rw [AccountTable.measureAt, show book.positions.get? account = _ from found, Option.elim_some]
    at erased
  omega

/-- The holdings of a position in a consistent book can be released. -/
theorem Consistent.release_isOk (consistent : book.Consistent none)
    (found : book.position? account = some position) (asset : Asset)
    : ∃ after, (book.ledger asset).release (position.holding asset) = .ok after := by
  refine Book.release_isOk ?_ ?_
  · rw [consistent.collateralTallied]
    exact le_sumOf found fun position => (position.holding asset).collateralAmount
  · rw [consistent.debtTallied]
    exact le_sumOf found fun position => (position.holding asset).debtAmount

/-- From a consistent book every position can be removed. -/
theorem Consistent.removePosition_isOk (consistent : book.Consistent none)
    (found : book.position? account = some position)
    : ∃ book', Book.removePosition account book = .ok () book' := by
  obtain ⟨base, releasesBase⟩ := consistent.release_isOk found .base
  obtain ⟨quote, releasesQuote⟩ := consistent.release_isOk found .quote
  unfold Book.removePosition
  rw [get_bind_apply]
  simp only [found]
  exact ⟨_, EStateM.bind_eq_ok.mpr ⟨(), _, modifyLedger_ok.mpr ⟨base, releasesBase, rfl⟩,
    EStateM.bind_eq_ok.mpr ⟨(), _, modifyLedger_ok.mpr ⟨quote, releasesQuote, rfl⟩,
      EStateM.modify_eq_ok.mpr rfl⟩⟩⟩

/-- A payment changes one balance and nothing else. -/
theorem ledger_payOut {amount : Nat} (paid : payOut asset amount book = .ok () book')
    (other : Asset)
    : (book'.ledger other).rates = (book.ledger other).rates
      ∧ (book'.ledger other).balance + (if other = asset then amount else 0)
        = (book.ledger other).balance := by
  obtain ⟨enough, rfl⟩ := payOut_ok paid
  rcases asset.eq_or_eq_other other with rfl | rfl
  · rw [ledger_setLedger_same, if_pos rfl]
    exact ⟨rfl, Nat.sub_add_cancel enough⟩
  · rw [ledger_setLedger_other, if_neg asset.other_ne]
    exact ⟨rfl, rfl⟩

/-- Removing a position and paying its share is leaving. -/
theorem leaves_of_payOut (found : book.position? account = some position)
    (removes : removePosition account book = .ok () removed)
    (paysBase : payOut .base amounts.base removed = .ok () basePaid)
    (paysQuote : payOut .quote amounts.quote basePaid = .ok () quotePaid)
    : book.Leaves account position amounts quotePaid := by
  rcases removed_of_removePosition removes with ⟨absent, _⟩ | ⟨position', found', gone⟩
  · rw [found] at absent
    cases absent
  obtain rfl := Option.some.inj (found.symm.trans found')
  have kept : quotePaid.positions = removed.positions := by
    obtain ⟨_, rfl⟩ := payOut_ok paysQuote
    obtain ⟨_, rfl⟩ := payOut_ok paysBase
    rfl
  have steady : book.Steady quotePaid :=
    (Steady.removePosition removes).trans ((Entry.place (.payOut paysBase)).steady.trans
      (Entry.place (.payOut paysQuote)).steady)
  refine ⟨steady, fun asset => ?_, ?_, ?_, fun asset => ?_⟩
  · rw [(ledger_payOut paysQuote asset).1, (ledger_payOut paysBase asset).1,
      (gone.exchanged asset).rates_eq]
  · rw [kept]
    exact gone.sums
  · unfold position?
    rw [kept]
    exact gone.holdings
  · have same := balance_removePosition removes asset
    have base := (ledger_payOut paysBase asset).2
    have quote := (ledger_payOut paysQuote asset).2
    cases asset <;> simp only [reduceCtorEq, if_true, if_false, PerAsset.get] at base quote ⊢ <;>
      omega

end Leaving

-----
-- A frozen book from its trip on
-----

/-- A book as it trips: the snapshot holds its balances and what all positions are worth. -/
structure Tripped (book : Book) (frozen : Snapshot) : Prop where
  stored : book.snapshot = some frozen
  emergency : book.mode.isEmergency = true
  balances : ∀ asset, frozen.balances.get asset = (book.ledger asset).balance
  total : book.totalNetValue frozen.price = .ok frozen.totalNetValue

/-- Two books with the same ledgers and positions in the same mode. -/
structure Unmoved (book book' : Book) : Prop extends book.Steady book' where
  ledgers : book'.ledgers = book.ledgers
  positions : book'.positions = book.positions

section Trips

variable {book book' tripped : Book} {frozen : Snapshot}

theorem Unmoved.ledger (unmoved : book.Unmoved book') (asset : Asset)
    : book'.ledger asset = book.ledger asset :=
  congrArg (PerAsset.get · asset) unmoved.ledgers

/-- What positions are worth is read off ledgers and positions. -/
theorem Unmoved.totalNetValue (unmoved : book.Unmoved book') (price : Q96)
    : book'.totalNetValue price = book.totalNetValue price := by
  have same : book'.netValue = book.netValue := by
    funext position price
    exact netValue_congr (fun asset => by rw [unmoved.ledger]) rfl price
  rw [Book.totalNetValue, Book.totalNetValue, unmoved.positions, same]

theorem Tripped.unmoved (trips : book.Tripped frozen) (unmoved : book.Unmoved book')
    : book'.Tripped frozen where
  stored := unmoved.snapshot.trans trips.stored
  emergency := by
    rw [unmoved.mode]
    exact trips.emergency
  balances asset := by
    rw [unmoved.ledger]
    exact trips.balances asset
  total := by
    rw [unmoved.totalNetValue]
    exact trips.total

/-- The worth of every position at a trip is known, and the total is their sum as far as amounts go.
-/
theorem Tripped.worths (trips : tripped.Tripped frozen)
    : ∃ worths,
        tripped.positions.values.mapM (fun position => tripped.netValue position frozen.price)
            = .ok worths
          ∧ frozen.totalNetValue = min worths.sum Amount.max
          ∧ worths = tripped.positions.values.map fun position =>
              tripped.worthOf frozen.price position.holdings := by
  obtain ⟨worths, known, total, same⟩ := foldlM_addSaturating (Nat.zero_le _) trips.total
  rw [Nat.zero_add] at total
  exact ⟨worths, known, total, same⟩

end Trips

/-- A tripped book after some exits: everybody who left was paid the share of the trip, once; the
others hold what they held, and the balances are what was not paid, which covers all shares to come.
-/
structure Exited (tripped : Book) (frozen : Snapshot) (paid : List (AccountId × PerAsset Nat))
    (book : Book) : Prop extends tripped.Steady book where
  rates : ∀ asset, (book.ledger asset).rates = (tripped.ledger asset).rates
  holdings
    : ∀ account, (book.position? account).map Position.holdings
        = if account ∈ paid.map Prod.fst then none
          else (tripped.position? account).map Position.holdings
  shares : ∀ exit ∈ paid, tripped.shareAtExit exit.1 = .ok exit.2
  once : (paid.map Prod.fst).Nodup
  spent
    : ∀ asset, (book.ledger asset).balance + (paid.map fun exit => exit.2.get asset).sum
        = frozen.balances.get asset
  covered
    : ∀ asset, (book.positions.sumOf fun position =>
          frozen.part asset (tripped.worthOf frozen.price position.holdings))
        ≤ (book.ledger asset).balance

section Exits

variable {tripped book book' : Book} {frozen : Snapshot} {paid : List (AccountId × PerAsset Nat)}
  {account : AccountId} {position : Position} {amounts : PerAsset Nat}

/-- At the trip nobody has left. -/
theorem Tripped.exited (trips : tripped.Tripped frozen) {worths : List Nat}
    (known : tripped.positions.values.mapM (fun position =>
      tripped.netValue position frozen.price) = .ok worths)
    (small : worths.sum < amountLimit)
    : tripped.Exited frozen [] tripped where
  toSteady := .refl tripped
  rates _ := rfl
  holdings _ := rfl
  shares _ member := nomatch member
  once := .nil
  spent asset := (trips.balances asset).symm
  covered asset := by
    obtain ⟨worths', known', total, same⟩ := trips.worths
    obtain rfl := Except.ok.inj (known.symm.trans known')
    have exact : worths.sum = frozen.totalNetValue := by
      unfold Amount.max at total
      omega
    rw [← trips.balances asset]
    have parts := Snapshot.sum_part_le_balance exact asset
    rw [same, List.map_map] at parts
    exact parts

/-- Nothing happened to what was and is to be paid. -/
theorem Exited.unmoved (exited : tripped.Exited frozen paid book) (unmoved : book.Unmoved book')
    : tripped.Exited frozen paid book' where
  toSteady := exited.toSteady.trans unmoved.toSteady
  rates asset := by rw [unmoved.ledger, exited.rates]
  holdings account := by
    rw [position?, unmoved.positions]
    exact exited.holdings account
  shares := exited.shares
  once := exited.once
  spent asset := by
    rw [unmoved.ledger]
    exact exited.spent asset
  covered asset := by
    rw [unmoved.ledger, unmoved.positions]
    exact exited.covered asset

/-- Whoever is still in held the same at the trip. -/
theorem Exited.found_at_trip (exited : tripped.Exited frozen paid book)
    (found : book.position? account = some position)
    : account ∉ paid.map Prod.fst
      ∧ ∃ before, tripped.position? account = some before
          ∧ before.holdings = position.holdings := by
  have same := exited.holdings account
  rw [found, Option.map_some] at same
  split at same
  · cases same
  · next staying => exact ⟨staying, Option.map_eq_some_iff.mp same.symm⟩

/-- The share of whoever is still in is the one of the trip. -/
theorem Exited.shareAtExit_eq (exited : tripped.Exited frozen paid book)
    (stored : tripped.snapshot = some frozen) (found : book.position? account = some position)
    : book.shareAtExit account = tripped.shareAtExit account := by
  obtain ⟨_, before, foundBefore, same⟩ := exited.found_at_trip found
  simp only [shareAtExit, exited.snapshot, stored, found, foundBefore,
    netValue_congr exited.rates same.symm]

/-- Everybody with a position at the trip has a share of balances that are amounts. -/
theorem Tripped.share (trips : tripped.Tripped frozen) (funded : tripped.Funded)
    (found : tripped.position? account = some position)
    : tripped.shareAtExit account
      = .ok ⟨frozen.part .base (tripped.worthOf frozen.price position.holdings),
          frozen.part .quote (tripped.worthOf frozen.price position.holdings)⟩ := by
  obtain ⟨worths, known, _⟩ := trips.worths
  have worth := netValue_eq_worthOf known (AccountTable.mem_values_iff.mpr ⟨account, found⟩)
  have inRange : ∀ asset, frozen.balances.get asset < amountLimit := by
    intro asset
    rw [trips.balances]
    exact funded asset
  simp only [shareAtExit, trips.stored, found, worth, Snapshot.shareOf_eq inRange]
  rfl

/-- Whoever is still in can be removed and paid its share. -/
theorem Exited.payable (exited : tripped.Exited frozen paid book) (trips : tripped.Tripped frozen)
    (funded : tripped.Funded) (consistent : book.Consistent none)
    (found : book.position? account = some position)
    : ∃ amounts removed basePaid quotePaid, book.shareAtExit account = .ok amounts
        ∧ removePosition account book = .ok () removed
        ∧ payOut .base amounts.base removed = .ok () basePaid
        ∧ payOut .quote amounts.quote basePaid = .ok () quotePaid := by
  obtain ⟨_, before, foundBefore, same⟩ := exited.found_at_trip found
  have share := trips.share funded foundBefore
  rw [same, ← exited.shareAtExit_eq trips.stored found] at share
  obtain ⟨removed, removes⟩ := consistent.removePosition_isOk found
  have enough : ∀ asset,
      frozen.part asset (tripped.worthOf frozen.price position.holdings)
        ≤ (removed.ledger asset).balance := by
    intro asset
    rw [balance_removePosition removes]
    exact Nat.le_trans (le_sumOf found fun position =>
      frozen.part asset (tripped.worthOf frozen.price position.holdings)) (exited.covered asset)
  obtain ⟨basePaid, paysBase⟩ := payOut_isOk (enough .base)
  -- Paying the base part leaves the quote balance as it was.
  have untouched : (basePaid.ledger .quote).balance = (removed.ledger .quote).balance :=
    (ledger_payOut paysBase .quote).2
  have enoughQuote : frozen.part .quote (tripped.worthOf frozen.price position.holdings)
      ≤ (basePaid.ledger .quote).balance := by
    rw [untouched]
    exact enough .quote
  obtain ⟨quotePaid, paysQuote⟩ := payOut_isOk enoughQuote
  exact ⟨_, removed, basePaid, quotePaid, share, removes, paysBase, paysQuote⟩

/-- One more exit: the share is paid, and the shares of the others stay covered. -/
theorem Exited.leave (exited : tripped.Exited frozen paid book) (trips : tripped.Tripped frozen)
    (funded : tripped.Funded) (found : book.position? account = some position)
    (share : book.shareAtExit account = .ok amounts)
    (leaves : book.Leaves account position amounts book')
    : tripped.Exited frozen (paid ++ [(account, amounts)]) book' := by
  obtain ⟨staying, before, foundBefore, same⟩ := exited.found_at_trip found
  rw [exited.shareAtExit_eq trips.stored found] at share
  have parts := trips.share funded foundBefore
  rw [share, Except.ok.injEq, same] at parts
  constructor
  · exact exited.toSteady.trans leaves.toSteady
  · intro asset
    rw [leaves.rates, exited.rates]
  · intro other
    simp only [leaves.holdings, List.map_append, List.map_cons, List.map_nil, List.mem_append,
      List.mem_singleton]
    by_cases here : account = other
    · rw [if_pos here, if_pos (.inr here.symm)]
    · simp only [if_neg here, exited.holdings, or_iff_left (Ne.symm here)]
  · intro exit member
    rcases List.mem_append.mp member with left | now
    · exact exited.shares exit left
    · obtain rfl := List.mem_singleton.mp now
      exact share
  · rw [List.map_append, List.map_singleton]
    refine List.nodup_append.mpr ⟨exited.once, List.pairwise_singleton _ _, ?_⟩
    intro earlier member now last same
    obtain rfl := List.mem_singleton.mp last
    exact staying (same ▸ member)
  · intro asset
    have spent := exited.spent asset
    have paying := leaves.paid asset
    simp only [List.map_append, List.map_cons, List.map_nil, List.sum_append, List.sum_cons,
      List.sum_nil]
    omega
  · intro asset
    have covered := exited.covered asset
    have paying := leaves.paid asset
    have sum := leaves.sums fun holdings =>
      frozen.part asset (tripped.worthOf frozen.price holdings)
    have taken : amounts.get asset
        = frozen.part asset (tripped.worthOf frozen.price position.holdings) := by
      rw [parts]
      cases asset <;> rfl
    omega

end Exits

end Book

end MarginLending
