import MarginLending.Proofs.Book.Excess
import MarginLending.Proofs.Book.Faults
import MarginLending.Proofs.Book.Standing
import MarginLending.Proofs.Pool.Debts
import MarginLending.Proofs.Pool.Surplus
import Mathlib.Algebra.BigOperators.Ring.List
import Mathlib.Algebra.Order.BigOperators.Group.List

/-!
What the aggregate figures of an asset say about the positions. Each is computed from the totals of
the ledgers and rounded once, while every position is rounded on its own. The exact amounts add up,
so that the two differ by what the readings are rounded by.
-/

namespace MarginLending

-----
-- Sums of readings
-----

/-- Readings that lie below exact amounts by some units at most have a sum that lies below the exact
one by as many units for each, by induction on the values.
-/
theorem sum_map_bounds {α : Type} {values : List α} {read exact : α → Nat} {unit slack : Nat}
    (each : ∀ value ∈ values,
      read value * unit ≤ exact value ∧ exact value ≤ (read value + slack) * unit)
    : (values.map read).sum * unit ≤ (values.map exact).sum
      ∧ (values.map exact).sum ≤ ((values.map read).sum + slack * values.length) * unit := by
  induction values with
  | nil => simp
  | cons value rest ih =>
      have head := each value List.mem_cons_self
      have tail := ih fun other member => each other (List.mem_cons_of_mem _ member)
      simp only [List.map_cons, List.sum_cons, List.length_cons, Nat.mul_add, Nat.add_mul,
        Nat.mul_one] at head tail ⊢
      omega

/-- Multiples that are exceeded by others value by value are exceeded by them in total, by the total
of what is left. By induction on the values.
-/
theorem sum_map_sub_mul {α : Type} {values : List α} {first second : α → Nat} {factor charge : Nat}
    (covered : ∀ value ∈ values, charge * second value ≤ factor * first value)
    : (values.map fun value => factor * first value - charge * second value).sum
        + charge * (values.map second).sum
      = factor * (values.map first).sum := by
  induction values with
  | nil => simp
  | cons value rest ih =>
      have head := covered value List.mem_cons_self
      have tail := ih fun other member => covered other (List.mem_cons_of_mem _ member)
      simp only [List.map_cons, List.sum_cons, Nat.mul_add]
      omega

/-- A computation that succeeds for every value of a list succeeds for the list, by induction on it.
-/
theorem Except.mapM_eq_ok {ε α β : Type} {values : List α} {f : α → Except ε β} {g : α → β}
    (each : ∀ value ∈ values, f value = .ok (g value))
    : values.mapM f = .ok (values.map g) := by
  induction values with
  | nil => rfl
  | cons value rest ih =>
      have tail := ih fun other member => each other (List.mem_cons_of_mem _ member)
      simp only [List.mapM_cons, Except.bind_eq_ok, Except.pure_eq_ok]
      exact ⟨_, each value List.mem_cons_self, _, tail, rfl⟩

namespace Ledger

variable {ledger : Ledger} {discounted otherDebt part partDebt read : Nat}

/-- The exact claim is less than two tokens above what is read of it. -/
theorem claim_lt (holds : ledger.netCollateral discounted otherDebt = .ok read)
    : ledger.claim discounted otherDebt < (read + 2) * Q96.unit := by
  obtain ⟨whole, charge, real, charged, rfl⟩ := netCollateral_eq_ok.mp holds
  have upper := (Q96.scale_ok (realCollateral_eq_ok.mp real)).2
  have lower := charge_lt charged
  have positive := Q96.unit_pos
  unfold claim
  rw [Nat.add_mul, Nat.sub_mul]
  omega

/-- Where the collateral of all is read, that of a part is. -/
theorem netCollateral_of_le (holds : ledger.netCollateral discounted otherDebt = .ok read)
    (less : part ≤ discounted) (owesLess : partDebt ≤ otherDebt)
    : ledger.netCollateral part partDebt = .ok (ledger.net part partDebt) := by
  obtain ⟨whole, charge, real, charged, _⟩ := netCollateral_eq_ok.mp holds
  obtain ⟨partReal, partly⟩ := Q96.scale_ok_of_le (realCollateral_eq_ok.mp real) less
  have partKnown := realCollateral_eq_ok.mpr partly
  have within : ledger.levy otherDebt < amountLimit := by
    rw [charge_eq, Except.liftMath_eq_ok] at charged
    exact (Amount.ofWide_eq_ok_iff.mp charged).2
  have partWithin : ledger.levy partDebt ≤ ledger.levy otherDebt :=
    Nat.div_le_div_right (Nat.add_le_add_right (Nat.mul_le_mul_left _ owesLess) _)
  have partCharged : ledger.charge partDebt = .ok (ledger.levy partDebt) := by
    rw [charge_eq, Except.liftMath_eq_ok]
    exact Amount.ofWide_eq_ok_iff.mpr ⟨rfl, Nat.lt_of_le_of_lt partWithin within⟩
  exact netCollateral_eq_ok.mpr
    ⟨partReal, _, partKnown, partCharged, by rw [net, gross_of_realCollateral partKnown]⟩

theorem realDebt_of_le (owes : ledger.realDebt discounted = .ok read) (less : part ≤ discounted)
    : ledger.realDebt part = .ok (ledger.owed part) := by
  obtain ⟨coeff, effective, scaled⟩ := realDebt_eq_ok.mp owes
  obtain ⟨real, partly⟩ := Q96.scale_ok_of_le scaled less
  have known : ledger.realDebt part = .ok real := realDebt_eq_ok.mpr ⟨coeff, effective, partly⟩
  rw [known, owed_of_realDebt known]

end Ledger

-----
-- What all positions come to
-----

namespace Book

/-- Collateral of a position in an asset, net of its charge, in range or not. -/
def netIn (book : Book) (position : Position) (asset : Asset) : Nat :=
  (book.ledger asset).net (position.holding asset).collateralAmount
    (position.holding asset.other).debtAmount

/-- Debt of a position in an asset, in range or not. -/
def owedIn (book : Book) (position : Position) (asset : Asset) : Nat :=
  (book.ledger asset).owed (position.holding asset).debtAmount

section Totals

variable {book : Book} {stale : Option AccountId} {asset : Asset} {position : Position}
  {total owed : Nat}

theorem netCollateral_of_total (totals : book.totalCollateral asset = .ok total)
    : (book.ledger asset).netCollateral (book.ledger asset).discountedCollateral
        (book.ledger asset.other).discountedDebt = .ok total := by
  rw [← asset.other_other] at totals
  have swapped := totalCollateral_ok totals
  rwa [Asset.other_other] at swapped

/-- Where all collateral is read, that of every position is. -/
theorem Consistent.collateralIn_eq (consistent : book.Consistent stale)
    (totals : book.totalCollateral asset = .ok total) (member : position ∈ book.positions.values)
    : book.collateralIn position asset = .ok (book.netIn position asset) := by
  obtain ⟨account, found⟩ := AccountTable.mem_values_iff.mp member
  refine Ledger.netCollateral_of_le (netCollateral_of_total totals) ?_ ?_
  · rw [consistent.collateralTallied]
    exact le_sumOf found fun position => (position.holding asset).collateralAmount
  · rw [consistent.debtTallied]
    exact le_sumOf found fun position => (position.holding asset.other).debtAmount

/-- Where all debt is read, that of every position is. -/
theorem Consistent.debtIn_eq (consistent : book.Consistent stale)
    (owes : (book.ledger asset).totalRealDebt = .ok owed)
    (member : position ∈ book.positions.values)
    : book.debtIn position asset = .ok (book.owedIn position asset) := by
  obtain ⟨account, found⟩ := AccountTable.mem_values_iff.mp member
  refine Ledger.realDebt_of_le owes ?_
  rw [consistent.debtTallied]
  exact le_sumOf found fun position => (position.holding asset).debtAmount

/-- Where no charge exceeds the collateral that it is levied on, exact claims add up to that of the
totals.
-/
theorem Consistent.claims_eq (consistent : book.Consistent stale)
    (covered : ∀ position ∈ book.positions.values, book.ChargeCovered position asset)
    : book.claims asset
      = (book.ledger asset).claim (book.ledger asset).discountedCollateral
          (book.ledger asset.other).discountedDebt := by
  have sum := sum_map_sub_mul covered
  rw [consistent.collateralTallied, consistent.debtTallied]
  unfold claims collateralSum debtSum AccountTable.sumOf Ledger.claim
  omega

/-- Where all collateral is read and no charge exceeds the collateral that it is levied on, what is
read of all positions is at most a token above it, and below it by no more than two tokens for each.
-/
theorem Consistent.sum_netIn (consistent : book.Consistent stale)
    (totals : book.totalCollateral asset = .ok total)
    (covered : ∀ position ∈ book.positions.values, book.ChargeCovered position asset)
    : (book.positions.values.map fun position => book.netIn position asset).sum ≤ total + 1
      ∧ total ≤ (book.positions.values.map fun position => book.netIn position asset).sum
        + 2 * book.positions.values.length := by
  have whole := netCollateral_of_total totals
  have upper := Ledger.claim_lt whole
  have lower := Ledger.netCollateral_le_claim whole
  have each
      : ∀ position ∈ book.positions.values,
          book.netIn position asset * Q96.unit
            ≤ (book.ledger asset).claim (position.holding asset).collateralAmount
              (position.holding asset.other).debtAmount
          ∧ (book.ledger asset).claim (position.holding asset).collateralAmount
              (position.holding asset.other).debtAmount
            ≤ (book.netIn position asset + 2) * Q96.unit := by
    intro position member
    have known := consistent.collateralIn_eq totals member
    exact ⟨Ledger.netCollateral_le_claim known, (Ledger.claim_lt known).le⟩
  have sum := sum_map_bounds each
  rw [← consistent.claims_eq covered] at upper lower
  constructor
  · exact Nat.lt_succ_iff.mp (Nat.lt_of_mul_lt_mul_right (Nat.lt_of_le_of_lt sum.1 upper))
  · exact Nat.le_of_mul_le_mul_right (Nat.le_trans lower sum.2) Q96.unit_pos

/-- Where all debt is read, what is read of all positions is at most as much, and below it by no
more than a token for each.
-/
theorem Consistent.sum_owedIn (consistent : book.Consistent stale)
    (owes : (book.ledger asset).totalRealDebt = .ok owed)
    : (book.positions.values.map fun position => book.owedIn position asset).sum ≤ owed
      ∧ owed ≤ (book.positions.values.map fun position => book.owedIn position asset).sum
        + book.positions.values.length := by
  have bounds (debt : Nat)
      : (book.ledger asset).owed debt * Q96.unit ≤ (book.ledger asset).debtUnit * debt
        ∧ (book.ledger asset).debtUnit * debt < ((book.ledger asset).owed debt + 1) * Q96.unit :=
    ⟨Nat.div_mul_le_self .., by rw [Nat.succ_mul]; exact Nat.lt_div_mul_add Q96.unit_pos⟩
  have whole : (book.ledger asset).owed (book.ledger asset).discountedDebt = owed :=
    Ledger.owed_of_realDebt owes
  have total := bounds (book.ledger asset).discountedDebt
  have each
      : ∀ position ∈ book.positions.values,
          book.owedIn position asset * Q96.unit
            ≤ (book.ledger asset).debtUnit * (position.holding asset).debtAmount
          ∧ (book.ledger asset).debtUnit * (position.holding asset).debtAmount
            ≤ (book.owedIn position asset + 1) * Q96.unit :=
    fun position _ => ⟨(bounds _).1, (bounds _).2.le⟩
  have sum := sum_map_bounds each
  rw [whole, consistent.debtTallied] at total
  rw [List.sum_map_mul_left, Nat.one_mul] at sum
  constructor
  · exact Nat.lt_succ_iff.mp (Nat.lt_of_mul_lt_mul_right (Nat.lt_of_le_of_lt sum.1 total.2))
  · exact Nat.le_of_mul_le_mul_right (Nat.le_trans total.1 sum.2) Q96.unit_pos

/-- Adding up what the ranked accounts hold adds all of it up, as long as it is an amount. By
induction on the nodes.
-/
theorem foldlM_borrowers {nodes : List HeapNode} {start : Nat} (read : AccountId → Nat)
    (each : ∀ node ∈ nodes, ∃ position, book.position? node.account = some position
      ∧ book.collateralIn position asset = .ok (read node.account))
    (inRange : start + (nodes.map fun node => read node.account).sum < amountLimit)
    : nodes.foldlM (fun total node =>
        match book.position? node.account with
        | some position => do return ← Amount.add total (← book.collateralIn position asset)
        | none => .ok total) start
      = (.ok (start + (nodes.map fun node => read node.account).sum) : Except PoolError Nat) := by
  induction nodes generalizing start with
  | nil => rfl
  | cons node rest ih =>
      obtain ⟨position, found, holds⟩ := each node List.mem_cons_self
      rw [List.map_cons, List.sum_cons, ← Nat.add_assoc] at inRange ⊢
      have added : Amount.add start (read node.account) = .ok (start + read node.account) :=
        Amount.add_eq_ok_iff.mpr ⟨rfl, by omega⟩
      rw [List.foldlM_cons, Except.bind_eq_ok]
      refine ⟨_, ?_, ih (fun other member => each other (List.mem_cons_of_mem _ member)) inRange⟩
      simp only [found, Except.bind_eq_ok, Except.liftMath_eq_ok]
      exact ⟨_, holds, added⟩

/-- The positions that owe an asset. -/
def debtors (book : Book) (asset : Asset) : List Position :=
  book.positions.values.filter fun position => (position.holding asset).isDebt

/-- No position owes both assets, so that what it owes is the asset that its kind owes. -/
theorem Consistent.debtors_eq (consistent : book.Consistent none) (asset : Asset)
    : book.debtors asset
      = book.positions.values.filter fun position => position.kind.debtAsset? = some asset := by
  refine List.filter_congr fun position member => ?_
  obtain ⟨account, found⟩ := AccountTable.mem_values_iff.mp member
  rw [Holding.isDebt, decide_eq_decide]
  exact ⟨fun owes => consistent.debtAsset?_of_debt found (Nat.ne_of_gt owes),
    Position.debtAmount_pos_of_debtAsset?⟩

/-- What any part of the positions holds is an amount, where all collateral is read. -/
theorem Consistent.sum_netIn_lt (consistent : book.Consistent stale)
    (totals : book.totalCollateral asset = .ok total) {positions : List Position}
    (among : positions.Sublist book.positions.values)
    : (positions.map fun position => book.netIn position asset).sum < amountLimit := by
  obtain ⟨whole, _, real, _, _⟩ := Ledger.netCollateral_eq_ok.mp (netCollateral_of_total totals)
  have scaled := Ledger.realCollateral_eq_ok.mp real
  refine Nat.lt_of_le_of_lt (Q96.le_of_mul_unit_lt ?_) (Q96.scale_lt scaled)
  calc (positions.map fun position => book.netIn position asset).sum * Q96.unit
      = (positions.map fun position => book.netIn position asset * Q96.unit).sum :=
        (List.sum_map_mul_right ..).symm
    _ ≤ (positions.map fun position =>
          (book.ledger asset).collateralCoeff.raw
            * (position.holding asset).collateralAmount).sum :=
        List.sum_le_sum fun position _ => Nat.le_trans
          (Nat.mul_le_mul_right _ (Nat.sub_le _ _)) (Nat.div_mul_le_self ..)
    _ ≤ (book.positions.values.map fun position =>
          (book.ledger asset).collateralCoeff.raw
            * (position.holding asset).collateralAmount).sum :=
        (among.map _).sum_le_sum fun _ _ => Nat.zero_le _
    _ = (book.ledger asset).collateralCoeff.raw * (book.ledger asset).discountedCollateral := by
        rw [consistent.collateralTallied]
        exact List.sum_map_mul_left ..
    _ < whole * Q96.unit + Q96.unit := (Q96.scale_ok scaled).2

theorem netOf_of_position? {account : AccountId} (found : book.position? account = some position)
    (asset : Asset)
    : book.netOf account asset = book.netIn position asset := by
  have same : book.positionOf account = position := by
    rw [positionOf, found]
    rfl
  rw [netOf, netIn, discountedDebtOf, same]

/-- The accounts that a heap ranks hold what the positions that owe its asset hold. -/
theorem Consistent.sum_netOf (consistent : book.Consistent none) (asset : Asset)
    : ((book.heap asset.other).toList.map fun node => book.netOf node.account asset).sum
      = ((book.debtors asset.other).map fun position => book.netIn position asset).sum := by
  have ranked :=
    (consistent.seated.accounts_perm asset.other).map fun account => book.netOf account asset
  have listed
      : ((book.positions.entries.filter fun entry => entry.2.kind.debtAsset? = some asset.other).map
          Prod.fst).map (fun account => book.netOf account asset)
        = (book.debtors asset.other).map fun position => book.netIn position asset := by
    rw [consistent.debtors_eq, AccountTable.values, List.filter_map]
    simp only [List.map_map, Function.comp_def]
    exact List.map_congr_left fun entry member =>
      netOf_of_position? (AccountTable.get?_eq_some_iff.mpr (List.mem_of_mem_filter member)) asset
  rw [listed, LeverageHeap.accounts, List.map_map, Function.comp_def] at ranked
  exact ranked.sum_eq

/-- Gathering collateral through the heap gathers that of exactly the positions that owe the other
asset.
-/
theorem Consistent.borrowersCollateral_eq (consistent : book.Consistent none)
    (totals : book.totalCollateral asset = .ok total)
    : book.borrowersCollateral asset
      = .ok ((book.debtors asset.other).map fun position => book.netIn position asset).sum := by
  have among : (book.debtors asset.other).Sublist book.positions.values := List.filter_sublist
  have inRange := consistent.sum_netIn_lt totals among
  rw [← consistent.sum_netOf, ← Nat.zero_add (List.sum _)] at inRange ⊢
  refine foldlM_borrowers (fun account => book.netOf account asset) (fun node member => ?_) inRange
  have ranked := LeverageHeap.mem_accounts_iff.mpr ⟨node, member, rfl⟩
  obtain ⟨position, found⟩ :=
    Option.isSome_iff_exists.mp (consistent.seated.position?_isSome ranked)
  refine ⟨position, found, ?_⟩
  rw [netOf_of_position? found]
  exact consistent.collateralIn_eq totals (AccountTable.mem_values_iff.mpr ⟨_, found⟩)

end Totals

end Book

namespace Pool

section Totals

variable {V : Type} [Venue V] {pool : Pool V} {asset : Asset}

/-- In a reachable pool whose charges stay within the collateral that they are levied on, all
collateral in an asset is what is read of the positions, but for two tokens for each, and what the
heap gathers of the borrowers is what is read of exactly the positions that owe the other asset. All
debt is what is read of the positions, or more by a token for each at most. Where the aggregate is
read, so is every position.
-/
theorem totals_reconstruct (reachable : Reachable pool)
    (covered : ∀ position ∈ pool.book.positions.values, pool.book.ChargeCovered position asset)
    : (∀ total, pool.book.totalCollateral asset = .ok total →
        ∃ held borrowed,
          pool.book.positions.values.mapM (fun position => pool.book.collateralIn position asset)
            = .ok held
          ∧ held.sum ≤ total + 2 * pool.book.positions.values.length
          ∧ total ≤ held.sum + 2 * pool.book.positions.values.length
          ∧ (pool.book.debtors asset.other).mapM
              (fun position => pool.book.collateralIn position asset) = .ok borrowed
          ∧ pool.book.borrowersCollateral asset = .ok borrowed.sum)
      ∧ ∀ owed, (pool.book.ledger asset).totalRealDebt = .ok owed →
        ∃ debts,
          pool.book.positions.values.mapM (fun position => pool.book.debtIn position asset)
            = .ok debts
          ∧ debts.sum ≤ owed
          ∧ owed ≤ debts.sum + pool.book.positions.values.length := by
  have consistent := reachable.sound.consistent
  constructor
  · intro total totals
    obtain ⟨above, below⟩ := consistent.sum_netIn totals covered
    have read := fun (position : Position) (member : position ∈ pool.book.positions.values) =>
      consistent.collateralIn_eq totals member
    refine ⟨_, _, Except.mapM_eq_ok read, ?_, below,
      Except.mapM_eq_ok fun position member => read position (List.mem_of_mem_filter member),
      consistent.borrowersCollateral_eq totals⟩
    -- The token above the total takes a position
    generalize pool.book.positions.values = positions at above
    cases positions with
    | nil => exact Nat.zero_le _
    | cons position rest =>
        rw [List.length_cons]
        omega
  · intro owed owes
    exact ⟨_, Except.mapM_eq_ok fun position member => consistent.debtIn_eq owes member,
      consistent.sum_owedIn owes⟩

/-- A trader owes 105 base against 1173 quote that are charged with 712, beside a lender of base and
quote. What is read of the two comes to all there is of quote, and what the heap gathers is the
trader's.
-/
theorem totals_reconstruct_charged
    : let book := (sample.after chargedTrades).book
      (book.ledger .quote).chargeCoeff.raw ≠ 0 ∧ book.positions.values.length = 2
        ∧ (∃ held borrowed,
            book.positions.values.mapM (fun position => book.collateralIn position .quote)
              = .ok held
            ∧ held.sum ≤ 11009 + 2 * 2 ∧ 11009 ≤ held.sum + 2 * 2
            ∧ (book.debtors .base).mapM (fun position => book.collateralIn position .quote)
              = .ok borrowed
            ∧ book.borrowersCollateral .quote = .ok borrowed.sum)
        ∧ book.borrowersCollateral .quote = .ok 461
        ∧ ∃ debts,
            book.positions.values.mapM (fun position => book.debtIn position .base) = .ok debts
            ∧ debts.sum ≤ 105 ∧ 105 ≤ debts.sum + 2 := by
  intro book
  have reachable : Reachable (sample.after chargedTrades) := reachable_sample.after _
  have covered : ∀ asset, ∀ position ∈ book.positions.values,
      book.ChargeCovered position asset := by
    unfold Book.ChargeCovered
    intro asset
    cases asset <;> decide +kernel
  have size : book.positions.values.length = 2 := by decide +kernel
  have total : book.totalCollateral .quote = .ok 11009 := by decide +kernel
  have owed : (book.ledger .base).totalRealDebt = .ok 105 := by decide +kernel
  have collateral := (totals_reconstruct reachable (covered .quote)).1 11009 total
  have debts := (totals_reconstruct reachable (covered .base)).2 105 owed
  rw [size] at collateral debts
  exact ⟨by decide +kernel, size, collateral, by decide +kernel, debts⟩

end Totals

end Pool

end MarginLending
