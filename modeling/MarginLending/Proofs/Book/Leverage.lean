import MarginLending.Proofs.Book.Changes
import MarginLending.Proofs.Claims
import Mathlib.Tactic.Ring

/-!
Leverage, of one position and of a side. Less debt behind the same collateral means less leverage,
whatever is rounded on the way; and positions that keep within the bound before anything is rounded
keep their side within it.
-/

namespace MarginLending

/-- Under valid parameters the leverage bound is above one. -/
theorem Parameters.one_lt_maxLeverage {parameters : Parameters}
    (valid : parameters.violation? = none)
    : 1 < parameters.maxLeverage := by
  unfold violation? at valid
  split at valid
  · cases valid
  · next above => exact Nat.not_le.mp above

theorem Parameters.one_le_leverageBound {parameters : Parameters}
    (valid : parameters.violation? = none)
    : Q96.one ≤ parameters.leverageBound :=
  Nat.le_mul_of_pos_left Q96.unit (Nat.zero_lt_of_lt (one_lt_maxLeverage valid))

section Ratios

variable {collateral debt : Nat} {leverage : Q96}

/-- Leverage is a word, so that none is above the unbounded one. -/
theorem leverageOf_le_maximum (known : leverageOf collateral debt = .ok leverage)
    : leverage ≤ .maximum := by
  unfold leverageOf at known
  split at known
  · rw [← Except.pure_eq_ok.mp known]
    exact Nat.le_refl _
  · rw [Except.liftMath_eq_ok] at known
    obtain ⟨_, quotient, rfl⟩ := Except.map_eq_ok.mp known
    obtain ⟨_, rfl, small⟩ := mulDiv_eq_ok_iff.mp quotient
    exact Nat.le_sub_one_of_lt small

/-- Collateral in range has some leverage behind any debt. -/
theorem leverageOf_ok (small : collateral < amountLimit) (debt : Nat)
    : ∃ leverage, leverageOf collateral debt = .ok leverage := by
  unfold leverageOf
  split
  · exact ⟨_, rfl⟩
  · next solvent =>
      have inWord : collateral * Q96.unit / (collateral - debt) < wordLimit :=
        calc collateral * Q96.unit / (collateral - debt)
            ≤ collateral * Q96.unit := Nat.div_le_self _ _
          _ < amountLimit * Q96.unit := Nat.mul_lt_mul_of_pos_right small Q96.unit_pos
          _ ≤ wordLimit := by decide
      have quotient :=
        mulDiv_eq_ok_iff.mpr ⟨Nat.sub_ne_zero_of_lt (Nat.not_le.mp solvent), rfl, inWord⟩
      exact ⟨_, Except.liftMath_eq_ok.mpr (Except.map_eq_ok.mpr ⟨_, quotient, rfl⟩)⟩

/-- Leverage is within a bound exactly when the equity, at any more than the bound, exceeds the
collateral.
-/
theorem leverageOf_le_iff {bound : Q96} (bounded : bound < .maximum)
    (known : leverageOf collateral debt = .ok leverage)
    : leverage ≤ bound
      ↔ Q96.unit * collateral + (bound.raw + 1) * debt < (bound.raw + 1) * collateral := by
  unfold leverageOf at known
  split at known
  · next wipedOut =>
      rw [← Except.pure_eq_ok.mp known]
      have owed := Nat.mul_le_mul_left (bound.raw + 1) wipedOut
      exact ⟨fun below => absurd bounded (Nat.not_lt.mpr below), fun exceeds => by omega⟩
  · next solvent =>
      rw [Except.liftMath_eq_ok] at known
      obtain ⟨equity, rfl⟩ : ∃ equity, collateral = debt + equity := ⟨collateral - debt, by omega⟩
      obtain ⟨_, lower, upper⟩ := Q96.ofRatio_ok known
      rw [Nat.add_sub_cancel_left] at lower upper
      rw [← Nat.add_one_mul] at upper
      rw [Nat.mul_comm Q96.unit, Nat.mul_add (bound.raw + 1)]
      constructor
      · intro below
        have exceeds : (leverage.raw + 1) * equity ≤ (bound.raw + 1) * equity :=
          Nat.mul_le_mul_right equity (Nat.succ_le_succ below)
        omega
      · intro exceeds
        have less : leverage.raw * equity < (bound.raw + 1) * equity := by omega
        exact Nat.lt_succ_iff.mp (Nat.lt_of_mul_lt_mul_right less)

/-- Nothing owed means a leverage of one. -/
theorem leverageOf_zero (positive : collateral ≠ 0)
    (known : leverageOf collateral 0 = .ok leverage)
    : leverage = .one := by
  have above : leverage ≤ .one := by
    rw [leverageOf_le_iff (by decide) known, Nat.mul_zero, Nat.add_zero]
    exact Nat.mul_lt_mul_of_pos_right (Nat.lt_succ_self _) (Nat.pos_of_ne_zero positive)
  have bounded : leverage < .maximum := Nat.lt_of_le_of_lt above (by decide)
  have exceeds := (leverageOf_le_iff bounded known).mp (Nat.le_refl _)
  rw [Nat.mul_zero, Nat.add_zero] at exceeds
  exact Q96.ext_raw
    (Nat.le_antisymm above (Nat.lt_succ_iff.mp (Nat.lt_of_mul_lt_mul_right exceeds)))

/-- More collateral and less debt mean no more leverage. -/
theorem leverageOf_mono {moreCollateral lessDebt : Nat} {lighter : Q96}
    (known : leverageOf collateral debt = .ok leverage)
    (knownLighter : leverageOf moreCollateral lessDebt = .ok lighter)
    (more : collateral ≤ moreCollateral) (less : lessDebt ≤ debt)
    : lighter ≤ leverage := by
  by_cases bounded : leverage < .maximum
  · have exceeds := (leverageOf_le_iff bounded known).mp (Nat.le_refl _)
    have aboveOne : Q96.unit < leverage.raw + 1 :=
      Nat.lt_of_mul_lt_mul_right (Nat.lt_of_le_of_lt (Nat.le_add_right ..) exceeds)
    obtain ⟨added, rfl⟩ := Nat.exists_eq_add_of_le more
    have owed := Nat.mul_le_mul_left (leverage.raw + 1) less
    have gained := Nat.mul_le_mul_right added (Nat.le_of_lt aboveOne)
    rw [leverageOf_le_iff bounded knownLighter, Nat.mul_add, Nat.mul_add]
    omega
  · exact Nat.le_trans (leverageOf_le_maximum knownLighter) (Nat.not_lt.mp bounded)

/-- A debt within what the bound allows on its collateral means a leverage within the bound. -/
theorem leverageOf_le {bound : Nat} (within : bound * debt ≤ (bound - 1) * collateral)
    (positive : 0 < bound) (nonzero : collateral ≠ 0)
    (known : leverageOf collateral debt = .ok leverage)
    : leverage ≤ Q96.ofNat bound := by
  by_cases bounded : Q96.ofNat bound < .maximum
  · obtain ⟨rest, rfl⟩ : ∃ rest, bound = rest + 1 := ⟨bound - 1, by omega⟩
    rw [Nat.add_sub_cancel] at within
    have solvent : debt < collateral := by
      refine Nat.lt_of_mul_lt_mul_left (a := rest + 1) (Nat.lt_of_le_of_lt within ?_)
      exact Nat.mul_lt_mul_of_pos_right (Nat.lt_succ_self rest) (Nat.pos_of_ne_zero nonzero)
    have scaled := Nat.mul_le_mul_left Q96.unit within
    rw [leverageOf_le_iff bounded known]
    change Q96.unit * collateral + ((rest + 1) * Q96.unit + 1) * debt
      < ((rest + 1) * Q96.unit + 1) * collateral
    linarith
  · exact Nat.le_trans (leverageOf_le_maximum known) (Nat.not_lt.mp bounded)

end Ratios

-----
-- Ranks order debt behind the same collateral
-----

namespace Position

/-- The position with as much debt as a rank allows behind its collateral. -/
def heaviest (position : Position) (asset : Asset) (rank : Nat) : Position :=
  position.setHolding asset
    (.debt (((rank + 1) * (position.holding asset.other).collateralAmount - 1)
      / Nat.pow 2 rankBits))

section Ranks

variable {position : Position} {asset : Asset} {rank : Nat}

@[simp] theorem holding_heaviest_other (position : Position) (asset : Asset) (rank : Nat)
    : (position.heaviest asset rank).holding asset.other = position.holding asset.other :=
  PerAsset.get_set_other _ _ _

@[simp] theorem debtAmount_heaviest (position : Position) (asset : Asset) (rank : Nat)
    : ((position.heaviest asset rank).holding asset).debtAmount
      = ((rank + 1) * (position.holding asset.other).collateralAmount - 1)
        / Nat.pow 2 rankBits := by
  rw [heaviest, holding_setHolding_same]
  rfl

/-- A position ranks no higher than a rank exactly when it has collateral and owes no more than the
rank allows.
-/
theorem sortKey_le_iff (owes : position.kind.debtAsset? = some asset) (small : rank < Amount.max)
    : position.sortKey ≤ rank
      ↔ (position.holding asset.other).collateralAmount ≠ 0
          ∧ (position.holding asset).debtAmount
            ≤ ((position.heaviest asset rank).holding asset).debtAmount := by
  rw [debtAmount_heaviest]
  simp only [sortKey, owes]
  generalize (position.holding asset.other).collateralAmount = collateral
  generalize (position.holding asset).debtAmount = debt
  have bits : 0 < Nat.pow 2 rankBits := by decide
  split
  · next nothing => exact ⟨fun ranked => absurd small (by omega), fun held => absurd nothing held.1⟩
  · next something =>
      have capped : min (debt * Nat.pow 2 rankBits / collateral) Amount.max ≤ rank
          ↔ debt * Nat.pow 2 rankBits / collateral ≤ rank := by omega
      have positive := Nat.pos_of_ne_zero something
      rw [capped, ← Nat.lt_succ_iff, Nat.div_lt_iff_lt_mul positive, Nat.le_div_iff_mul_le bits,
        Nat.le_sub_one_iff_lt (Nat.mul_pos (Nat.succ_pos rank) positive)]
      exact (and_iff_right something).symm

/-- More debt leaves a leveraged position one that owes the same asset. -/
theorem debtAsset?_heaviest (owes : position.kind.debtAsset? = some asset)
    (less : (position.holding asset).debtAmount
      ≤ ((position.heaviest asset rank).holding asset).debtAmount)
    : (position.heaviest asset rank).kind.debtAsset? = some asset := by
  have some := debtAmount_pos_of_debtAsset? owes
  rw [heaviest, holding_setHolding_same] at less
  unfold kind Holding.isDebt at owes ⊢
  cases asset <;> simp only [heaviest, setHolding, holding, PerAsset.get, PerAsset.set, Asset.other]
    at some less owes ⊢ <;> grind [PositionKind.debtAsset?]

end Ranks

end Position

namespace Book

section Values

variable {book : Book} {asset : Asset} {price : Q96} {amount value : Nat}

/-- What one unit of an asset is worth, in fractions of a unit of quote. -/
def unitValue (price : Q96) : Asset → Nat
  | .base => price.raw
  | .quote => Q96.unit

/-- A value is the exact one rounded down. -/
theorem valued_bounds (known : valued asset price amount = .ok value)
    : value * Q96.unit ≤ unitValue price asset * amount
      ∧ unitValue price asset * amount < value * Q96.unit + Q96.unit := by
  cases asset with
  | base =>
      simp only [valued, Except.liftMath_eq_ok] at known
      exact Q96.scale_ok known
  | quote =>
      simp only [valued, Except.pure_eq_ok] at known
      subst known
      rw [unitValue, Nat.mul_comm]
      exact ⟨Nat.le_refl _, Nat.lt_add_of_pos_right Q96.unit_pos⟩

/-- More of an asset is worth no less. -/
theorem valued_mono {more worth : Nat} (known : valued asset price amount = .ok value)
    (knownMore : valued asset price more = .ok worth) (le : amount ≤ more)
    : value ≤ worth := by
  cases asset with
  | base =>
      simp only [valued, Except.liftMath_eq_ok] at known knownMore
      exact Q96.scale_mono known knownMore le
  | quote =>
      simp only [valued, Except.pure_eq_ok] at known knownMore
      omega

theorem valued_zero (known : valued asset price 0 = .ok value) : value = 0 := by
  have lower := (valued_bounds known).1
  rw [Nat.mul_zero] at lower
  exact (Nat.mul_eq_zero.mp (Nat.le_zero.mp lower)).resolve_right (Nat.ne_of_gt Q96.unit_pos)

end Values

-----
-- A side, and what it comes to without debt
-----

section Sides

variable {book : Book} {asset : Asset} {price leverage : Q96}

/-- All collateral in an asset is charged with all debt in the other one. -/
theorem totalCollateral_ok {total : Nat} (totals : book.totalCollateral asset.other = .ok total)
    : (book.ledger asset.other).netCollateral (book.ledger asset.other).discountedCollateral
        (book.ledger asset).discountedDebt = .ok total := by
  simp only [totalCollateral, Asset.other_other, Except.bind_eq_ok, Except.pure_eq_ok] at totals
  obtain ⟨charge, charged, whole, holds, rfl⟩ := totals
  exact Ledger.netCollateral_eq_ok.mpr ⟨whole, charge, holds, charged, rfl⟩

/-- Leverage of a side compares all collateral in the other asset with all debt. -/
theorem systemLeverage_ok (known : book.systemLeverage asset price = .ok leverage)
    : ∃ total owed collateral debt, book.totalCollateral asset.other = .ok total
        ∧ valued asset.other price total = .ok collateral
        ∧ (book.ledger asset).totalRealDebt = .ok owed ∧ valued asset price owed = .ok debt
        ∧ (collateral = 0 ∧ leverage = .one
          ∨ collateral ≠ 0 ∧ leverageOf collateral debt = .ok leverage) := by
  simp only [systemLeverage, Except.bind_eq_ok] at known
  obtain ⟨total, totals, collateral, worth, owed, owes, debt, owedWorth, known⟩ := known
  refine ⟨total, owed, collateral, debt, totals, worth, owes, owedWorth, ?_⟩
  split at known
  · next nothing => exact .inl ⟨nothing, (Except.pure_eq_ok.mp known).symm⟩
  · next something => exact .inr ⟨something, known⟩

/-- A side that owes nothing has a leverage of one. -/
theorem systemLeverage_of_unowed (unowed : (book.ledger asset).discountedDebt = 0)
    (known : book.systemLeverage asset price = .ok leverage)
    : leverage = .one := by
  obtain ⟨_, owed, collateral, debt, _, _, owes, worth, ⟨_, one⟩ | ⟨something, known⟩⟩ :=
    systemLeverage_ok known
  · exact one
  · rw [Ledger.totalRealDebt, unowed] at owes
    obtain ⟨_, _, scaled⟩ := Ledger.realDebt_eq_ok.mp owes
    rw [Q96.scale_zero scaled] at worth
    rw [valued_zero worth] at known
    exact leverageOf_zero something known

/-- Whoever owes an asset has a leveraged position that owes it. -/
theorem Consistent.debtAsset?_of_debt (consistent : book.Consistent none) {account : AccountId}
    {position : Position} (found : book.position? account = some position)
    (owes : (position.holding asset).debtAmount ≠ 0)
    : position.kind.debtAsset? = some asset := by
  have sided := (consistent.oneSided account position found asset).resolve_left owes
  unfold Position.kind Holding.isDebt
  cases asset <;> simp only [Position.holding, PerAsset.get, Asset.other] at owes sided <;>
    grind [PositionKind.debtAsset?]

/-- An asset that no heap ranks anybody for is owed by nobody. -/
theorem Consistent.discountedDebt_of_empty (consistent : book.Consistent none)
    (empty : (book.heap asset).peek? = none)
    : (book.ledger asset).discountedDebt = 0 := by
  have nobody : ∀ account, account ∉ (book.heap asset).accounts := by
    intro account member
    have size := Array.getElem?_eq_none_iff.mp empty
    have length := List.length_pos_of_mem member
    simp only [LeverageHeap.accounts, LeverageHeap.toList, List.length_map, Array.length_toList]
      at length
    omega
  rw [consistent.debtTallied, debtSum, AccountTable.sumOf]
  refine List.sum_eq_zero_iff_forall_eq_nat.mpr fun debt member => ?_
  obtain ⟨position, inTable, rfl⟩ := List.mem_map.mp member
  obtain ⟨account, found⟩ := AccountTable.mem_values_iff.mp inTable
  by_contra owes
  exact nobody account ((consistent.seated.mem_iff found).mpr
    (consistent.debtAsset?_of_debt found owes))

end Sides

-----
-- A position, and what it comes to with more debt
-----

section Positions

variable {book : Book} {asset : Asset} {price leverage : Q96} {position light heavy : Position}

/-- Leverage of a position compares its collateral in the other asset with its debt. -/
theorem positionLeverage_ok (owes : position.kind.debtAsset? = some asset)
    (known : book.positionLeverage position price = .ok leverage)
    : ∃ held owed collateral debt, book.collateralIn position asset.other = .ok held
        ∧ valued asset.other price held = .ok collateral
        ∧ book.debtIn position asset = .ok owed ∧ valued asset price owed = .ok debt
        ∧ leverageOf collateral debt = .ok leverage := by
  unfold positionLeverage at known
  simp only [owes, Except.bind_eq_ok] at known
  obtain ⟨held, holds, collateral, worth, owed, owes, debt, owedWorth, known⟩ := known
  exact ⟨held, owed, collateral, debt, holds, worth, owes, owedWorth, known⟩

theorem isLiquidatable_eq_ok {due : Bool}
    : book.isLiquidatable position price = .ok due
      ↔ ∃ leverage, book.positionLeverage position price = .ok leverage
          ∧ decide (book.parameters.leverageBound < leverage) = due := by
  simp only [isLiquidatable, Except.bind_eq_ok, Except.pure_eq_ok]

/-- More debt is charged no less. -/
theorem charge_mono {ledger : Ledger} {debt more charge chargeMore : Nat}
    (charged : ledger.charge debt = .ok charge) (chargedMore : ledger.charge more = .ok chargeMore)
    (le : debt ≤ more)
    : charge ≤ chargeMore := by
  rw [Ledger.charge_eq_ok] at charged chargedMore
  split at charged
  · omega
  · next counts =>
      rw [not_or] at counts
      rw [if_neg (not_or.mpr ⟨by omega, counts.2⟩)] at chargedMore
      exact Q96.scaleUp_mono charged chargedMore le

/-- Of two positions with the same collateral, the one that owes less has no more leverage. -/
theorem positionLeverage_mono {lighter : Q96} (owesLight : light.kind.debtAsset? = some asset)
    (owesHeavy : heavy.kind.debtAsset? = some asset)
    (same : (light.holding asset.other).collateralAmount
      = (heavy.holding asset.other).collateralAmount)
    (less : (light.holding asset).debtAmount ≤ (heavy.holding asset).debtAmount)
    (known : book.positionLeverage heavy price = .ok leverage)
    (knownLight : book.positionLeverage light price = .ok lighter)
    : lighter ≤ leverage := by
  obtain ⟨held, owed, collateral, debt, holds, worth, owes, owedWorth, known⟩ :=
    positionLeverage_ok owesHeavy known
  obtain ⟨heldLight, owedLight, collateralLight, debtLight, holdsLight, worthLight, owesLess,
    owedWorthLight, knownLight⟩ := positionLeverage_ok owesLight knownLight
  have more : held ≤ heldLight := by
    rw [collateralIn, Asset.other_other, Ledger.netCollateral_eq_ok] at holds holdsLight
    obtain ⟨whole, charge, foundWhole, charged, rfl⟩ := holds
    obtain ⟨wholeLight, chargeLight, foundLight, chargedLight, rfl⟩ := holdsLight
    rw [same] at foundLight
    obtain rfl := Except.ok.inj (foundWhole.symm.trans foundLight)
    exact Nat.sub_le_sub_left (charge_mono chargedLight charged less) whole
  have lessOwed : owedLight ≤ owed := by
    obtain ⟨coeff, effective, scaled⟩ := Ledger.realDebt_eq_ok.mp owes
    obtain ⟨_, effectiveLight, scaledLight⟩ := Ledger.realDebt_eq_ok.mp owesLess
    obtain rfl := Except.ok.inj (effective.symm.trans effectiveLight)
    exact Q96.scale_mono scaledLight scaled less
  exact leverageOf_mono known knownLight (valued_mono worth worthLight more)
    (valued_mono owedWorthLight owedWorth lessOwed)

/-- A debt in range is worth something in range if more debt is. -/
theorem valued_ok_of_le {amount more worth : Nat} (knownMore : valued asset price more = .ok worth)
    (le : amount ≤ more)
    : ∃ value, valued asset price amount = .ok value := by
  cases asset with
  | base =>
      simp only [valued, Except.liftMath_eq_ok] at knownMore ⊢
      exact Q96.scale_ok_of_le knownMore le
  | quote => exact ⟨amount, rfl⟩

/-- Amounts are worth amounts. -/
theorem valued_lt {amount value : Nat} (known : valued asset price amount = .ok value)
    (small : amount < amountLimit)
    : value < amountLimit := by
  cases asset with
  | base =>
      simp only [valued, Except.liftMath_eq_ok] at known
      exact Q96.scale_lt known
  | quote =>
      simp only [valued, Except.pure_eq_ok] at known
      omega

/-- Of two positions with the same collateral, the one that owes less is not liquidated if the other
one is not, where its collateral has a value in range.
-/
theorem isLiquidatable_eq_false_of_le (owesLight : light.kind.debtAsset? = some asset)
    (owesHeavy : heavy.kind.debtAsset? = some asset)
    (same : (light.holding asset.other).collateralAmount
      = (heavy.holding asset.other).collateralAmount)
    (less : (light.holding asset).debtAmount ≤ (heavy.holding asset).debtAmount)
    (within : book.isLiquidatable heavy price = .ok false)
    {held value : Nat} (holds : book.collateralIn light asset.other = .ok held)
    (worth : valued asset.other price held = .ok value)
    : book.isLiquidatable light price = .ok false := by
  obtain ⟨leverage, known, below⟩ := isLiquidatable_eq_ok.mp within
  obtain ⟨_, owed, _, debt, _, _, owes, owedWorth, _⟩ := positionLeverage_ok owesHeavy known
  obtain ⟨coeff, effective, scaled⟩ := Ledger.realDebt_eq_ok.mp owes
  obtain ⟨owedLight, scaledLight⟩ := Q96.scale_ok_of_le scaled less
  obtain ⟨debtLight, worthLight⟩ :=
    valued_ok_of_le owedWorth (Q96.scale_mono scaledLight scaled less)
  have owesLess : book.debtIn light asset = .ok owedLight :=
    Ledger.realDebt_eq_ok.mpr ⟨coeff, effective, scaledLight⟩
  have inRange := valued_lt worth (Ledger.netCollateral_lt holds)
  obtain ⟨lighter, leveraged⟩ := leverageOf_ok inRange debtLight
  have knownLight : book.positionLeverage light price = .ok lighter := by
    unfold positionLeverage
    simp only [owesLight, Except.bind_eq_ok]
    exact ⟨held, holds, value, worth, owedLight, owesLess, debtLight, worthLight, leveraged⟩
  have lighterLe := positionLeverage_mono owesLight owesHeavy same less known knownLight
  refine isLiquidatable_eq_ok.mpr ⟨lighter, knownLight, decide_eq_false ?_⟩
  exact Nat.not_lt.mpr (Nat.le_trans lighterLe (Nat.not_lt.mp (of_decide_eq_false below)))

end Positions

-----
-- Positions that keep within the bound keep their side within it
-----

section Sums

variable {book : Book} {asset : Asset} {price leverage : Q96}

/-- What discounted debt is worth before anything is rounded, in fractions of a fraction of quote.
-/
def exactDebtValue (book : Book) (asset : Asset) (price : Q96) (discounted : Nat) : Int :=
  (book.ledger asset).netDebtCoeff * discounted * unitValue price asset

/-- A position keeps within the leverage bound although its debt is not rounded down. -/
def WellWithin (book : Book) (position : Position) (asset : Asset) (price : Q96) : Prop :=
  ∃ held value, book.collateralIn position asset.other = .ok held
    ∧ valued asset.other price held = .ok value
    ∧ book.parameters.maxLeverage
        * book.exactDebtValue asset price (position.holding asset).debtAmount
      ≤ ((book.parameters.maxLeverage : Int) - 1) * (value * (Q96.unit * Q96.unit))

/-- Discounted collateral secures discounted debt within the bound: some value bears the exact debt,
although each step from the collateral to that value may round down, and its charge up.
-/
def Secures (book : Book) (asset : Asset) (price : Q96) (collateral debt : Nat) : Prop :=
  ∃ real charge value : Nat,
    real * Q96.unit ≤ (book.ledger asset.other).collateralCoeff.raw * collateral
      ∧ (book.ledger asset.other).chargeCoeff.raw * debt ≤ charge * Q96.unit
      ∧ charge ≤ real
      ∧ value * Q96.unit ≤ unitValue price asset.other * (real - charge)
      ∧ book.parameters.maxLeverage * book.exactDebtValue asset price debt
        ≤ ((book.parameters.maxLeverage : Int) - 1) * (value * (Q96.unit * Q96.unit))

/-- No debt needs no security. -/
theorem secures_zero (book : Book) (asset : Asset) (price : Q96) (collateral : Nat)
    : book.Secures asset price collateral 0 :=
  ⟨0, 0, 0, by simp, by simp, Nat.le_refl 0, by simp, by simp [exactDebtValue]⟩

/-- What secures two debts secures their sum: sums of rounded values err to the same side. -/
theorem Secures.add {first second firstDebt secondDebt : Nat}
    (left : book.Secures asset price first firstDebt)
    (right : book.Secures asset price second secondDebt)
    : book.Secures asset price (first + second) (firstDebt + secondDebt) := by
  obtain ⟨real, charge, value, holds, charged, covers, worth, bears⟩ := left
  obtain ⟨real', charge', value', holds', charged', covers', worth', bears'⟩ := right
  refine ⟨real + real', charge + charge', value + value', ?_, ?_, by omega, ?_, ?_⟩
  · rw [Nat.add_mul, Nat.mul_add]
    omega
  · rw [Nat.add_mul, Nat.mul_add]
    omega
  · have rest : real + real' - (charge + charge') = (real - charge) + (real' - charge') := by omega
    rw [rest, Nat.add_mul, Nat.mul_add]
    omega
  · have exact : book.exactDebtValue asset price (firstDebt + secondDebt)
        = book.exactDebtValue asset price firstDebt
          + book.exactDebtValue asset price secondDebt := by
      unfold exactDebtValue
      push_cast
      ring
    rw [exact]
    push_cast
    linarith

/-- Positions that are secured one by one are secured together, by induction on the list. -/
theorem secures_sum {positions : List Position}
    (each : ∀ position ∈ positions, book.Secures asset price
      (position.holding asset.other).collateralAmount (position.holding asset).debtAmount)
    : book.Secures asset price
        (positions.map fun position => (position.holding asset.other).collateralAmount).sum
        (positions.map fun position => (position.holding asset).debtAmount).sum := by
  induction positions with
  | nil => exact secures_zero book asset price 0
  | cons position rest ih =>
      have tail := ih fun other member => each other (List.mem_cons_of_mem _ member)
      exact (each position List.mem_cons_self).add tail

/-- A charge is no more than any number of tokens that covers the exact one. -/
theorem charge_le {ledger : Ledger} {debt charge cover : Nat}
    (charged : ledger.charge debt = .ok charge)
    (covers : ledger.chargeCoeff.raw * debt ≤ cover * Q96.unit)
    : charge ≤ cover := by
  rw [Ledger.charge_eq_ok] at charged
  split at charged
  · omega
  · have upper := (Q96.scaleUp_ok charged).2
    exact Q96.le_of_mul_unit_lt (by omega)

/-- A position that is well within the bound is secured, where its debt is worth anything. -/
theorem WellWithin.secures {position : Position} (within : book.WellWithin position asset price)
    (worthy : 0 < book.parameters.maxLeverage
      * book.exactDebtValue asset price (position.holding asset).debtAmount)
    : book.Secures asset price (position.holding asset.other).collateralAmount
        (position.holding asset).debtAmount := by
  obtain ⟨held, value, holds, worth, bears⟩ := within
  rw [collateralIn, Asset.other_other, Ledger.netCollateral_eq_ok] at holds
  obtain ⟨real, charge, whole, charged, rfl⟩ := holds
  have lower := (valued_bounds worth).1
  refine ⟨real, charge, value, (Q96.scale_ok (Ledger.realCollateral_eq_ok.mp whole)).1,
    Ledger.le_charge charged, ?_, lower, bears⟩
  -- a charge above the collateral would leave nothing, and nothing bears no debt
  by_contra above
  rw [show real - charge = 0 by omega] at worth
  rw [valued_zero worth] at bears
  simp only [Nat.cast_zero, zero_mul, mul_zero] at bears
  omega

/-- What secures all debt of a side is worth no more than the collateral of the side. -/
theorem Secures.bears {total value : Nat}
    (secures : book.Secures asset price (book.ledger asset.other).discountedCollateral
      (book.ledger asset).discountedDebt)
    (totals : book.totalCollateral asset.other = .ok total)
    (worth : valued asset.other price total = .ok value)
    (one : 1 ≤ book.parameters.maxLeverage)
    : book.parameters.maxLeverage
        * book.exactDebtValue asset price (book.ledger asset).discountedDebt
      ≤ ((book.parameters.maxLeverage : Int) - 1) * (value * (Q96.unit * Q96.unit)) := by
  obtain ⟨real, charge, part, holds, charges, _, partWorth, bears⟩ := secures
  obtain ⟨whole, charged, holding, charging, rfl⟩ :=
    Ledger.netCollateral_eq_ok.mp (totalCollateral_ok totals)
  have upper := (Q96.scale_ok (Ledger.realCollateral_eq_ok.mp holding)).2
  have less : real ≤ whole := Q96.le_of_mul_unit_lt (by omega)
  have more : charged ≤ charge := charge_le charging charges
  have rest : unitValue price asset.other * (real - charge)
      ≤ unitValue price asset.other * (whole - charged) :=
    Nat.mul_le_mul_left _ (by omega)
  have valueUpper := (valued_bounds worth).2
  have partLess : part ≤ value := Q96.le_of_mul_unit_lt (by omega)
  refine bears.trans (Int.mul_le_mul_of_nonneg_left ?_ (by omega))
  exact_mod_cast Nat.mul_le_mul_right _ partLess

/-- The debt of a side is worth no more than before anything is rounded. -/
theorem valued_totalRealDebt_le {owed debt : Nat}
    (owes : (book.ledger asset).totalRealDebt = .ok owed)
    (worth : valued asset price owed = .ok debt)
    : (debt * (Q96.unit * Q96.unit) : Int)
      ≤ book.exactDebtValue asset price (book.ledger asset).discountedDebt := by
  have real := (Ledger.realDebt_bounds owes).1
  have value : (debt * Q96.unit : Int) ≤ unitValue price asset * owed := by
    exact_mod_cast (valued_bounds worth).1
  calc (debt * (Q96.unit * Q96.unit) : Int)
      = debt * Q96.unit * Q96.unit := (mul_assoc ..).symm
    _ ≤ unitValue price asset * owed * Q96.unit :=
        Int.mul_le_mul_of_nonneg_right value (Int.natCast_nonneg _)
    _ = owed * Q96.unit * unitValue price asset := by ring
    _ ≤ (book.ledger asset).netDebtCoeff * (book.ledger asset).discountedDebt
          * unitValue price asset :=
        Int.mul_le_mul_of_nonneg_right real (Int.natCast_nonneg _)

/-- If some debt in an asset is worth anything before it is rounded, then all is. -/
theorem exactDebtValue_pos {discounted part : Nat}
    (positive : 0 < book.exactDebtValue asset price discounted) (some : part ≠ 0)
    : 0 < book.exactDebtValue asset price part := by
  unfold exactDebtValue at positive ⊢
  have unit : (0 : Int) < unitValue price asset :=
    lt_of_le_of_ne (Int.natCast_nonneg _) (right_ne_zero_of_mul positive.ne').symm
  have debts := (mul_pos_iff_of_pos_right unit).mp positive
  have debt : (0 : Int) < discounted :=
    lt_of_le_of_ne (Int.natCast_nonneg _) (right_ne_zero_of_mul debts.ne').symm
  have coeff := (mul_pos_iff_of_pos_right debt).mp debts
  exact mul_pos (mul_pos coeff (Int.natCast_pos.mpr (Nat.pos_of_ne_zero some))) unit

/-- A side is within the leverage bound if every position on it is, although its debt is not rounded
down.
-/
theorem Consistent.systemLeverage_le (consistent : book.Consistent none)
    (valid : book.parameters.violation? = none)
    (each : ∀ account position, book.position? account = some position →
      position.kind.debtAsset? = some asset → book.WellWithin position asset price)
    (known : book.systemLeverage asset price = .ok leverage)
    : leverage ≤ book.parameters.leverageBound := by
  have one := (Parameters.one_lt_maxLeverage valid).le
  obtain ⟨total, owed, collateral, debt, totals, worth, owes, debtWorth,
    ⟨_, rfl⟩ | ⟨some, known⟩⟩ := systemLeverage_ok known
  · exact Parameters.one_le_leverageBound valid
  have debtLess := valued_totalRealDebt_le owes debtWorth
  refine leverageOf_le ?_ one some known
  by_cases worthless : book.exactDebtValue asset price (book.ledger asset).discountedDebt ≤ 0
  · have nothing : debt = 0 := by
      by_contra nonzero
      have : (0 : Int) < debt * (Q96.unit * Q96.unit) := by
        exact_mod_cast Nat.mul_pos (Nat.pos_of_ne_zero nonzero)
          (Nat.mul_pos Q96.unit_pos Q96.unit_pos)
      omega
    rw [nothing]
    exact Nat.zero_le _
  · have secured : book.Secures asset price (book.ledger asset.other).discountedCollateral
        (book.ledger asset).discountedDebt := by
      rw [consistent.collateralTallied, consistent.debtTallied]
      refine secures_sum fun position member => ?_
      obtain ⟨account, found⟩ := AccountTable.mem_values_iff.mp member
      by_cases owesNothing : (position.holding asset).debtAmount = 0
      · rw [owesNothing]
        exact secures_zero ..
      · refine (each account position found
          (consistent.debtAsset?_of_debt found owesNothing)).secures ?_
        exact mul_pos (Int.natCast_pos.mpr one)
          (exactDebtValue_pos (Int.not_le.mp worthless) owesNothing)
    have bears := secured.bears totals worth one
    have scaled : (book.parameters.maxLeverage * debt : Int) * (Q96.unit * Q96.unit)
        ≤ ((book.parameters.maxLeverage : Int) - 1) * collateral * (Q96.unit * Q96.unit) := by
      rw [mul_assoc, mul_assoc]
      exact (Int.mul_le_mul_of_nonneg_left debtLess (Int.natCast_nonneg _)).trans bears
    zify [one]
    exact Int.le_of_mul_le_mul_right scaled (by decide)

end Sums

end Book

end MarginLending
