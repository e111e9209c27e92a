import MarginLending.Proofs.Book.Leverage

/-!
How far rounding carries leverage past the bound. Before anything is rounded, the excess of debt
over what the bound allows is linear in debt and collateral. So what is rounded off the debt of a
root scales with the collateral of whatever ranks below it, and what is rounded off the positions of
a side adds up.
-/

namespace MarginLending

-----
-- What a rank says about debt and collateral
-----

namespace Position

section Ranks

variable {position root : Position} {asset : Asset}

/-- A rank that is not held at the largest amount is the ratio rounded down. -/
theorem sortKey_eq (owes : position.kind.debtAsset? = some asset)
    (ranks : position.sortKey < Amount.max)
    : (position.holding asset.other).collateralAmount ≠ 0
      ∧ position.sortKey = (position.holding asset).debtAmount * Nat.pow 2 rankBits
          / (position.holding asset.other).collateralAmount := by
  simp only [sortKey, owes] at ranks ⊢
  split at ranks
  · exact absurd ranks (Nat.lt_irrefl _)
  · next some =>
      rw [if_neg some]
      exact ⟨some, by omega⟩

/-- Below a root there is no more debt for the same collateral, but for one unit of rank. -/
theorem debt_le_of_sortKey_le (owes : position.kind.debtAsset? = some asset)
    (rootOwes : root.kind.debtAsset? = some asset) (ranks : position.sortKey ≤ root.sortKey)
    (small : root.sortKey < Amount.max)
    : (position.holding asset).debtAmount
        * (Nat.pow 2 rankBits * (root.holding asset.other).collateralAmount)
      ≤ (position.holding asset.other).collateralAmount
        * ((root.holding asset).debtAmount * Nat.pow 2 rankBits
          + (root.holding asset.other).collateralAmount) := by
  obtain ⟨some, rank⟩ := sortKey_eq owes (Nat.lt_of_le_of_lt ranks small)
  obtain ⟨_, rootRank⟩ := sortKey_eq rootOwes small
  have upper := Nat.lt_mul_div_succ ((position.holding asset).debtAmount * Nat.pow 2 rankBits)
    (Nat.pos_of_ne_zero some)
  rw [← rank] at upper
  have lower := Nat.mul_div_le ((root.holding asset).debtAmount * Nat.pow 2 rankBits)
    (root.holding asset.other).collateralAmount
  rw [← rootRank] at lower
  generalize (position.holding asset).debtAmount = debt at *
  generalize (position.holding asset.other).collateralAmount = collateral at *
  generalize (root.holding asset).debtAmount = rootDebt at *
  generalize (root.holding asset.other).collateralAmount = rootCollateral at *
  calc debt * (Nat.pow 2 rankBits * rootCollateral)
      = debt * Nat.pow 2 rankBits * rootCollateral := (Nat.mul_assoc ..).symm
    _ ≤ collateral * (root.sortKey + 1) * rootCollateral :=
        Nat.mul_le_mul_right _ (upper.le.trans (Nat.mul_le_mul_left _ (Nat.succ_le_succ ranks)))
    _ = collateral * (rootCollateral * root.sortKey + rootCollateral) := by ring
    _ ≤ collateral * (rootDebt * Nat.pow 2 rankBits + rootCollateral) :=
        Nat.mul_le_mul_left _ (Nat.add_le_add_right lower _)

end Ranks

end Position

namespace Book

-----
-- Excess over the bound before anything is rounded
-----

section Excess

variable {book : Book} {asset : Asset} {price : Q96} {collateral debt : Nat}

/-- What discounted collateral behind discounted debt is worth before anything is rounded, in
fractions of a fraction of quote.
-/
def exactCollateralValue (book : Book) (asset : Asset) (price : Q96) (collateral debt : Nat)
    : Int :=
  ((book.ledger asset.other).collateralCoeff.raw * collateral
    - (book.ledger asset.other).chargeCoeff.raw * debt) * unitValue price asset.other

/-- By how much discounted debt passes what the least leverage above the bound allows on discounted
collateral, before anything is rounded.
-/
def excess (book : Book) (asset : Asset) (price : Q96) (collateral debt : Nat) : Int :=
  (book.parameters.leverageBound.raw + 1) * book.exactDebtValue asset price debt
    - (book.parameters.leverageBound.raw + 1 - Q96.unit)
      * book.exactCollateralValue asset price collateral debt

/-- What excess loses at most when debt is rounded down, to tokens and then to a value. -/
def debtRounding (book : Book) (asset : Asset) (price : Q96) : Int :=
  (book.parameters.leverageBound.raw + 1) * ((Q96.unit + unitValue price asset) * Q96.unit)

theorem excess_add (collateral debt collateral' debt' : Nat)
    : book.excess asset price (collateral + collateral') (debt + debt')
      = book.excess asset price collateral debt + book.excess asset price collateral' debt' := by
  unfold excess exactDebtValue exactCollateralValue
  push_cast
  ring

/-- Excess is linear in collateral and in debt. -/
theorem excess_eq (book : Book) (asset : Asset) (price : Q96) (collateral debt : Nat)
    : book.excess asset price collateral debt
      = collateral * book.excess asset price 1 0 + debt * book.excess asset price 0 1 := by
  unfold excess exactDebtValue exactCollateralValue
  push_cast
  ring

theorem unit_le_leverageBound (valid : book.parameters.violation? = none)
    : (0 : Int) ≤ book.parameters.leverageBound.raw + 1 - Q96.unit := by
  have one : Q96.unit ≤ book.parameters.leverageBound.raw := Parameters.one_le_leverageBound valid
  omega

/-- More debt adds to the excess. -/
theorem excess_debt_nonneg (valid : book.parameters.violation? = none) {owed : Nat}
    (owes : (book.ledger asset).realDebt debt = .ok owed)
    : 0 ≤ book.excess asset price 0 1 := by
  obtain ⟨coeff, effective, _⟩ := Ledger.realDebt_eq_ok.mp owes
  have owing : (0 : Int)
      ≤ (book.parameters.leverageBound.raw + 1) * (coeff.raw * unitValue price asset) :=
    mul_nonneg (by omega) (by positivity)
  have charged : (0 : Int) ≤ (book.parameters.leverageBound.raw + 1 - Q96.unit)
      * ((book.ledger asset.other).chargeCoeff.raw * unitValue price asset.other) :=
    mul_nonneg (unit_le_leverageBound valid) (by positivity)
  calc (0 : Int)
      ≤ (book.parameters.leverageBound.raw + 1) * (coeff.raw * unitValue price asset)
        + (book.parameters.leverageBound.raw + 1 - Q96.unit)
          * ((book.ledger asset.other).chargeCoeff.raw * unitValue price asset.other) :=
        add_nonneg owing charged
    _ = book.excess asset price 0 1 := by
        unfold excess exactDebtValue exactCollateralValue
        rw [Ledger.netDebtCoeff_eq effective]
        push_cast
        ring

/-- Without debt there is no excess. -/
theorem excess_zero_le (valid : book.parameters.violation? = none) (collateral : Nat)
    : book.excess asset price collateral 0 ≤ 0 := by
  have held : (0 : Int) ≤ (book.parameters.leverageBound.raw + 1 - Q96.unit)
      * ((book.ledger asset.other).collateralCoeff.raw * collateral
        * unitValue price asset.other) :=
    mul_nonneg (unit_le_leverageBound valid) (by positivity)
  have none : book.excess asset price collateral 0
      = -((book.parameters.leverageBound.raw + 1 - Q96.unit)
        * ((book.ledger asset.other).collateralCoeff.raw * collateral
          * unitValue price asset.other)) := by
    unfold excess exactDebtValue exactCollateralValue
    push_cast
    ring
  rw [none]
  exact Int.neg_nonpos_of_nonneg held

/-- The bound is no more than twice the equity that it asks for. -/
theorem debtRounding_le (valid : book.parameters.violation? = none)
    : book.debtRounding asset price
      ≤ 2 * (book.parameters.leverageBound.raw + 1 - Q96.unit)
        * ((Q96.unit + unitValue price asset) * Q96.unit) := by
  have rounding : (0 : Int) ≤ (Q96.unit + unitValue price asset) * Q96.unit := by positivity
  have double : (2 : Int) * Q96.unit ≤ book.parameters.leverageBound.raw := by
    exact_mod_cast Nat.mul_le_mul_right Q96.unit (Parameters.one_lt_maxLeverage valid)
  exact mul_le_mul_of_nonneg_right (by omega) rounding

end Excess

-----
-- What rounding takes off a position
-----

section Rounding

variable {book : Book} {asset : Asset} {price : Q96} {collateral debt owed net value : Nat}

/-- Debt is worth less than its value and what rounding may have taken off. -/
theorem exactDebtValue_lt (owes : (book.ledger asset).realDebt debt = .ok owed)
    (worth : valued asset price owed = .ok value)
    : book.exactDebtValue asset price debt
      < value * (Q96.unit * Q96.unit) + (Q96.unit + unitValue price asset) * Q96.unit := by
  have real := (Ledger.realDebt_bounds owes).2
  have exact : (unitValue price asset * owed : Int) < value * Q96.unit + Q96.unit := by
    exact_mod_cast (valued_bounds worth).2
  have unit : (0 : Int) < Q96.unit := by exact_mod_cast Q96.unit_pos
  calc book.exactDebtValue asset price debt
      ≤ (owed * Q96.unit + Q96.unit) * unitValue price asset :=
        mul_le_mul_of_nonneg_right real.le (Int.natCast_nonneg _)
    _ = unitValue price asset * owed * Q96.unit + unitValue price asset * Q96.unit := by ring
    _ < (value * Q96.unit + Q96.unit) * Q96.unit + unitValue price asset * Q96.unit :=
        Int.add_lt_add_right (Int.mul_lt_mul_of_pos_right exact unit) _
    _ = value * (Q96.unit * Q96.unit) + (Q96.unit + unitValue price asset) * Q96.unit := by ring

/-- Collateral of some value is worth no less than it. -/
theorem le_exactCollateralValue
    (holds : (book.ledger asset.other).netCollateral collateral debt = .ok net)
    (worth : valued asset.other price net = .ok value) (some : value ≠ 0)
    : value * (Q96.unit * Q96.unit) ≤ book.exactCollateralValue asset price collateral debt := by
  have left : net ≠ 0 := by
    rintro rfl
    exact some (valued_zero worth)
  have claim := Ledger.netCollateral_le_claim holds
  have uncharged := Nat.mul_pos (Nat.pos_of_ne_zero left) Q96.unit_pos
  have covered : (net * Q96.unit : Int) ≤ (book.ledger asset.other).collateralCoeff.raw * collateral
      - (book.ledger asset.other).chargeCoeff.raw * debt := by
    unfold Ledger.claim at claim
    omega
  have exact : (value * Q96.unit : Int) ≤ unitValue price asset.other * net := by
    exact_mod_cast (valued_bounds worth).1
  calc (value * (Q96.unit * Q96.unit) : Int)
      = value * Q96.unit * Q96.unit := (mul_assoc ..).symm
    _ ≤ unitValue price asset.other * net * Q96.unit :=
        Int.mul_le_mul_of_nonneg_right exact (Int.natCast_nonneg _)
    _ = net * Q96.unit * unitValue price asset.other := by ring
    _ ≤ book.exactCollateralValue asset price collateral debt :=
        Int.mul_le_mul_of_nonneg_right covered (Int.natCast_nonneg _)

/-- Collateral is worth less than its value and what rounding may have taken off. -/
theorem exactCollateralValue_lt
    (holds : (book.ledger asset.other).netCollateral collateral debt = .ok net)
    (worth : valued asset.other price net = .ok value)
    : book.exactCollateralValue asset price collateral debt
      < (value * Q96.unit + Q96.unit + 2 * unitValue price asset.other) * Q96.unit := by
  obtain ⟨real, charge, whole, charged, rfl⟩ := Ledger.netCollateral_eq_ok.mp holds
  have held := (Q96.scale_ok (Ledger.realCollateral_eq_ok.mp whole)).2
  have less := Ledger.charge_lt charged
  have covered : ((book.ledger asset.other).collateralCoeff.raw * collateral
      - (book.ledger asset.other).chargeCoeff.raw * debt : Int)
      ≤ ((real - charge : Nat) + 2) * Q96.unit := by
    have rest : real * Q96.unit ≤ (real - charge) * Q96.unit + charge * Q96.unit := by
      rw [← Nat.add_mul]
      exact Nat.mul_le_mul_right _ (by omega)
    zify at held less rest
    linarith
  have exact : (unitValue price asset.other * (real - charge : Nat) : Int)
      < value * Q96.unit + Q96.unit := by
    exact_mod_cast (valued_bounds worth).2
  have unit : (0 : Int) < Q96.unit := by exact_mod_cast Q96.unit_pos
  calc book.exactCollateralValue asset price collateral debt
      ≤ ((real - charge : Nat) + 2) * Q96.unit * unitValue price asset.other :=
        Int.mul_le_mul_of_nonneg_right covered (Int.natCast_nonneg _)
    _ = unitValue price asset.other * (real - charge : Nat) * Q96.unit
          + 2 * unitValue price asset.other * Q96.unit := by ring
    _ < (value * Q96.unit + Q96.unit) * Q96.unit
          + 2 * unitValue price asset.other * Q96.unit :=
        Int.add_lt_add_right (Int.mul_lt_mul_of_pos_right exact unit) _
    _ = (value * Q96.unit + Q96.unit + 2 * unitValue price asset.other) * Q96.unit := by ring

variable {position root : Position}

/-- A position within the bound has less excess than what rounding may have taken off its debt. -/
theorem excess_lt_of_within (valid : book.parameters.violation? = none)
    (bounded : book.parameters.leverageBound < .maximum)
    (owes : position.kind.debtAsset? = some asset)
    (within : book.isLiquidatable position price = .ok false)
    : book.excess asset price (position.holding asset.other).collateralAmount
        (position.holding asset).debtAmount
      < book.debtRounding asset price := by
  obtain ⟨leverage, known, below⟩ := isLiquidatable_eq_ok.mp within
  obtain ⟨net, owed, held, debt, holds, worth, owing, debtWorth, leveraged⟩ :=
    positionLeverage_ok owes known
  have exceeds := (leverageOf_le_iff bounded leveraged).mp
    (Nat.not_lt.mp (of_decide_eq_false below))
  have some : held ≠ 0 := by
    rintro rfl
    exact absurd exceeds (Nat.not_lt_zero _)
  rw [collateralIn, Asset.other_other] at holds
  have debtPart := exactDebtValue_lt owing debtWorth
  have heldPart := le_exactCollateralValue holds worth some
  have spread : (0 : Int) < book.parameters.leverageBound.raw + 1 := by omega
  have scaledDebt := Int.mul_lt_mul_of_pos_left debtPart spread
  have scaledHeld := Int.mul_le_mul_of_nonneg_left heldPart (unit_le_leverageBound valid)
  have scaled : ((Q96.unit * held + (book.parameters.leverageBound.raw + 1) * debt : Nat) : Int)
      * (Q96.unit * Q96.unit)
      ≤ ((book.parameters.leverageBound.raw + 1) * held : Nat) * (Q96.unit * Q96.unit) := by
    exact_mod_cast Nat.mul_le_mul_right _ exceeds.le
  push_cast at scaled
  unfold excess debtRounding
  linarith

/-- What ranks below a root has no more excess than the root has for the same collateral, but for
the debt of one unit of rank.
-/
theorem excess_le_of_sortKey_le (owing : 0 ≤ book.excess asset price 0 1)
    (owes : position.kind.debtAsset? = some asset) (rootOwes : root.kind.debtAsset? = some asset)
    (ranks : position.sortKey ≤ root.sortKey) (small : root.sortKey < Amount.max)
    : book.excess asset price (position.holding asset.other).collateralAmount
          (position.holding asset).debtAmount
        * (Nat.pow 2 Position.rankBits * (root.holding asset.other).collateralAmount)
      ≤ (position.holding asset.other).collateralAmount
        * (Nat.pow 2 Position.rankBits
            * book.excess asset price (root.holding asset.other).collateralAmount
                (root.holding asset).debtAmount
          + (root.holding asset.other).collateralAmount * book.excess asset price 0 1) := by
  have less := Position.debt_le_of_sortKey_le owes rootOwes ranks small
  rw [excess_eq _ _ _ (position.holding asset.other).collateralAmount,
    excess_eq _ _ _ (root.holding asset.other).collateralAmount]
  generalize (position.holding asset).debtAmount = debt at *
  generalize (position.holding asset.other).collateralAmount = collateral at *
  generalize (root.holding asset).debtAmount = rootDebt at *
  generalize (root.holding asset.other).collateralAmount = rootCollateral at *
  have scaled : ((debt * (Nat.pow 2 Position.rankBits * rootCollateral) : Nat) : Int)
        * book.excess asset price 0 1
      ≤ (collateral * (rootDebt * Nat.pow 2 Position.rankBits + rootCollateral) : Nat)
        * book.excess asset price 0 1 :=
    Int.mul_le_mul_of_nonneg_right (Int.ofNat_le.mpr less) owing
  push_cast at scaled ⊢
  linarith

/-- A position exceeds the bound by no more than what rounding may have taken off the debt of a
root, for as much collateral as the root has; and by the debt of one unit of rank.
-/
def WithinRounding (book : Book) (root position : Position) (asset : Asset) (price : Q96) : Prop :=
  book.excess asset price (position.holding asset.other).collateralAmount
        (position.holding asset).debtAmount
      * (Nat.pow 2 Position.rankBits * (root.holding asset.other).collateralAmount)
    ≤ (position.holding asset.other).collateralAmount
      * (Nat.pow 2 Position.rankBits * book.debtRounding asset price
        + (root.holding asset.other).collateralAmount * book.excess asset price 0 1)

/-- Whatever ranks below a root within the bound is within it up to rounding. -/
theorem withinRounding_of_sortKey_le (valid : book.parameters.violation? = none)
    (bounded : book.parameters.leverageBound < .maximum)
    (owes : position.kind.debtAsset? = some asset) (rootOwes : root.kind.debtAsset? = some asset)
    (ranks : position.sortKey ≤ root.sortKey) (small : root.sortKey < Amount.max)
    (within : book.isLiquidatable root price = .ok false)
    : book.WithinRounding root position asset price := by
  obtain ⟨_, known, _⟩ := isLiquidatable_eq_ok.mp within
  obtain ⟨_, _, _, _, _, _, owing, _⟩ := positionLeverage_ok rootOwes known
  have hidden := excess_lt_of_within valid bounded rootOwes within
  refine (excess_le_of_sortKey_le (excess_debt_nonneg valid owing) owes rootOwes ranks
    small).trans ?_
  exact mul_le_mul_of_nonneg_left (Int.add_le_add_right
    (mul_le_mul_of_nonneg_left hidden.le (Int.natCast_nonneg _)) _) (Int.natCast_nonneg _)

end Rounding

-----
-- What rounding takes off a side
-----

section Sides

variable {book : Book} {asset : Asset} {price leverage : Q96}

/-- Excess adds up over positions, of which those who owe the asset have no more than rounding may
have taken off each, by induction on the list.
-/
theorem excess_sum_le {positions : List Position}
    (each : ∀ position ∈ positions,
      book.excess asset price (position.holding asset.other).collateralAmount
          (position.holding asset).debtAmount
        ≤ if position.kind.debtAsset? = some asset then book.debtRounding asset price else 0)
    : book.excess asset price
        (positions.map fun position => (position.holding asset.other).collateralAmount).sum
        (positions.map fun position => (position.holding asset).debtAmount).sum
      ≤ (positions.countP fun position => position.kind.debtAsset? = some asset)
        * book.debtRounding asset price := by
  induction positions with
  | nil => simp [excess, exactDebtValue, exactCollateralValue]
  | cons position rest ih =>
      have tail := ih fun other member => each other (List.mem_cons_of_mem _ member)
      have head := each position List.mem_cons_self
      rw [List.map_cons, List.map_cons, List.sum_cons, List.sum_cons, excess_add, List.countP_cons]
      by_cases owes : position.kind.debtAsset? = some asset
      · rw [if_pos owes] at head
        rw [if_pos (decide_eq_true owes)]
        push_cast
        linarith
      · rw [if_neg owes] at head
        rw [if_neg (by simpa using owes), Nat.add_zero]
        linarith

/-- Each heap ranks exactly the accounts whose positions owe its asset. -/
theorem Seated.accounts_perm (seated : book.Seated none) (asset : Asset)
    : List.Perm (book.heap asset).accounts
        ((book.positions.entries.filter fun entry => entry.2.kind.debtAsset? = some asset).map
          Prod.fst) := by
  let owing := book.positions.entries.filter fun entry => entry.2.kind.debtAsset? = some asset
  have once : (owing.map Prod.fst).Nodup :=
    book.positions.nodup_accounts.sublist (List.filter_sublist.map _)
  refine (List.perm_ext_iff_of_nodup (seated.tracked asset).nodup_accounts once).mpr fun account =>
    ?_
  constructor
  · intro member
    obtain ⟨position, found⟩ := Option.isSome_iff_exists.mp (seated.position?_isSome member)
    have listed := AccountTable.get?_eq_some_iff.mp found
    have owes := (seated.mem_iff found).mp member
    exact List.mem_map.mpr ⟨_, List.mem_filter.mpr ⟨listed, decide_eq_true owes⟩, rfl⟩
  · intro member
    obtain ⟨⟨_, position⟩, inOwing, rfl⟩ := List.mem_map.mp member
    obtain ⟨listed, owes⟩ := List.mem_filter.mp inOwing
    have found : book.position? _ = some position := AccountTable.get?_eq_some_iff.mpr listed
    exact (seated.mem_iff found).mpr (of_decide_eq_true owes)

/-- So it ranks as many accounts as positions owe the asset. -/
theorem Seated.countP_owing (seated : book.Seated none) (asset : Asset)
    : book.positions.values.countP (fun position => position.kind.debtAsset? = some asset)
      = (book.heap asset).size := by
  rw [AccountTable.values, List.countP_map, List.countP_eq_length_filter,
    ← LeverageHeap.length_accounts, (seated.accounts_perm asset).length_eq, List.length_map]
  rfl

/-- If every position of a side is within the bound, the side has no more excess than what rounding
may have taken off the debt of each.
-/
theorem Consistent.excess_le (consistent : book.Consistent none)
    (valid : book.parameters.violation? = none)
    (bounded : book.parameters.leverageBound < .maximum)
    (each : ∀ account position, book.position? account = some position →
      position.kind.debtAsset? = some asset → book.isLiquidatable position price = .ok false)
    : book.excess asset price (book.ledger asset.other).discountedCollateral
        (book.ledger asset).discountedDebt
      ≤ (book.heap asset).size * book.debtRounding asset price := by
  rw [consistent.collateralTallied, consistent.debtTallied, ← consistent.seated.countP_owing]
  refine excess_sum_le fun position member => ?_
  obtain ⟨account, found⟩ := AccountTable.mem_values_iff.mp member
  split
  · next owes =>
      exact (excess_lt_of_within valid bounded owes (each account position found owes)).le
  · next spared =>
      have nothing : (position.holding asset).debtAmount = 0 := by
        by_contra owes
        exact spared (consistent.debtAsset?_of_debt found owes)
      rw [nothing]
      exact excess_zero_le valid _

/-- Leverage of a side if its collateral were worth some more. -/
def cushionedLeverage (book : Book) (debtAsset : Asset) (price : Q96) (cushion : Nat)
    : Except PoolError Q96 := do
  let collateral ← valued debtAsset.other price (← book.totalCollateral debtAsset.other)
  let debt ← valued debtAsset price (← (book.ledger debtAsset).totalRealDebt)
  leverageOf (collateral + cushion) debt

/-- What rounding may take off the positions of a side and off the side itself, in fractions of
quote.
-/
def sideRounding (book : Book) (asset : Asset) (price : Q96) : Nat :=
  2 * (book.heap asset).size * (Q96.unit + unitValue price asset)
    + Q96.unit + 2 * unitValue price asset.other

/-- If every position of a side is within the bound, the side is within it up to rounding. -/
theorem Consistent.cushionedLeverage_le (consistent : book.Consistent none)
    (valid : book.parameters.violation? = none)
    (bounded : book.parameters.leverageBound < .maximum)
    (each : ∀ account position, book.position? account = some position →
      position.kind.debtAsset? = some asset → book.isLiquidatable position price = .ok false)
    {cushion : Nat} (covers : book.sideRounding asset price ≤ cushion * Q96.unit)
    (known : book.cushionedLeverage asset price cushion = .ok leverage)
    : leverage ≤ book.parameters.leverageBound := by
  simp only [cushionedLeverage, Except.bind_eq_ok] at known
  obtain ⟨total, totals, collateral, worth, owed, owes, debt, debtWorth, known⟩ := known
  have small := (consistent.excess_le valid bounded each).trans
    (mul_le_mul_of_nonneg_left (debtRounding_le valid) (Int.natCast_nonneg _))
  have owing := valued_totalRealDebt_le owes debtWorth
  have holding := exactCollateralValue_lt (totalCollateral_ok totals) worth
  have one : (Q96.unit : Int) ≤ book.parameters.leverageBound.raw := by
    exact_mod_cast Parameters.one_le_leverageBound valid
  have unit : (0 : Int) < Q96.unit := by exact_mod_cast Q96.unit_pos
  unfold excess at small
  unfold sideRounding at covers
  rw [leverageOf_le_iff bounded known]
  zify at covers ⊢
  generalize (book.parameters.leverageBound.raw : Int) = bound at *
  have spread : 0 < bound + 1 - Q96.unit := by omega
  have borne : (bound + 1) * debt * (Q96.unit * Q96.unit)
      < (bound + 1 - Q96.unit) * (collateral + cushion) * (Q96.unit * Q96.unit) := by
    calc (bound + 1) * debt * (Q96.unit * Q96.unit)
        = (bound + 1) * (debt * (Q96.unit * Q96.unit)) := mul_assoc ..
      _ ≤ (bound + 1) * book.exactDebtValue asset price (book.ledger asset).discountedDebt :=
          mul_le_mul_of_nonneg_left owing (by omega)
      _ ≤ (bound + 1 - Q96.unit) * book.exactCollateralValue asset price
              (book.ledger asset.other).discountedCollateral (book.ledger asset).discountedDebt
            + (book.heap asset).size * (2 * (bound + 1 - Q96.unit)
              * ((Q96.unit + unitValue price asset) * Q96.unit)) := by
          linarith
      _ < (bound + 1 - Q96.unit)
              * ((collateral * Q96.unit + Q96.unit + 2 * unitValue price asset.other) * Q96.unit)
            + (book.heap asset).size * (2 * (bound + 1 - Q96.unit)
              * ((Q96.unit + unitValue price asset) * Q96.unit)) :=
          Int.add_lt_add_right (Int.mul_lt_mul_of_pos_left holding spread) _
      _ = (bound + 1 - Q96.unit) * Q96.unit * (collateral * Q96.unit
            + (2 * (book.heap asset).size * (Q96.unit + unitValue price asset) + Q96.unit
              + 2 * unitValue price asset.other)) := by ring
      _ ≤ (bound + 1 - Q96.unit) * Q96.unit * (collateral * Q96.unit + cushion * Q96.unit) :=
          mul_le_mul_of_nonneg_left (Int.add_le_add_left covers _) (mul_pos spread unit).le
      _ = (bound + 1 - Q96.unit) * (collateral + cushion) * (Q96.unit * Q96.unit) := by ring
  have less := lt_of_mul_lt_mul_right borne (mul_pos unit unit).le
  linarith

end Sides

end Book

end MarginLending
