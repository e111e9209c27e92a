import MarginLending.Proofs.Book.Deeds

/-!
Coefficients only rise. Whatever a call does to a book, no coefficient of either ledger falls, and
the relief stays below the debt coefficient: compounding keeps the two apart although each is
rounded down on its own, and a write-off stops before the last unit of debt.
-/

namespace MarginLending

namespace Q96

section Compounding

variable {a b growth c d : Q96}

/-- A factor of one or more makes nothing smaller, although the product is rounded down. -/
theorem le_mul (product : a.mul growth = .ok c) (up : one ≤ growth) : a ≤ c := by
  have upper := (mul_ok product).2
  have grown : a.raw * unit ≤ a.raw * growth.raw := Nat.mul_le_mul_left _ up
  exact le_of_mul_unit_lt (Nat.lt_of_le_of_lt grown upper)

/-- A factor of one or more keeps a gap of one raw unit open, although both products are rounded
down.
-/
theorem mul_lt_mul (less : a < b) (lesser : a.mul growth = .ok c) (greater : b.mul growth = .ok d)
    (up : one ≤ growth)
    : c < d := by
  have lower := (mul_ok lesser).1
  have upper := (mul_ok greater).2
  have gap : (a.raw + 1) * growth.raw ≤ b.raw * growth.raw := Nat.mul_le_mul_right _ less
  rw [Nat.succ_mul] at gap
  have wide : unit ≤ growth.raw := up
  have apart : c.raw * unit < d.raw * unit := by omega
  exact Nat.lt_of_mul_lt_mul_right apart

theorem le_of_add (sum : a.add b = .ok c) : a ≤ c := by
  rw [le_def, (add_eq_ok.mp sum).2]
  exact Nat.le_add_right ..

end Compounding

end Q96

-----
-- One ledger
-----

namespace Ledger

/-- The coefficients of a ledger are one at least, and not all of the debt coefficient is relieved.
-/
structure Indexed (ledger : Ledger) : Prop where
  collateral : Q96.one ≤ ledger.collateralCoeff
  debt : Q96.one ≤ ledger.debtCoeff
  relief : ledger.debtRelief < ledger.debtCoeff

/-- No coefficient falls, and an effective debt coefficient that was positive stays so. -/
structure Rises (before after : Ledger) : Prop where
  collateral : before.collateralCoeff ≤ after.collateralCoeff
  debt : before.debtCoeff ≤ after.debtCoeff
  charge : before.chargeCoeff ≤ after.chargeCoeff
  relief : before.debtRelief ≤ after.debtRelief
  apart : before.debtRelief < before.debtCoeff → after.debtRelief < after.debtCoeff

theorem indexed_new : Ledger.new.Indexed := ⟨Nat.le_refl _, Nat.le_refl _, Q96.unit_pos⟩

section Rising

variable {first second third ledger after : Ledger}

theorem Rises.refl (ledger : Ledger) : ledger.Rises ledger :=
  ⟨Nat.le_refl _, Nat.le_refl _, Nat.le_refl _, Nat.le_refl _, id⟩

theorem Rises.trans (before : first.Rises second) (after : second.Rises third)
    : first.Rises third where
  collateral := Nat.le_trans before.collateral after.collateral
  debt := Nat.le_trans before.debt after.debt
  charge := Nat.le_trans before.charge after.charge
  relief := Nat.le_trans before.relief after.relief
  apart := fun stays => after.apart (before.apart stays)

theorem Rises.indexed (rises : first.Rises second) (indexed : first.Indexed) : second.Indexed where
  collateral := Nat.le_trans indexed.collateral rises.collateral
  debt := Nat.le_trans indexed.debt rises.debt
  relief := rises.apart indexed.relief

theorem Exchanges.rises {old new : Holding} (exchanges : ledger.Exchanges after old new)
    : ledger.Rises after := by
  rw [exchanges.rest]
  exact ⟨Nat.le_refl _, Nat.le_refl _, Nat.le_refl _, Nat.le_refl _, id⟩

/-- Something is always left of what a unit of debt amounts to. -/
theorem Indexed.effectiveDebtCoeff (indexed : ledger.Indexed)
    : ∃ coeff, ledger.effectiveDebtCoeff = .ok coeff ∧ .zero < coeff := by
  have apart : ledger.debtRelief.raw < ledger.debtCoeff.raw := indexed.relief
  refine ⟨⟨ledger.debtCoeff.raw - ledger.debtRelief.raw⟩, ?_, Nat.sub_pos_of_lt apart⟩
  exact effectiveDebtCoeff_eq_ok.mpr (Q96.sub_eq_ok.mpr ⟨Nat.le_of_lt apart, rfl⟩)

/-- Growth compounds debt and relief by the same two factors, neither of them below one. -/
theorem rises_grow {interestGrowth feeGrowth : Q96} {fee : Nat}
    (grown : ledger.grow interestGrowth feeGrowth = .ok (after, fee))
    : ledger.Rises after := by
  obtain ⟨_, _, _, _, _, grownDebt, grownRelief, _, interestPart, _, feePart, _, _, collateral,
    debtOnce, debtTwice, reliefOnce, reliefTwice, rest⟩ := Book.grow_ok grown
  have interestUp : Q96.one ≤ interestGrowth := (Q96.sub_eq_ok.mp interestPart).1
  have feeUp : Q96.one ≤ feeGrowth := (Q96.sub_eq_ok.mp feePart).1
  constructor
  · rcases collateral with ⟨_, same⟩ | ⟨_, _, raised⟩
    · rw [same]
      exact Nat.le_refl _
    · exact Q96.le_of_add raised
  · exact Nat.le_trans (Q96.le_mul debtOnce interestUp) (Q96.le_mul debtTwice feeUp)
  · rw [rest]
    exact Nat.le_refl _
  · exact Nat.le_trans (Q96.le_mul reliefOnce interestUp) (Q96.le_mul reliefTwice feeUp)
  · intro stays
    have once : grownRelief < grownDebt := Q96.mul_lt_mul stays reliefOnce debtOnce interestUp
    exact Q96.mul_lt_mul once reliefTwice debtTwice feeUp

/-- A write-off that leaves a unit of real debt leaves something of the coefficient: spread over all
discounted debt it comes to less than what the debt amounts to.
-/
theorem relief_lt {amount debt : Nat} {perUnit relief : Q96}
    (owes : ledger.totalRealDebt = .ok debt) (stays : amount < debt)
    (spread : Q96.ofRatio amount ledger.discountedDebt = .ok perUnit)
    (sum : ledger.debtRelief.add perUnit = .ok relief)
    : relief < ledger.debtCoeff := by
  obtain ⟨coeff, effective, scaled⟩ := realDebt_eq_ok.mp owes
  obtain ⟨enough, left⟩ := Q96.sub_eq_ok.mp (effectiveDebtCoeff_eq_ok.mp effective)
  have worth := (Q96.scale_ok scaled).1
  have share := (Q96.ofRatio_ok spread).2.1
  have unit := Q96.unit_pos
  have short : amount * Q96.unit + Q96.unit ≤ debt * Q96.unit := by
    rw [← Nat.succ_mul]
    exact Nat.mul_le_mul_right _ stays
  have below : perUnit.raw * ledger.discountedDebt < coeff.raw * ledger.discountedDebt := by omega
  have perUnit : perUnit.raw < coeff.raw := Nat.lt_of_mul_lt_mul_right below
  rw [Q96.lt_def, (Q96.add_eq_ok.mp sum).2]
  omega

end Rising

end Ledger

-----
-- Both ledgers of a book
-----

namespace Book

/-- The coefficients of both ledgers are in their range. -/
def Indexed (book : Book) : Prop := ∀ asset, (book.ledger asset).Indexed

/-- No coefficient of either ledger falls. -/
def Rises (book book' : Book) : Prop := ∀ asset, (book.ledger asset).Rises (book'.ledger asset)

section Rising

variable {first second third book book' : Book} {caller owner account : AccountId} {asset : Asset}

theorem indexed_new (parameters : Parameters) (start : Timestamp)
    : (Book.new parameters start).Indexed := by
  intro asset
  have ledger : (Book.new parameters start).ledger asset = .new := PerAsset.get_both _ _
  rw [ledger]
  exact Ledger.indexed_new

theorem Rises.refl (book : Book) : book.Rises book := fun _ => .refl _

theorem Rises.trans (before : first.Rises second) (after : second.Rises third)
    : first.Rises third :=
  fun asset => (before asset).trans (after asset)

theorem Rises.indexed (rises : book.Rises book') (indexed : book.Indexed) : book'.Indexed :=
  fun asset => (rises asset).indexed (indexed asset)

theorem rises_of_ledger (same : ∀ asset, book'.ledger asset = book.ledger asset)
    : book.Rises book' := by
  intro asset
  rw [same]
  exact .refl _

theorem rises_setLedger {ledger : Ledger} (rises : (book.ledger asset).Rises ledger)
    : book.Rises (book.setLedger asset ledger) := by
  intro other
  rcases asset.eq_or_eq_other other with rfl | rfl
  · rwa [ledger_setLedger_same]
  · rw [ledger_setLedger_other]
    exact .refl _

theorem rises_credit {real : Nat} (credited : credit account asset real book = .ok () book')
    : book.Rises book' := by
  rcases credit_ok credited with ⟨_, rfl⟩ | ⟨_, _, _, _, _, paid, rebased, rfl⟩
  · exact .refl _
  · have booked := rebooked_rebook paid.exchanges.normalized rebased.exchanges
    exact fun asset => (booked.booked asset).rises

theorem rises_debit {real : Nat} (debited : debit account asset real book = .ok () book')
    : book.Rises book' := by
  rcases debit_ok debited with ⟨_, rfl⟩ | ⟨_, _, _, _, _, _, _, taken, rebased, _, rfl⟩
  · exact .refl _
  · have booked := rebooked_rebook taken.exchanges.normalized rebased.exchanges
    exact fun asset => (booked.booked asset).rises

theorem rises_removePosition (removed : removePosition account book = .ok () book')
    : book.Rises book' := by
  rcases removed_of_removePosition removed with ⟨_, rfl⟩ | ⟨_, _, gone⟩
  · exact .refl _
  · exact fun asset => (gone.exchanged asset).rises

theorem rises_payOut {amount : Nat} (paid : payOut asset amount book = .ok () book')
    : book.Rises book' := by
  obtain ⟨_, rfl⟩ := payOut_ok paid
  exact rises_setLedger ⟨Nat.le_refl _, Nat.le_refl _, Nat.le_refl _, Nat.le_refl _, id⟩

theorem rises_payIn {amount : Nat} (paid : payIn asset amount book = .ok () book')
    : book.Rises book' := by
  obtain rfl := payIn_ok paid
  exact rises_setLedger ⟨Nat.le_refl _, Nat.le_refl _, Nat.le_refl _, Nat.le_refl _, id⟩

theorem rises_shareAmongLenders {amount : Nat}
    (shared : shareAmongLenders asset amount book = .ok () book')
    : book.Rises book' := by
  rcases shareAmongLenders_ok shared with ⟨_, rfl⟩ | ⟨_, credited⟩ | ⟨_, _, _, raised, rfl⟩
  · exact .refl _
  · exact rises_credit credited
  · exact rises_setLedger
      ⟨Q96.le_of_add raised, Nat.le_refl _, Nat.le_refl _, Nat.le_refl _, id⟩

theorem rises_chargeBorrowers {shortfall owed : Nat}
    (charged : chargeBorrowers asset shortfall owed book = .ok () book')
    : book.Rises book' := by
  obtain ⟨_, _, _, raised, rfl⟩ := chargeBorrowers_ok charged
  exact rises_setLedger ⟨Nat.le_refl _, Nat.le_refl _, Q96.le_of_add raised, Nat.le_refl _, id⟩

/-- A write-off that leaves one unit of the debt at least leaves something of its coefficient. -/
theorem rises_relieveDebt {amount debt : Nat} (owes : (book.ledger asset).totalRealDebt = .ok debt)
    (stays : amount ≤ debt - 1)
    (relieved : relieveDebt asset amount (book.ledger asset).discountedDebt book = .ok () book')
    : book.Rises book' := by
  by_cases nothing : amount = 0
  · subst nothing
    obtain ⟨_, rfl⟩ := EStateM.pure_eq_ok.mp relieved
    exact .refl _
  · rcases relieveDebt_ok relieved with ⟨_, rfl⟩ | ⟨_, _, spread, sum, rfl⟩
    · exact .refl _
    · have less := Ledger.relief_lt owes (by omega) spread sum
      exact rises_setLedger
        ⟨Nat.le_refl _, Nat.le_refl _, Nat.le_refl _, Q96.le_of_add sum, fun _ => less⟩

theorem rises_raiseDebt {shortfall owed : Nat}
    (raised : raiseDebt asset shortfall owed book = .ok () book')
    : book.Rises book' := by
  obtain ⟨_, _, _, sum, rfl⟩ := raiseDebt_ok raised
  have raises := Q96.le_of_add sum
  exact rises_setLedger ⟨Nat.le_refl _, raises, Nat.le_refl _, Nat.le_refl _,
    fun stays => Nat.lt_of_lt_of_le stays raises⟩

theorem rises_accrueSide {interestRate feeGrowth : Q96} {seconds : Nat}
    (accrued : accrueSide interestRate feeGrowth seconds asset book = .ok () book')
    : book.Rises book' := by
  rcases accrueSide_ok accrued with ⟨_, rfl⟩ | ⟨_, _, _, _, _, _, grown, credited⟩
  · exact .refl _
  · exact (rises_setLedger (Ledger.rises_grow grown)).trans (rises_credit credited)

/-- Nothing that a call does lets a coefficient fall. -/
theorem Deed.rises (deed : book.Deed caller owner book') : book.Rises book' := by
  cases deed with
  | payOut paid => exact rises_payOut paid
  | payIn paid => exact rises_payIn paid
  | share shared => exact rises_shareAmongLenders shared
  | charge charged => exact rises_chargeBorrowers charged
  | relieve owes stays relieved => exact rises_relieveDebt owes stays relieved
  | raise raised => exact rises_raiseDebt raised
  | credit _ credited => exact rises_credit credited
  | debit debited => exact rises_debit debited
  | reseat account => exact rises_of_ledger (book.reranked_reseat account).ledger
  | drop removed => exact rises_removePosition removed
  | seize _ _ removed => exact rises_removePosition removed
  | takeOver => exact rises_of_ledger fun asset => ledger_handOver asset
  | refresh refreshed =>
      obtain ⟨_, rfl⟩ := refreshLeverage_ok refreshed
      exact .refl _
  | grow accrued => exact rises_accrueSide accrued
  | stamp => exact .refl _
  | parameters => exact .refl _

/-- Nor does a sequence of actions, by induction on it. -/
theorem Deeds.rises (deeds : book.Deeds caller owner book') : book.Rises book' := by
  induction deeds with
  | refl => exact .refl book
  | tail _ last ih => exact ih.trans last.rises

end Rising

end Book

end MarginLending
