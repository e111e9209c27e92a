import MarginLending.Proofs.Book.Isolation
import MarginLending.Proofs.Book.Leverage

/-!
Who comes to owe more. Credits, removals and rebases raise no debt, and a debit raises none as long
as it stays within the net collateral. A sale takes what it sold only after its proceeds have repaid
debt, and with the debt goes the charge on the collateral, which is taken out of the collateral
rounded up. So a sale of all there is may come out a little short, and open a debt in the asset that
it sold.
-/

namespace MarginLending

-----
-- Collateral behind a debt that is repaid
-----

namespace Ledger

variable {ledger rebased after : Ledger} {held left new : Holding} {collateral debt net real : Nat}

/-- When a debt is repaid, the collateral behind it falls short of its net amount by less than a
discounted unit, although the charge and what is taken for it are both rounded up.
-/
theorem net_lt_of_repaid (known : ledger.netCollateral collateral debt = .ok net)
    (charged : ledger.chargeCoeff.isZero = false) (owes : 0 < debt)
    (rebases : ledger.Rebase debt 0 (.collateral collateral) left rebased)
    : net * Q96.unit
      < ledger.collateralCoeff.raw * left.collateralAmount + ledger.collateralCoeff.raw := by
  obtain ⟨whole, charge, holds, charges, rfl⟩ := netCollateral_eq_ok.mp known
  rw [charge_eq_ok, if_neg (by simp [charged]; omega)] at charges
  have lower := (Q96.scale_ok (realCollateral_eq_ok.mp holds)).1
  have upper := (Q96.scaleUp_ok charges).1
  rw [Nat.sub_mul]
  cases rebases with
  | same unmoved =>
      rcases unmoved with uncharged | settled
      · simp [charged] at uncharged
      · omega
  | more grows => omega
  | @less _ wide _ charges _ =>
      obtain ⟨positive, least, most⟩ := mulDivUp_ok charges
      rw [Nat.sub_zero, Nat.mul_comm wide] at least most
      change _ < _ * (collateral - min wide collateral) + _
      rcases Nat.le_total wide collateral with within | beyond
      · rw [Nat.min_eq_left within, Nat.mul_sub]
        omega
      · have taken := Nat.mul_le_mul_left ledger.collateralCoeff.raw beyond
        omega

/-- Taking no more than was there before opens a debt of less than a discounted unit, a real unit
and a unit of the debt itself, and only by taking all but less than a discounted unit.
-/
theorem debt_lt_of_short (short : net * Q96.unit
      < ledger.collateralCoeff.raw * left.collateralAmount + ledger.collateralCoeff.raw)
    (enough : real ≤ net) (unowed : left.debtAmount = 0)
    (taken : ledger.Debit real 0 left new after) (opens : new.debtAmount ≠ 0)
    : net * Q96.unit < real * Q96.unit + ledger.collateralCoeff.raw
      ∧ ∃ coeff, ledger.effectiveDebtCoeff = .ok coeff
          ∧ new.debtAmount * coeff.raw
            < ledger.collateralCoeff.raw + Q96.unit + coeff.raw := by
  have most := Nat.mul_le_mul_right Q96.unit enough
  cases taken with
  | partly => exact absurd rfl opens
  | @wholly collateral whole added coeff holds _ effective adds =>
      rw [Nat.sub_zero] at adds
      have above := (Q96.scale_ok (realCollateral_eq_ok.mp holds)).2
      have debt := (Q96.unscaleUp_ok adds).2.2
      have oversold : whole < real := by
        by_contra within
        rw [Nat.sub_eq_zero_of_le (Nat.not_lt.mp within)] at adds
        exact opens (Q96.unscaleUp_zero adds)
      have gap := Nat.mul_le_mul_right Q96.unit oversold
      rw [Nat.succ_mul] at gap
      rw [Nat.sub_mul] at debt
      change _ < _ * collateral + _ at short
      refine ⟨by omega, coeff, effective, ?_⟩
      change added * coeff.raw < _
      omega
  | @adds _ added coeff holdsNothing effective adds =>
      have debt := (Q96.unscaleUp_ok adds).2.2
      rw [holdsNothing, Nat.mul_zero, Nat.zero_add] at short
      refine ⟨by omega, coeff, effective, ?_⟩
      change (left.debtAmount + added) * coeff.raw < _
      rw [unowed, Nat.zero_add]
      omega

/-- Where nothing is charged, rebasing changes nothing. -/
theorem Rebase.uncharged_eq {before later : Nat} (uncharged : ledger.chargeCoeff.isZero)
    (rebases : ledger.Rebase before later held left rebased)
    : left = held := by
  have none : ledger.chargeCoeff.raw = 0 := beq_iff_eq.mp uncharged
  cases rebases with
  | debt | same => rfl
  | @more collateral wide _ uncharges =>
      obtain ⟨positive, most, _⟩ := mulDiv_ok uncharges
      rw [none, Nat.zero_mul] at most
      have nothing :=
        (Nat.mul_eq_zero.mp (Nat.le_zero.mp most)).resolve_right (Nat.ne_of_gt positive)
      rw [nothing, Nat.add_zero]
  | @less collateral wide _ charges _ =>
      obtain ⟨positive, _, most⟩ := mulDivUp_ok charges
      rw [none, Nat.zero_mul, Nat.zero_add] at most
      have nothing : wide = 0 := by
        by_contra some
        have one := Nat.mul_le_mul_right ledger.collateralCoeff.raw (Nat.pos_of_ne_zero some)
        omega
      rw [nothing, Nat.zero_min, Nat.sub_zero]

/-- Once all debt is repaid, selling no more than the net collateral that stood behind it opens a
debt only where a loss is charged and nearly all is sold.
-/
theorem debit_after_repayment (known : ledger.netCollateral held.collateralAmount debt = .ok net)
    (owes : debt ≠ 0) (unowed : held.debtAmount = 0)
    (rebases : ledger.Rebase debt 0 held left rebased)
    (enough : real ≤ net) (some : real ≠ 0) (taken : rebased.Debit real 0 left new after)
    (opens : new.debtAmount ≠ 0)
    : ledger.chargeCoeff.isZero = false
      ∧ net * Q96.unit < real * Q96.unit + ledger.collateralCoeff.raw
      ∧ ∃ coeff, ledger.effectiveDebtCoeff = .ok coeff
          ∧ new.debtAmount * coeff.raw
            < ledger.collateralCoeff.raw + Q96.unit + coeff.raw := by
  have rates := rebases.exchanges.rates_eq
  obtain ⟨whole, charge, holds, charges, rfl⟩ := netCollateral_eq_ok.mp known
  cases free : ledger.chargeCoeff.isZero with
  | true =>
      obtain rfl := rebases.uncharged_eq free
      rw [charge_eq_ok, if_pos (.inr free)] at charges
      rw [charges] at enough
      have same : rebased.realCollateral left.collateralAmount
          = ledger.realCollateral left.collateralAmount :=
        (congrArg (Ledger.realCollateral · left.collateralAmount) rates :)
      exact absurd (Book.debtAmount_of_debit_within (same.trans holds) enough some taken) opens
  | false =>
      have coeff : rebased.collateralCoeff = ledger.collateralCoeff :=
        (congrArg Ledger.collateralCoeff rates :)
      have effective : rebased.effectiveDebtCoeff = ledger.effectiveDebtCoeff :=
        (congrArg Ledger.effectiveDebtCoeff rates :)
      cases held with
      | collateral collateral =>
          have short := net_lt_of_repaid known free (Nat.pos_of_ne_zero owes) rebases
          rw [← coeff] at short
          have bounds :=
            debt_lt_of_short short enough (rebases.debtAmount_eq.trans unowed) taken opens
          rw [coeff, effective] at bounds
          exact ⟨rfl, bounds⟩
      | debt amount =>
          rw [Q96.scale_zero (realCollateral_eq_ok.mp holds)] at enough
          omega

/-- Paying exactly what is owed leaves neither debt nor collateral. -/
theorem credit_exactly (owes : ledger.realDebt held.debtAmount = .ok real) (some : real ≠ 0)
    (credit : ledger.Credit real held new after)
    : new.collateralAmount = 0 := by
  cases credit with
  | partly => rfl
  | @wholly debt owed added owes' _ adds _ =>
      obtain rfl : real = owed := Except.ok.inj (owes.symm.trans owes')
      rw [Nat.sub_self] at adds
      obtain ⟨positive, upper, _⟩ := Q96.unscale_ok adds
      rw [Nat.zero_mul] at upper
      exact (Nat.mul_eq_zero.mp (Nat.le_zero.mp upper)).resolve_right (Nat.ne_of_gt positive)
  | adds owesNothing =>
      rw [owesNothing] at owes
      obtain ⟨_, _, scaled⟩ := realDebt_eq_ok.mp owes
      exact absurd (Q96.scale_zero scaled) some

/-- What new debt adds to no collateral is worth no more than its charge. -/
theorem net_eq_zero_of_opened (nothing : held.collateralAmount = 0)
    (rebases : ledger.Rebase 0 debt held left rebased)
    (known : rebased.netCollateral left.collateralAmount debt = .ok net)
    : net = 0 := by
  obtain ⟨whole, charge, holds, charges, rfl⟩ := netCollateral_eq_ok.mp known
  rw [realCollateral_eq_ok] at holds
  cases rebases with
  | debt => rw [Q96.scale_zero holds, Nat.zero_sub]
  | same =>
      obtain rfl : _ = 0 := nothing
      rw [Q96.scale_zero holds, Nat.zero_sub]
  | @more collateral wide grows uncharges =>
      obtain rfl : collateral = 0 := nothing
      have added := (mulDiv_ok uncharges).2.1
      have lower : whole * Q96.unit ≤ ledger.collateralCoeff.raw * (0 + wide) :=
        (Q96.scale_ok holds).1
      have covered : ledger.chargeCoeff.raw * debt ≤ charge * Q96.unit := by
        rw [charge_eq_ok] at charges
        split at charges
        · next free =>
            have none : ledger.chargeCoeff.raw = 0 :=
              beq_iff_eq.mp (free.resolve_left (Nat.ne_of_gt grows))
            simp [none]
        · exact (Q96.scaleUp_ok charges).1
      rw [Nat.sub_zero, Nat.mul_comm wide] at added
      rw [Nat.zero_add] at lower
      have less : whole * Q96.unit ≤ charge * Q96.unit := by omega
      exact Nat.sub_eq_zero_of_le (Nat.le_of_mul_le_mul_right less Q96.unit_pos)
  | less shrinks => omega

end Ledger

/-- A position that owes one asset only is leveraged in it. -/
theorem Position.debtAsset?_of_debt {position : Position} {asset : Asset}
    (owes : (position.holding asset).debtAmount ≠ 0)
    (clear : (position.holding asset.other).debtAmount = 0)
    : position.kind.debtAsset? = some asset := by
  cases owed : position.kind.debtAsset? with
  | none => exact absurd (debtAsset?_eq_none_iff.mp owed asset) owes
  | some debtAsset =>
      rcases asset.eq_or_eq_other debtAsset with rfl | rfl
      · rfl
      · have some := debtAmount_pos_of_debtAsset? owed
        omega

-----
-- Debts of a book
-----

namespace Book

/-- Discounted debt of an account in an asset, zero without a position. -/
def discountedDebtOf (book : Book) (account : AccountId) (asset : Asset) : Nat :=
  ((book.positionOf account).holding asset).debtAmount

/-- An account owes no more than it did in either asset. -/
def OwesNoMore (account : AccountId) (book book' : Book) : Prop :=
  ∀ asset, book'.discountedDebtOf account asset ≤ book.discountedDebtOf account asset

section Owing

variable {first second third book book' : Book} {caller owner account other : AccountId}
  {asset : Asset} {real : Nat}

theorem OwesNoMore.refl (book : Book) : book.OwesNoMore account book := fun _ => Nat.le_refl _

theorem OwesNoMore.trans (before : first.OwesNoMore account second)
    (after : second.OwesNoMore account third)
    : first.OwesNoMore account third :=
  fun asset => Nat.le_trans (after asset) (before asset)

theorem Undisturbed.owesNoMore (same : book.Undisturbed account book')
    : book.OwesNoMore account book' := by
  intro asset
  unfold discountedDebtOf
  rw [same.holding]

theorem owesNoMore_of_holdings (same : book'.holdingsOf? account = book.holdingsOf? account)
    : book.OwesNoMore account book' :=
  (undisturbed_of_holdings same).owesNoMore

theorem owesNoMore_of_positions (same : book'.positions = book.positions)
    : book.OwesNoMore account book' := by
  refine owesNoMore_of_holdings ?_
  unfold holdingsOf? position?
  rw [same]

/-- An account without a position owes nothing. -/
theorem owesNoMore_of_absent (absent : book'.holdingsOf? account = none)
    : book.OwesNoMore account book' := by
  intro asset
  rw [holdingsOf?, Option.map_eq_none_iff] at absent
  unfold discountedDebtOf positionOf
  rw [absent]
  cases asset <;> exact Nat.zero_le _

/-- What a credit leaves to its account: what it did, or its holdings credited and rebased. -/
theorem holdings_of_credit (credited : credit account asset real book = .ok () book')
    : real = 0 ∧ book' = book
      ∨ real ≠ 0 ∧ ∃ after ledger, (book'.positionOf account).holding asset = after.normalized
          ∧ (book.ledger asset).Credit real ((book.positionOf account).holding asset) after ledger
          ∧ (book.ledger asset.other).Rebase (book.discountedDebtOf account asset) after.debtAmount
              ((book.positionOf account).holding asset.other)
              ((book'.positionOf account).holding asset.other) (book'.ledger asset.other) := by
  rcases credit_ok credited with
    nothing | ⟨some, after, ledger, other, otherLedger, pays, rebases, rfl⟩
  · exact .inl nothing
  · have rebooked := rebooked_rebook pays.exchanges.normalized rebases.exchanges
    refine .inr ⟨some, after, ledger, ?_, pays, ?_⟩
    · rw [rebooked.positionOf, holding_rebook_other]
    · rw [rebooked.positionOf, Position.holding_setHolding_same, ledger_rebook_other]
      exact rebases

/-- What a debit leaves to its account, in the same way; it owes one asset at most. -/
theorem holdings_of_debit (debited : debit account asset real book = .ok () book')
    : real = 0 ∧ book' = book
      ∨ real ≠ 0 ∧ ∃ charge after ledger,
          (book'.positionOf account).holding asset = after.normalized
          ∧ (book.ledger asset).charge (book.discountedDebtOf account asset.other) = .ok charge
          ∧ (book.ledger asset).Debit real charge ((book.positionOf account).holding asset) after
              ledger
          ∧ (book.ledger asset.other).Rebase (book.discountedDebtOf account asset) after.debtAmount
              ((book.positionOf account).holding asset.other)
              ((book'.positionOf account).holding asset.other) (book'.ledger asset.other)
          ∧ (after.debtAmount = 0 ∨ book'.discountedDebtOf account asset.other = 0) := by
  rcases debit_ok debited with
    nothing | ⟨some, charge, after, ledger, other, otherLedger, charges, takes, rebases, sided, rfl⟩
  · exact .inl nothing
  · have rebooked := rebooked_rebook takes.exchanges.normalized rebases.exchanges
    have atOther : ((((book.positionOf account).setHolding asset after.normalized).setHolding
        asset.other other).holding asset.other) = other := Position.holding_setHolding_same ..
    refine .inr ⟨some, charge, after, ledger, ?_, charges, takes, ?_, ?_⟩
    · rw [rebooked.positionOf, holding_rebook_other]
    · rw [rebooked.positionOf, atOther, ledger_rebook_other]
      exact rebases
    · rw [discountedDebtOf, rebooked.positionOf, atOther]
      exact sided

theorem owesNoMore_of_debts
    (less : book'.discountedDebtOf account asset ≤ book.discountedDebtOf account asset)
    (lessOther : book'.discountedDebtOf account asset.other
      ≤ book.discountedDebtOf account asset.other)
    : book.OwesNoMore account book' := by
  intro side
  rcases asset.eq_or_eq_other side with rfl | rfl
  · exact less
  · exact lessOther

/-- A credit repays debt and rebases none. -/
theorem owesNoMore_credit (credited : credit other asset real book = .ok () book')
    : book.OwesNoMore account book' := by
  by_cases same : other = account
  · subst same
    rcases holdings_of_credit credited with ⟨_, rfl⟩ | ⟨_, after, _, held, pays, rebases⟩
    · exact .refl _
    · refine owesNoMore_of_debts ?_ (Nat.le_of_eq rebases.debtAmount_eq)
      rw [discountedDebtOf, held, Holding.debtAmount_normalized]
      exact pays.debtAmount_le
  · exact owesNoMore_of_holdings (holdingsOf?_credit credited same)

theorem owesNoMore_removePosition (removed : removePosition other book = .ok () book')
    : book.OwesNoMore account book' := by
  by_cases same : other = account
  · subst same
    rcases removed_of_removePosition removed with ⟨_, rfl⟩ | ⟨_, _, gone⟩
    · exact .refl _
    · refine owesNoMore_of_absent ?_
      unfold holdingsOf?
      rw [gone.holdings, if_pos rfl]
  · exact owesNoMore_of_holdings (holdingsOf?_removePosition removed same)

/-- A takeover clears whom it takes from. -/
theorem owesNoMore_handOver {bad : Position} {badAccount receiver : AccountId}
    (notReceiver : receiver ≠ account)
    : book.OwesNoMore account (book.handOver bad badAccount receiver) := by
  by_cases same : badAccount = account
  · subst same
    refine owesNoMore_of_absent ?_
    unfold holdingsOf? position?
    rw [positions_handOver, AccountTable.get?_insert, if_neg notReceiver, AccountTable.get?_erase,
      if_pos rfl]
    rfl
  · exact owesNoMore_of_holdings (holdingsOf?_handOver same notReceiver)

/-- Nothing that a call does raises a debt of anybody but its caller. -/
theorem Deed.owesNoMore (deed : book.Deed caller owner book') (notCaller : caller ≠ account)
    : book.OwesNoMore account book' := by
  cases deed.reaches with
  | nobody same => exact owesNoMore_of_holdings (same account)
  | credit same credited => exact (owesNoMore_of_positions same).trans (owesNoMore_credit credited)
  | debit debited => exact owesNoMore_of_holdings (holdingsOf?_debit debited notCaller)
  | drop removed => exact owesNoMore_removePosition removed
  | seize _ _ removed => exact owesNoMore_removePosition removed
  | takeOver => exact owesNoMore_handOver notCaller

end Owing

-----
-- What a debit opens
-----

/-- An order to sell collateral sold it out, and its proceeds repaid the debt that it stood behind.
A loss was charged on it, all but less than a discounted unit of its net amount was sold, and the
debt that this opened is less than a discounted unit, a real unit and a unit of the debt itself.
-/
structure SellsOut (account : AccountId) (asset : Asset) (amount : Nat) (book book' : Book)
    : Prop where
  charged : (book.ledger asset).chargeCoeff.isZero = false
  owed : book.discountedDebtOf account asset.other ≠ 0
  repaid : book'.discountedDebtOf account asset.other = 0
  nearly
    : ∃ net, book.collateralOf account asset = .ok net
        ∧ net * Q96.unit < min amount net * Q96.unit + (book.ledger asset).collateralCoeff.raw
  little
    : ∃ coeff, (book.ledger asset).effectiveDebtCoeff = .ok coeff
        ∧ book'.discountedDebtOf account asset * coeff.raw
          < (book.ledger asset).collateralCoeff.raw + Q96.unit + coeff.raw

section Selling

variable {book middle book' : Book} {account : AccountId} {asset : Asset} {real net paid : Nat}

/-- A debit that stays within the net collateral raises no debt. -/
theorem owesNoMore_debit_available (known : book.collateralOf account asset = .ok net)
    (enough : real ≤ net) (debited : debit account asset real book = .ok () book')
    : book.OwesNoMore account book' := by
  rcases holdings_of_debit debited with
      ⟨_, rfl⟩ | ⟨some, _, after, _, held, charges, takes, rebases, _⟩
  · exact .refl _
  · refine owesNoMore_of_debts ?_ (Nat.le_of_eq rebases.debtAmount_eq)
    rw [discountedDebtOf, held, Holding.debtAmount_normalized,
      debtAmount_of_debit_available known enough some charges takes]
    exact Nat.zero_le _

/-- A debit behind a credit in the other asset raises no debt unless it opens one. Then it finds the
collateral rebased after all debt in the other asset was repaid, and rebases what was left there.
-/
theorem owesNoMore_or_opens (owed : book.discountedDebtOf account asset.other ≠ 0)
    (credited : credit account asset.other paid book = .ok () middle)
    (debited : debit account asset real middle = .ok () book')
    : book.OwesNoMore account book'
      ∨ paid ≠ 0 ∧ real ≠ 0 ∧ ∃ settled left after ledger settledLedger,
          (book.ledger asset.other).Credit paid
              ((book.positionOf account).holding asset.other) settled settledLedger
          ∧ (book.ledger asset).Rebase (book.discountedDebtOf account asset.other) 0
              ((book.positionOf account).holding asset) left (middle.ledger asset)
          ∧ (middle.ledger asset).Debit real 0 left after ledger
          ∧ (middle.ledger asset.other).Rebase left.debtAmount after.debtAmount settled.normalized
              ((book'.positionOf account).holding asset.other) (book'.ledger asset.other)
          ∧ after.debtAmount ≠ 0 ∧ book'.discountedDebtOf account asset = after.debtAmount
          ∧ book'.discountedDebtOf account asset.other = 0 := by
  have atMiddle : book.OwesNoMore account middle := owesNoMore_credit credited
  rcases holdings_of_debit debited with
    ⟨_, rfl⟩ | ⟨some, charge, after, ledger, held, charges, takes, rebases, sided⟩
  · exact .inl atMiddle
  · have kept : book'.discountedDebtOf account asset.other
        = middle.discountedDebtOf account asset.other := rebases.debtAmount_eq
    have now : book'.discountedDebtOf account asset = after.debtAmount := by
      rw [discountedDebtOf, held, Holding.debtAmount_normalized]
    by_cases opens : after.debtAmount = 0
    · refine .inl (atMiddle.trans (owesNoMore_of_debts ?_ (Nat.le_of_eq kept)))
      rw [now, opens]
      exact Nat.zero_le _
    · have repaid := sided.resolve_left opens
      rcases holdings_of_credit credited with
          ⟨_, rfl⟩ | ⟨paidSome, settled, _, settles, pays, repays⟩
      · exact absurd (kept.symm.trans repaid) owed
      · have cleared : settled.debtAmount = 0 := by
          rw [← Holding.debtAmount_normalized, ← settles]
          exact kept.symm.trans repaid
        rw [Asset.other_other, cleared] at repays
        rw [← kept, repaid, Ledger.charge_eq_ok, if_pos (.inl rfl)] at charges
        rw [charges] at takes
        rw [settles] at rebases
        exact .inr
          ⟨paidSome, some, settled, _, after, ledger, _, pays, repays, takes, rebases, opens,
          now, repaid⟩

/-- A sale raises no debt, after its proceeds were credited to the debt that the collateral stood
behind, unless it sold the collateral out.
-/
theorem owesNoMore_or_sellsOut {amount : Nat} (unowed : book.discountedDebtOf account asset = 0)
    (owed : book.discountedDebtOf account asset.other ≠ 0)
    (known : book.collateralOf account asset = .ok net)
    (credited : credit account asset.other paid book = .ok () middle)
    (debited : debit account asset (min amount net) middle = .ok () book')
    : book.OwesNoMore account book' ∨ book.SellsOut account asset amount book' := by
  rcases owesNoMore_or_opens owed credited debited with
    within | ⟨_, some, settled, left, after, _, _, _, repays, takes, _, opens, now, repaid⟩
  · exact .inl within
  · rcases collateralOf_ok known with rfl | ⟨whole, charge, holds, charges, rfl⟩
    · exact absurd (Nat.min_zero amount) some
    · have net := Ledger.netCollateral_eq_ok.mpr ⟨whole, charge, holds, charges, rfl⟩
      obtain ⟨charged, nearly, coeff, effective, little⟩ :=
        Ledger.debit_after_repayment net owed unowed repays (Nat.min_le_right ..) some takes opens
      exact .inr ⟨charged, owed, repaid, ⟨_, known, nearly⟩, coeff, effective, now ▸ little⟩

/-- What is owed is the real amount of the discounted debt. -/
theorem realDebt_of_debtOf (known : book.debtOf account asset = .ok paid) (some : paid ≠ 0)
    : (book.ledger asset).realDebt (book.discountedDebtOf account asset) = .ok paid := by
  unfold debtOf at known
  unfold discountedDebtOf positionOf
  cases found : book.position? account with
  | none =>
      rw [found] at known
      exact absurd (Except.ok.inj known).symm some
  | some position =>
      rw [found] at known
      exact known

/-- A debt that is opened behind a credit of exactly what was owed is the only one, and no
collateral stands behind it.
-/
theorem owesNoMore_or_bare (unowed : book.discountedDebtOf account asset = 0)
    (owed : book.discountedDebtOf account asset.other ≠ 0)
    (owes : book.debtOf account asset.other = .ok paid)
    (credited : credit account asset.other paid book = .ok () middle)
    (debited : debit account asset real middle = .ok () book')
    : book.OwesNoMore account book'
      ∨ (book'.positionOf account).kind.debtAsset? = some asset
          ∧ ∀ net, book'.collateralIn (book'.positionOf account) asset.other = .ok net
            → net = 0 := by
  rcases owesNoMore_or_opens owed credited debited with
    within | ⟨paidSome, _, settled, left, after, _, _, pays, repays, _, rebases, opens, now, repaid⟩
  · exact .inl within
  · right
    have exactly := Ledger.credit_exactly (realDebt_of_debtOf owes paidSome) paidSome pays
    have fresh : left.debtAmount = 0 := repays.debtAmount_eq.trans unowed
    rw [fresh] at rebases
    constructor
    · refine Position.debtAsset?_of_debt ?_ repaid
      rw [← discountedDebtOf, now]
      exact opens
    · intro net known
      rw [collateralIn, Asset.other_other, ← discountedDebtOf, now] at known
      exact Ledger.net_eq_zero_of_opened
        (by rwa [Holding.collateralAmount_normalized]) rebases known

/-- No bound on leverage allows debt behind nothing. -/
theorem not_within_of_bare {position : Position} {price : Q96}
    (bounded : book.parameters.leverageBound < .maximum)
    (owes : position.kind.debtAsset? = some asset)
    (bare : ∀ net, book.collateralIn position asset.other = .ok net → net = 0)
    : book.isLiquidatable position price ≠ .ok false := by
  intro within
  obtain ⟨leverage, known, below⟩ := isLiquidatable_eq_ok.mp within
  obtain ⟨held, _, _, _, holds, worth, _, _, leveraged⟩ := positionLeverage_ok owes known
  obtain rfl := bare held holds
  obtain rfl := valued_zero worth
  have exceeds :=
    (leverageOf_le_iff bounded leveraged).mp (Nat.not_lt.mp (of_decide_eq_false below))
  exact absurd exceeds (Nat.not_lt_zero _)

/-- Whoever is required to be within the bound is. -/
theorem within_of_requireLeverage {position : Position} {price : Q96}
    (found : book.position? account = some position)
    (within : book.requireLeverage account price = .ok ())
    : book.isLiquidatable position price = .ok false := by
  unfold requireLeverage at within
  rw [found] at within
  obtain ⟨due, known, within⟩ := Except.bind_eq_ok.mp within
  cases due with
  | false => exact known
  | true => exact (Except.throw_eq_ok.mp within).elim

/-- So repaying exactly what is owed out of the collateral behind it raises no debt, as long as the
account comes out within the bound.
-/
theorem owesNoMore_of_close {price : Q96} (unowed : book.discountedDebtOf account asset = 0)
    (owed : book.discountedDebtOf account asset.other ≠ 0)
    (owes : book.debtOf account asset.other = .ok paid)
    (credited : credit account asset.other paid book = .ok () middle)
    (debited : debit account asset real middle = .ok () book')
    (bounded : (book'.reseat account).parameters.leverageBound < .maximum)
    (within : (book'.reseat account).requireLeverage account price = .ok ())
    : book.OwesNoMore account book' := by
  rcases owesNoMore_or_bare unowed owed owes credited debited with less | ⟨kind, bare⟩
  · exact less
  · exfalso
    have reranked := book'.reranked_reseat account
    rcases book'.positionOf_cases account with found | ⟨_, empty⟩
    · have same := reranked.holdings account
      rw [found, Option.map_some] at same
      obtain ⟨seated, foundSeated, held⟩ := Option.map_eq_some_iff.mp same
      have kindSeated : seated.kind = (book'.positionOf account).kind := by
        unfold Position.kind
        rw [held]
      have bareSeated : ∀ net, (book'.reseat account).collateralIn seated asset.other = .ok net →
          net = 0 := by
        intro net known
        refine bare net ((collateralIn_congr (fun other => ?_) held _).symm.trans known)
        rw [reranked.ledger]
      exact not_within_of_bare bounded (kindSeated ▸ kind) bareSeated
        (within_of_requireLeverage foundSeated within)
    · rw [empty] at kind
      cases kind

-----
-- Around a booking
-----

theorem owesNoMore_payOut {amount : Nat} (paid : payOut asset amount book = .ok () book')
    : book.OwesNoMore account book' := by
  obtain ⟨_, rfl⟩ := payOut_ok paid
  exact owesNoMore_of_positions rfl

theorem owesNoMore_payIn {amount : Nat} (paid : payIn asset amount book = .ok () book')
    : book.OwesNoMore account book' := by
  obtain rfl := payIn_ok paid
  exact owesNoMore_of_positions rfl

/-- Ranking an account anew raises nobody's debt. -/
theorem owesNoMore_reseat (book : Book) (seated : AccountId)
    : book.OwesNoMore account (book.reseat seated) :=
  owesNoMore_of_holdings ((book.reranked_reseat seated).holdings account)

theorem owesNoMore_dropIfEmpty (dropped : dropIfEmpty account book = .ok () book')
    : book.OwesNoMore account book' := by
  rcases dropIfEmpty_ok dropped with rfl | ⟨_, removed⟩
  · exact .refl _
  · exact owesNoMore_removePosition removed

/-- The end of a trade raises no debt. -/
theorem owesNoMore_finish {dropped : Book} {price : Q96}
    (drops : dropIfEmpty account (book.reseat account) = .ok () dropped)
    (refreshes : refreshLeverage price dropped = .ok () book')
    : book.OwesNoMore account book' := by
  obtain ⟨_, rfl⟩ := refreshLeverage_ok refreshes
  have atDropped : book.OwesNoMore account dropped :=
    (book.owesNoMore_reseat account).trans (owesNoMore_dropIfEmpty drops)
  exact atDropped.trans (owesNoMore_of_positions rfl)

/-- A settled order moves tokens and nothing that anybody holds or owes. -/
theorem isolates_settle {order : SwapOrder} {fill : Fill} {party : AccountId → Prop}
    (settled : settle order fill book = .ok () book')
    : book.Isolates party book' := by
  obtain ⟨_, out, into⟩ := settle_ok settled
  exact (isolates_payOut out).trans (isolates_payIn into)

theorem Isolates.discountedDebtOf (isolates : book.Isolates (fun _ => False) book')
    (account : AccountId) (asset : Asset)
    : book'.discountedDebtOf account asset = book.discountedDebtOf account asset := by
  have same := undisturbed_of_holdings (isolates.holdings account id)
  rw [Book.discountedDebtOf, same.holding, Book.discountedDebtOf]

/-- A sale sold out from the book before it was settled, too, and up to a book in which the account
owes no more.
-/
theorem SellsOut.extend {amount : Nat} {last : Book}
    (settled : book.Isolates (fun _ => False) middle)
    (sells : middle.SellsOut account asset amount book') (finished : book'.OwesNoMore account last)
    : book.SellsOut account asset amount last := by
  obtain ⟨charged, owed, repaid, ⟨net, known, nearly⟩, coeff, effective, little⟩ := sells
  have rates := settled.rates asset
  have chargeCoeff : (middle.ledger asset).chargeCoeff = (book.ledger asset).chargeCoeff :=
    (congrArg Ledger.chargeCoeff rates :)
  have collateralCoeff : (middle.ledger asset).collateralCoeff
      = (book.ledger asset).collateralCoeff :=
    (congrArg Ledger.collateralCoeff rates :)
  have debtCoeff : (middle.ledger asset).effectiveDebtCoeff
      = (book.ledger asset).effectiveDebtCoeff :=
    (congrArg Ledger.effectiveDebtCoeff rates :)
  rw [settled.discountedDebtOf] at owed
  rw [chargeCoeff] at charged
  rw [settled.collateralOf id] at known
  rw [collateralCoeff] at nearly little
  rw [debtCoeff] at effective
  refine ⟨charged, owed, ?_, ⟨net, known, nearly⟩, coeff, effective, ?_⟩
  · exact Nat.le_zero.mp (repaid ▸ finished asset.other)
  · exact Nat.lt_of_le_of_lt (Nat.mul_le_mul_right _ (finished asset)) little

end Selling

end Book

end MarginLending
