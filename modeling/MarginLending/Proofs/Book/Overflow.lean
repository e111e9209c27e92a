import MarginLending.Pool.Liquidation
import MarginLending.Proofs.Book.Rates

/-!
What can only fail for its numbers. Ledgers, valuations and what spreads a gain or a loss look
nothing up and refuse nobody: whatever they fail with is an error of arithmetic, and no refused
rate. Where they meet no fault either, only a result out of range is left.
-/

namespace MarginLending

/-- An error of arithmetic other than a refused rate. -/
def PoolError.IsNumeric (error : PoolError) : Prop :=
  ∃ cause, error = .math cause ∧ cause ≠ .rateTooHigh

/-- Of the errors of arithmetic, a result out of range is the only one that is neither a fault nor a
refused rate.
-/
theorem PoolError.IsNumeric.eq_overflow {error : PoolError} (numeric : error.IsNumeric)
    (harmless : Harmless error)
    : error = .math .overflow := by
  obtain ⟨cause, rfl, accepted⟩ := numeric
  cases cause with
  | overflow => rfl
  | rateTooHigh => exact absurd rfl accepted
  | underflow => cases harmless
  | divisionByZero => cases harmless
  | negative => cases harmless

/-- The computation fails for its numbers, if it fails. -/
abbrev Numeric {α : Type} (x : Except PoolError α) : Prop :=
  FailsWithin PoolError.IsNumeric x

/-- From a state, the action fails for its numbers, if it fails. -/
abbrev NumericFrom {σ α : Type} (x : EStateM PoolError σ α) (s : σ) : Prop :=
  FailsWithinFrom PoolError.IsNumeric x s

/-- Arithmetic that refuses no rate fails for its numbers. -/
theorem FailsWithin.accepted {α : Type} {x : Except MathError α}
    (accepted : x ≠ .error .rateTooHigh)
    : FailsWithin (fun cause => PoolError.IsNumeric (.math cause)) x :=
  ⟨fun cause failed => ⟨cause, rfl, fun refused => accepted (refused ▸ failed)⟩⟩

-----
-- Ledgers
-----

@[simp] theorem fractionOf_ne_rateTooHigh (amount : Nat) (d : Decimal)
    : fractionOf amount d ≠ .error .rateTooHigh := by
  intro refused
  unfold fractionOf at refused
  split at refused
  · cases refused
  · rcases Except.bind_eq_error.mp refused with refused | ⟨wide, _, refused⟩
    · exact mulDiv_ne_rateTooHigh _ _ _ refused
    · exact ofWide_ne_rateTooHigh _ refused

@[simp] theorem Parameters.liquidationFloor_ne_rateTooHigh (parameters : Parameters) (worth : Nat)
    : parameters.liquidationFloor worth ≠ .error .rateTooHigh := by
  unfold liquidationFloor
  split <;> simp

namespace Ledger

variable (ledger : Ledger) (holding : Holding) (discounted : Nat)

theorem numeric_effectiveDebtCoeff : Numeric ledger.effectiveDebtCoeff :=
  .lift (.accepted (by simp))

theorem numeric_realCollateral : Numeric (ledger.realCollateral discounted) :=
  .lift (.accepted (by simp))

theorem numeric_charge (otherDebt : Nat) : Numeric (ledger.charge otherDebt) := by
  unfold charge
  split
  · exact .pure _
  · exact .lift (.accepted (by simp))

theorem numeric_netCollateral (otherDebt : Nat)
    : Numeric (ledger.netCollateral discounted otherDebt) :=
  .bind (numeric_realCollateral ..) fun _ _ => .bind (numeric_charge ..) fun _ _ => .pure _

theorem numeric_realDebt : Numeric (ledger.realDebt discounted) :=
  .bind (numeric_effectiveDebtCoeff _) fun _ _ => .lift (.accepted (by simp))

theorem numeric_addCollateral : Numeric (ledger.addCollateral discounted) :=
  .lift_bind (.accepted (by simp)) fun _ _ => .pure _

theorem numeric_removeCollateral : Numeric (ledger.removeCollateral discounted) :=
  .lift_bind (.accepted (by simp)) fun _ _ => .pure _

theorem numeric_removeDebt : Numeric (ledger.removeDebt discounted) :=
  .lift_bind (.accepted (by simp)) fun _ _ => .pure _

theorem numeric_creditHolding (real : Nat) : Numeric (ledger.creditHolding holding real) := by
  unfold creditHolding
  split
  · refine .bind (numeric_realDebt ..) fun owed _ => ?_
    split
    · exact .bind (numeric_effectiveDebtCoeff _) fun _ _ =>
        .lift_bind (.accepted (by simp)) fun _ _ => .bind (numeric_removeDebt ..) fun _ _ =>
          .lift_bind (.accepted (by simp)) fun _ _ => .pure _
    · exact .bind (numeric_removeDebt ..) fun _ _ => .lift_bind (.accepted (by simp)) fun _ _ =>
        .bind (numeric_addCollateral ..) fun _ _ => .pure _
  · exact .lift_bind (.accepted (by simp)) fun _ _ => .bind (numeric_addCollateral ..) fun _ _ =>
      .lift_bind (.accepted (by simp)) fun _ _ => .pure _

theorem numeric_rebase (debtBefore debtAfter : Nat)
    : Numeric (ledger.rebase holding debtBefore debtAfter) := by
  unfold rebase
  split
  · exact .pure _
  · split
    · exact .pure _
    · split
      · exact .lift_bind (.accepted (by simp)) fun _ _ =>
          .lift_bind (.accepted (by simp)) fun _ _ => .bind (numeric_addCollateral ..) fun _ _ =>
          .lift_bind (.accepted (by simp)) fun _ _ => .pure _
      · exact .lift_bind (.accepted (by simp)) fun _ _ =>
          .lift_bind (.accepted (by simp)) fun _ _ => .bind (numeric_removeCollateral ..) fun _ _ =>
            .pure _

end Ledger

-----
-- Books
-----

namespace Book

section Values

variable (book : Book) (position : Position) (asset : Asset) (price : Q96)

theorem numeric_valued (amount : Nat) : Numeric (valued asset price amount) := by
  unfold valued
  cases asset with
  | base => exact .lift (.accepted (by simp))
  | quote => exact .pure _

theorem numeric_collateralIn : Numeric (book.collateralIn position asset) :=
  Ledger.numeric_netCollateral ..

theorem numeric_debtIn : Numeric (book.debtIn position asset) := Ledger.numeric_realDebt ..

theorem numeric_borrowersCollateral : Numeric (book.borrowersCollateral asset) := by
  refine .foldlM (fun total node _ => ?_) 0
  split
  · exact .bind (numeric_collateralIn ..) fun _ _ => .lift (.accepted (by simp))
  · exact .of_ok rfl

theorem numeric_netValue : Numeric (book.netValue position price) :=
  .bind (numeric_collateralIn ..) fun _ _ => .bind (numeric_valued ..) fun _ _ =>
    .bind (numeric_collateralIn ..) fun _ _ => .lift_bind (.accepted (by simp)) fun _ _ =>
      .bind (numeric_debtIn ..) fun _ _ => .bind (numeric_valued ..) fun _ _ =>
        .bind (numeric_debtIn ..) fun _ _ => .lift_bind (.accepted (by simp)) fun _ _ => .pure _

theorem numeric_totalNetValue : Numeric (book.totalNetValue price) :=
  .foldlM (fun _ _ _ => .bind (numeric_netValue ..) fun _ _ => .pure _) 0

end Values

section Acting

variable {book : Book} {asset : Asset} {account : AccountId} {amount shortfall owed : Nat}

theorem numeric_modifyLedger {change : Ledger → Except PoolError Ledger}
    (changes : Numeric (change (book.ledger asset)))
    : NumericFrom (modifyLedger asset change) book :=
  .get_bind (.lift_bind changes fun _ _ => .set _)

theorem numeric_credit : NumericFrom (credit account asset amount) book := by
  unfold credit
  split
  · exact .pure _
  · exact .get_bind (.lift_bind (Ledger.numeric_creditHolding ..) fun _ _ =>
      .lift_bind (Ledger.numeric_rebase ..) fun _ _ => .set _)

theorem numeric_payIn : NumericFrom (payIn asset amount) book :=
  numeric_modifyLedger (.lift_bind (.accepted (by simp)) fun _ _ => .pure _)

/-- An order whose input is there settles, unless its output is too much. -/
theorem numeric_settle {order : SwapOrder} {fill : Fill}
    (enough : fill.amountIn ≤ (book.ledger order.tokenIn).balance)
    : NumericFrom (settle order fill) book := by
  obtain ⟨_, paid⟩ := payOut_isOk enough
  exact .bind (.of_ok paid) fun _ _ _ => numeric_payIn

theorem numeric_shareAmongLenders : NumericFrom (shareAmongLenders asset amount) book := by
  unfold shareAmongLenders
  split
  · exact .pure _
  · refine .get_bind ?_
    simp only
    split
    · exact numeric_credit
    · exact numeric_modifyLedger (.lift_bind (.accepted (by simp)) fun _ _ =>
        .lift_bind (.accepted (by simp)) fun _ _ => .pure _)

theorem numeric_chargeBorrowers : NumericFrom (chargeBorrowers asset shortfall owed) book :=
  numeric_modifyLedger (.lift_bind (.accepted (by simp)) fun _ _ =>
    .lift_bind (.accepted (by simp)) fun _ _ => .pure _)

theorem numeric_relieveDebt : NumericFrom (relieveDebt asset amount owed) book := by
  unfold relieveDebt
  split
  · exact numeric_modifyLedger (.lift_bind (.accepted (by simp)) fun _ _ =>
      .lift_bind (.accepted (by simp)) fun _ _ => .pure _)
  · exact .pure _

theorem numeric_raiseDebt : NumericFrom (raiseDebt asset shortfall owed) book :=
  numeric_modifyLedger (.lift_bind (.accepted (by simp)) fun _ _ =>
    .lift_bind (.accepted (by simp)) fun _ _ => .pure _)

end Acting

end Book

end MarginLending
