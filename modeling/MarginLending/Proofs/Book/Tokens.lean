import MarginLending.Pool.Transfer
import MarginLending.Proofs.Book.Entries

/-!
Which actions of a book move tokens. A balance changes by the payments that are made and by nothing
else: booking, seating, accruing, and spreading gains and losses leave all tokens where they are.
-/

namespace MarginLending

namespace Pool

/-- An amount of one asset is nothing of the other. -/
theorem get_amountsIn (asset side : Asset) (amount : Nat)
    : (amountsIn asset amount).get side = if asset = side then amount else 0 := by
  cases asset <;> cases side <;> rfl

end Pool

/-- What a fill of an order brings in of an asset, less what it takes. -/
def SwapOrder.gain (order : SwapOrder) (fill : Fill) (side : Asset) : Int :=
  (Pool.amountsIn order.tokenOut fill.amountOut).get side
    - (Pool.amountsIn order.tokenIn fill.amountIn).get side

namespace Book

/-- Whenever the action goes through, both balances have changed by a net amount. -/
def Nets {α : Type} (action : BookM α) (net : Asset → Int) : Prop :=
  ∀ ⦃book a book'⦄, action book = .ok a book' →
    ∀ side, ((book'.ledger side).balance : Int) = (book.ledger side).balance + net side

section Payments

variable {book book' : Book} {asset side : Asset} {amount : Nat}

theorem balance_setLedger {ledger : Ledger} (side : Asset)
    : ((book.setLedger asset ledger).ledger side).balance
      = if asset = side then ledger.balance else (book.ledger side).balance := by
  rcases asset.eq_or_eq_other side with rfl | rfl
  · rw [ledger_setLedger_same, if_pos rfl]
  · rw [ledger_setLedger_other, if_neg (Ne.symm (Asset.other_ne asset))]

theorem nets_payOut (asset : Asset) (amount : Nat)
    : Nets (payOut asset amount) fun side => -((Pool.amountsIn asset amount).get side : Int) := by
  intro book _ book' paid side
  obtain ⟨enough, rfl⟩ := payOut_ok paid
  simp only [balance_setLedger, Pool.get_amountsIn]
  split
  · next same =>
      subst same
      omega
  · omega

theorem nets_payIn (asset : Asset) (amount : Nat)
    : Nets (payIn asset amount) fun side => (Pool.amountsIn asset amount).get side := by
  intro book _ book' paid side
  obtain rfl := payIn_ok paid
  simp only [balance_setLedger, Pool.get_amountsIn]
  split
  · next same =>
      subst same
      omega
  · omega

/-- A settled order moves what its fill took and gave. -/
theorem nets_settle (order : SwapOrder) (fill : Fill)
    : Nets (settle order fill) (order.gain fill) := by
  intro book _ book' settled side
  obtain ⟨middle, out, into⟩ := settle_ok settled
  have paidOut := nets_payOut order.tokenIn fill.amountIn out side
  have paidIn := nets_payIn order.tokenOut fill.amountOut into side
  simp only [SwapOrder.gain] at paidOut paidIn ⊢
  omega

end Payments

-----
-- Everything else keeps the balances
-----

/-- Whenever the action goes through, both balances are as before. -/
def KeepsBalances {α : Type} (action : BookM α) : Prop :=
  ∀ ⦃book a book'⦄, action book = .ok a book' →
    ∀ side, (book'.ledger side).balance = (book.ledger side).balance

section Keeping

variable {asset : Asset} {account : AccountId} {real amount shortfall owed : Nat} {price : Q96}

theorem KeepsBalances.nets {α : Type} {action : BookM α} (keeps : KeepsBalances action)
    : Nets action fun _ => 0 := by
  intro book a book' went side
  rw [keeps went side, Int.add_zero]

theorem keepsBalances_modify {f : Book → Book}
    (same : ∀ book side, ((f book).ledger side).balance = (book.ledger side).balance)
    : KeepsBalances (modify f) := by
  intro book _ book' went side
  obtain rfl := EStateM.modify_eq_ok.mp went
  exact same book side

theorem keepsBalances_credit : KeepsBalances (credit account asset real) :=
  fun _ _ _ credited => balance_credit credited

theorem keepsBalances_debit : KeepsBalances (debit account asset real) :=
  fun _ _ _ debited => balance_debit debited

theorem keepsBalances_removePosition : KeepsBalances (removePosition account) :=
  fun _ _ _ removed => balance_removePosition removed

theorem keepsBalances_reseatM : KeepsBalances (reseatM account) :=
  keepsBalances_modify fun book side =>
    congrArg Ledger.balance ((book.reranked_reseat account).ledger side)

theorem keepsBalances_dropIfEmpty : KeepsBalances (dropIfEmpty account) := by
  intro book _ book' dropped side
  rcases dropIfEmpty_ok dropped with rfl | ⟨_, removed⟩
  · rfl
  · exact balance_removePosition removed side

theorem keepsBalances_refreshLeverage : KeepsBalances (refreshLeverage price) := by
  intro book _ book' refreshed side
  obtain ⟨_, rfl⟩ := refreshLeverage_ok refreshed
  rfl

/-- Replacing a ledger by one of the same balance keeps both balances. -/
theorem balance_of_setLedger {book : Book} {ledger : Ledger}
    (same : ledger.balance = (book.ledger asset).balance) (side : Asset)
    : ((book.setLedger asset ledger).ledger side).balance = (book.ledger side).balance := by
  rw [balance_setLedger]
  split
  · next isSide => exact isSide ▸ same
  · rfl

theorem keepsBalances_shareAmongLenders : KeepsBalances (shareAmongLenders asset amount) := by
  intro book _ book' shared side
  rcases shareAmongLenders_ok shared with ⟨_, rfl⟩ | ⟨_, credited⟩ | ⟨_, _, _, _, rfl⟩
  · rfl
  · exact balance_credit credited side
  · exact balance_of_setLedger (by rfl) side

theorem keepsBalances_chargeBorrowers : KeepsBalances (chargeBorrowers asset shortfall owed) := by
  intro book _ book' charged side
  obtain ⟨_, _, _, _, rfl⟩ := chargeBorrowers_ok charged
  exact balance_of_setLedger (by rfl) side

theorem keepsBalances_relieveDebt : KeepsBalances (relieveDebt asset amount owed) := by
  intro book _ book' relieved side
  rcases relieveDebt_ok relieved with ⟨_, rfl⟩ | ⟨_, _, _, _, rfl⟩
  · rfl
  · exact balance_of_setLedger (by rfl) side

theorem keepsBalances_raiseDebt : KeepsBalances (raiseDebt asset shortfall owed) := by
  intro book _ book' raised side
  obtain ⟨_, _, _, _, rfl⟩ := raiseDebt_ok raised
  exact balance_of_setLedger (by rfl) side

theorem keepsBalances_accrueSide {interestRate feeGrowth : Q96} {seconds : Nat}
    : KeepsBalances (accrueSide interestRate feeGrowth seconds asset) := by
  intro book _ book' accrued side
  rcases accrueSide_ok accrued with ⟨_, rfl⟩ | ⟨_, _, _, _, _, _, grown, credited⟩
  · rfl
  · exact (balance_credit credited side).trans (balance_of_setLedger (balance_grow grown) side)

theorem keepsBalances_accrue {now : Timestamp} : KeepsBalances (accrue now price) := by
  intro book _ book' accrued side
  rcases accrue_ok accrued with ⟨_, rfl⟩ | ⟨_, _, _, middle, grown, rfl⟩
  · rfl
  · obtain ⟨_, _, _, first, second, _, _, _, base, quote, refreshed⟩ := accrueFor_ok grown
    exact (keepsBalances_refreshLeverage refreshed side).trans
      ((keepsBalances_accrueSide quote side).trans (keepsBalances_accrueSide base side))

end Keeping

end Book

end MarginLending
