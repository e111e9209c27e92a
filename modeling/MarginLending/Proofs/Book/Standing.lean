import MarginLending.Proofs.Book.Debts
import MarginLending.Proofs.Book.Growth
import MarginLending.Proofs.Standing

/-!
Where an account stands in each asset: the collateral that the pool reads net of its charge, less
the debt. A booking moves the side that it books by no more than what is booked, in the account's
disfavour, and rebases the other side to within a unit; nothing else that a trade does to the books
moves it.
-/

namespace MarginLending

-----
-- Readings depend on the coefficients alone
-----

namespace Ledger

variable {ledger after : Ledger}

theorem net_congr (rates : after.rates = ledger.rates) : after.net = ledger.net := by
  change after.rates.net = ledger.rates.net
  rw [rates]

theorem owed_congr (rates : after.rates = ledger.rates) : after.owed = ledger.owed := by
  change after.rates.owed = ledger.rates.owed
  rw [rates]

theorem standing_congr (rates : after.rates = ledger.rates) : after.standing = ledger.standing := by
  change after.rates.standing = ledger.rates.standing
  rw [rates]

/-- What is read of collateral is its net amount, unless that goes beyond an amount on the way. -/
theorem netCollateral_reads (ledger : Ledger) (discounted otherDebt : Nat)
    : ledger.netCollateral discounted otherDebt = .ok (ledger.net discounted otherDebt)
      ∨ ledger.netCollateral discounted otherDebt = .error (.math .overflow) := by
  have gross : ledger.realCollateral discounted
      = (Amount.ofWide (ledger.gross discounted) : Except MathError Nat) := by
    unfold realCollateral
    rw [Q96.scale_eq]
    rfl
  unfold netCollateral
  rw [gross, charge_eq]
  unfold Amount.ofWide
  split
  · split
    · exact .inl rfl
    · exact .inr rfl
  · exact .inr rfl

theorem realDebt_reads (indexed : ledger.Indexed) (discounted : Nat)
    : ledger.realDebt discounted
      = (Amount.ofWide (ledger.owed discounted) : Except MathError Nat) := by
  obtain ⟨coeff, effective, _⟩ := indexed.effectiveDebtCoeff
  unfold realDebt owed
  rw [effective, debtUnit_of_effective effective, ← Q96.scale_eq]
  rfl

end Ledger

namespace Book

/-- Collateral of an account in an asset, net of its charge, in range or not. -/
def netOf (book : Book) (account : AccountId) (asset : Asset) : Nat :=
  (book.ledger asset).net ((book.positionOf account).holding asset).collateralAmount
    (book.discountedDebtOf account asset.other)

/-- Debt of an account in an asset, in range or not. -/
def owedOf (book : Book) (account : AccountId) (asset : Asset) : Nat :=
  (book.ledger asset).owed (book.discountedDebtOf account asset)

/-- Where an account stands in an asset: its collateral net of the charge, less its debt. -/
def standing (book : Book) (account : AccountId) (asset : Asset) : Int :=
  book.netOf account asset - book.owedOf account asset

section Standing

variable {book book' : Book} {account : AccountId} {asset : Asset} {real : Nat}

theorem standing_eq (book : Book) (account : AccountId) (asset : Asset)
    : book.standing account asset
      = (book.ledger asset).standing ((book.positionOf account).holding asset)
          (book.discountedDebtOf account asset.other) :=
  rfl

/-- What the pool reads of an account's collateral is its net amount. -/
theorem collateralOf_reads (book : Book) (account : AccountId) (asset : Asset)
    : book.collateralOf account asset = .ok (book.netOf account asset)
      ∨ book.collateralOf account asset = .error (.math .overflow) := by
  unfold collateralOf netOf discountedDebtOf positionOf
  cases book.position? account with
  | none =>
      left
      cases asset <;> exact congrArg _ (Ledger.net_zero _ _).symm
  | some position => exact Ledger.netCollateral_reads _ _ _

/-- And of its debt, in a book whose coefficients are in their range. -/
theorem debtOf_reads (indexed : book.Indexed) (account : AccountId) (asset : Asset)
    : book.debtOf account asset = .ok (book.owedOf account asset)
      ∨ book.debtOf account asset = .error (.math .overflow) := by
  unfold debtOf owedOf discountedDebtOf positionOf
  cases book.position? account with
  | none =>
      left
      cases asset <;> exact congrArg _ (Ledger.owed_zero _).symm
  | some position =>
      change (book.ledger asset).realDebt _ = _ ∨ (book.ledger asset).realDebt _ = _
      rw [Ledger.realDebt_reads (indexed asset)]
      unfold Amount.ofWide
      split
      · exact .inl rfl
      · exact .inr rfl

/-- Equal amounts at equal coefficients stand alike. -/
theorem standing_of_same (rates : ∀ side, (book'.ledger side).rates = (book.ledger side).rates)
    (held : ∀ side, ((book'.positionOf account).holding side).collateralAmount
      = ((book.positionOf account).holding side).collateralAmount)
    (owes : ∀ side, book'.discountedDebtOf account side = book.discountedDebtOf account side)
    (asset : Asset)
    : book'.standing account asset = book.standing account asset := by
  unfold standing netOf owedOf
  rw [held, owes, owes, Ledger.net_congr (rates asset), Ledger.owed_congr (rates asset)]

-----
-- Bookings
-----

/-- A real amount is credited to an account in an asset, or debited from it. -/
def Books (account : AccountId) (asset : Asset) (real : Nat) (book book' : Book) : Prop :=
  credit account asset real book = .ok () book' ∨ debit account asset real book = .ok () book'

theorem Books.rates (books : book.Books account asset real book') (side : Asset)
    : (book'.ledger side).rates = (book.ledger side).rates := by
  rcases books with credited | debited
  · have isolates : book.Isolates (fun _ => True) book' := isolates_credit credited trivial
    exact isolates.rates side
  · have isolates : book.Isolates (fun _ => True) book' := isolates_debit debited trivial
    exact isolates.rates side

/-- A booking rebases the other holding of its account to the debt that it leaves. -/
theorem Books.rebase (books : book.Books account asset real book')
    : (book.ledger asset.other).Rebase (book.discountedDebtOf account asset)
        (book'.discountedDebtOf account asset) ((book.positionOf account).holding asset.other)
        ((book'.positionOf account).holding asset.other) (book'.ledger asset.other) := by
  have unmoved : ∀ (ledger : Ledger) (debt : Nat) (holding : Holding),
      ledger.Rebase debt debt holding holding ledger := by
    intro ledger debt holding
    cases holding with
    | collateral amount => exact .same (.inr rfl)
    | debt amount => exact .debt amount
  rcases books with credited | debited
  · rcases holdings_of_credit credited with ⟨_, rfl⟩ | ⟨_, after, _, held, _, rebases⟩
    · exact unmoved _ _ _
    · rwa [discountedDebtOf, discountedDebtOf, held, Holding.debtAmount_normalized]
  · rcases holdings_of_debit debited with ⟨_, rfl⟩ | ⟨_, _, after, _, held, _, _, rebases, _⟩
    · exact unmoved _ _ _
    · rwa [discountedDebtOf, discountedDebtOf, held, Holding.debtAmount_normalized]

/-- It changes no debt in the other asset. -/
theorem Books.discountedDebtOf_other (books : book.Books account asset real book')
    : book'.discountedDebtOf account asset.other = book.discountedDebtOf account asset.other :=
  books.rebase.debtAmount_eq

theorem Books.netOf_other_le (books : book.Books account asset real book')
    : book'.netOf account asset.other ≤ book.netOf account asset.other + 1 := by
  unfold netOf
  rw [Asset.other_other, Ledger.net_congr (books.rates asset.other)]
  exact books.rebase.net_le

theorem Books.lt_netOf_other (books : book.Books account asset real book')
    : book.netOf account asset.other * Q96.unit
      < book'.netOf account asset.other * Q96.unit
        + (book.ledger asset.other).collateralCoeff.raw + 2 * Q96.unit := by
  unfold netOf
  rw [Asset.other_other, Ledger.net_congr (books.rates asset.other)]
  exact books.rebase.lt_net

/-- On the other side an account gains a unit at most. -/
theorem Books.standing_other_le (books : book.Books account asset real book')
    : book'.standing account asset.other ≤ book.standing account asset.other + 1 := by
  have net := books.netOf_other_le
  have owed : book'.owedOf account asset.other = book.owedOf account asset.other := by
    unfold owedOf
    rw [books.discountedDebtOf_other, Ledger.owed_congr (books.rates asset.other)]
  unfold standing
  omega

/-- An account is credited with no more than is paid. -/
theorem standing_credit_le (credited : credit account asset real book = .ok () book')
    : book'.standing account asset ≤ book.standing account asset + real := by
  have books : book.Books account asset real book' := .inl credited
  rw [standing_eq, standing_eq, books.discountedDebtOf_other,
    Ledger.standing_congr (books.rates asset)]
  rcases holdings_of_credit credited with ⟨rfl, rfl⟩ | ⟨_, after, _, held, pays, _⟩
  · omega
  · rw [held, Ledger.standing_normalized]
    exact pays.standing_le _

/-- And debited with no less than is taken. -/
theorem standing_debit_le (debited : debit account asset real book = .ok () book')
    : book'.standing account asset ≤ book.standing account asset - real := by
  have books : book.Books account asset real book' := .inr debited
  rw [standing_eq, standing_eq, books.discountedDebtOf_other,
    Ledger.standing_congr (books.rates asset)]
  rcases holdings_of_debit debited with ⟨rfl, rfl⟩ | ⟨_, _, after, _, held, charges, takes, _⟩
  · omega
  · rw [held, Ledger.standing_normalized]
    exact takes.standing_le charges

/-- Where the charge does not exceed the collateral, a credit adds what is paid less a step and two
units.
-/
theorem lt_standing_credit (credited : credit account asset real book = .ok () book')
    (covered : (book.ledger asset).levy (book.discountedDebtOf account asset.other)
      ≤ (book.ledger asset).gross ((book.positionOf account).holding asset).collateralAmount)
    : (book.standing account asset + real) * Q96.unit
      < book'.standing account asset * Q96.unit + (book.ledger asset).step + 2 * Q96.unit := by
  have positive := Q96.unit_pos
  have books : book.Books account asset real book' := .inl credited
  rw [standing_eq, standing_eq, books.discountedDebtOf_other,
    Ledger.standing_congr (books.rates asset)]
  rcases holdings_of_credit credited with ⟨rfl, rfl⟩ | ⟨_, after, _, held, pays, _⟩
  · rw [Int.ofNat_zero, Int.add_zero]
    omega
  · rw [held, Ledger.standing_normalized]
    exact pays.lt_standing covered

/-- A debit takes less than a step and two units more than is debited. -/
theorem lt_standing_debit (debited : debit account asset real book = .ok () book')
    : (book.standing account asset - real) * Q96.unit
      < book'.standing account asset * Q96.unit + (book.ledger asset).step + 2 * Q96.unit := by
  have positive := Q96.unit_pos
  have books : book.Books account asset real book' := .inr debited
  rw [standing_eq, standing_eq, books.discountedDebtOf_other,
    Ledger.standing_congr (books.rates asset)]
  rcases holdings_of_debit debited with ⟨rfl, rfl⟩ | ⟨_, _, after, _, held, charges, takes, _⟩
  · rw [Int.ofNat_zero, Int.sub_zero]
    omega
  · rw [held, Ledger.standing_normalized]
    exact takes.lt_standing charges

-----
-- Trades
-----

/-- An account stands where it did and owes what it did. -/
structure StandsAlike (account : AccountId) (book book' : Book) : Prop where
  standing : ∀ side, book'.standing account side = book.standing account side
  debt : ∀ side, book'.discountedDebtOf account side = book.discountedDebtOf account side

theorem StandsAlike.trans {first second third : Book} (before : first.StandsAlike account second)
    (after : second.StandsAlike account third)
    : first.StandsAlike account third :=
  ⟨fun side => (after.standing side).trans (before.standing side),
    fun side => (after.debt side).trans (before.debt side)⟩

theorem Isolates.standsAlike {party : AccountId → Prop} (isolates : book.Isolates party book')
    (outside : ¬party account)
    : book.StandsAlike account book' := by
  have same := undisturbed_of_holdings (isolates.holdings account outside)
  have debt : ∀ side, book'.discountedDebtOf account side = book.discountedDebtOf account side := by
    intro side
    rw [Book.discountedDebtOf, same.holding, Book.discountedDebtOf]
  refine ⟨standing_of_same isolates.rates (fun side => ?_) debt, debt⟩
  rw [same.holding]

/-- Dropping a position that holds nothing leaves its account where it was. -/
theorem standsAlike_dropIfEmpty (dropped : dropIfEmpty account book = .ok () book')
    : book.StandsAlike account book' := by
  rcases dropIfEmpty_ok dropped with rfl | ⟨unstarted, removed⟩
  · exact ⟨fun _ => rfl, fun _ => rfl⟩
  · have isolates : book.Isolates (fun _ => True) book' := isolates_removePosition removed trivial
    have before := amounts_of_unstarted unstarted
    have after : ∀ side, ((book'.positionOf account).holding side).collateralAmount = 0
        ∧ ((book'.positionOf account).holding side).debtAmount = 0 := by
      intro side
      rcases removed_of_removePosition removed with ⟨_, rfl⟩ | ⟨_, _, gone⟩
      · exact before side
      · have absent := gone.holdings account
        rw [if_pos rfl, Option.map_eq_none_iff] at absent
        rw [positionOf, absent]
        cases side <;> exact ⟨rfl, rfl⟩
    have debt : ∀ side, book'.discountedDebtOf account side = book.discountedDebtOf account side :=
      fun side => (after side).2.trans (before side).2.symm
    have collateral := fun side => (after side).1.trans (before side).1.symm
    exact ⟨standing_of_same isolates.rates collateral debt, debt⟩

/-- The end of a trade leaves an account where it was. -/
theorem standsAlike_finish {dropped : Book} {price : Q96}
    (drops : dropIfEmpty account (book.reseat account) = .ok () dropped)
    (refreshes : refreshLeverage price dropped = .ok () book')
    : book.StandsAlike account book' := by
  obtain ⟨leverage, rfl⟩ := refreshLeverage_ok refreshes
  have reranked := book.reranked_reseat account
  have seats : book.Isolates (fun _ => False) (book.reseat account) :=
    ⟨fun side => by rw [reranked.ledger], fun other _ => reranked.holdings other⟩
  have stored : dropped.Isolates (fun _ => False) { dropped with leverage } :=
    isolates_of_positions (fun _ => rfl) rfl
  exact ((seats.standsAlike id).trans (standsAlike_dropIfEmpty drops)).trans (stored.standsAlike id)

/-- A debt that is known is what is owed. -/
theorem owedOf_of_debtOf (known : book.debtOf account asset = .ok real)
    : book.owedOf account asset = real := by
  unfold debtOf at known
  unfold owedOf discountedDebtOf positionOf
  cases found : book.position? account with
  | none =>
      rw [found] at known
      obtain rfl := Except.ok.inj known
      cases asset <;> exact Ledger.owed_zero _
  | some position =>
      rw [found] at known
      exact Ledger.owed_of_realDebt known

/-- Paying in no less than a debt leaves none of it. -/
theorem unowed_of_credit {debt : Nat} (owes : book.debtOf account asset = .ok debt)
    (some : real ≠ 0) (covers : debt ≤ real)
    (credited : credit account asset real book = .ok () book')
    : book'.discountedDebtOf account asset = 0 := by
  rcases holdings_of_credit credited with ⟨nothing, _⟩ | ⟨_, after, _, held, pays, _⟩
  · exact absurd nothing some
  · rw [discountedDebtOf, held, Holding.debtAmount_normalized]
    have owed := owedOf_of_debtOf owes
    rw [owedOf, discountedDebtOf] at owed
    generalize (book.positionOf account).holding asset = before at pays owed
    cases pays with
    | partly due less =>
        rw [Holding.debtAmount, Ledger.owed_of_realDebt due] at owed
        omega
    | wholly => rfl
    | adds => rfl

end Standing

section Trading

variable {book settled credited between debited book' : Book} {account : AccountId} {bought : Asset}
  {paid taken : Nat}

/-- A trade credits one asset and debits the other one, with nothing in between for its account. It
gains no more and loses no less than what is booked, but for the unit that each booking may leave on
the other side.
-/
theorem standing_of_trade (settles : book.StandsAlike account settled)
    (credits : credit account bought paid settled = .ok () credited)
    (waits : credited.StandsAlike account between)
    (debits : debit account bought.other taken between = .ok () debited)
    (finishes : debited.StandsAlike account book')
    : book'.standing account bought ≤ book.standing account bought + paid + 1
      ∧ book'.standing account bought.other ≤ book.standing account bought.other - taken + 1 := by
  have creditBooks : settled.Books account bought paid credited := .inl credits
  have debitBooks : between.Books account bought.other taken debited := .inr debits
  have gained := standing_credit_le credits
  have rebased := creditBooks.standing_other_le
  have lost := standing_debit_le debits
  have rebasedBack := debitBooks.standing_other_le
  rw [Asset.other_other] at rebasedBack
  rw [settles.standing] at gained rebased
  rw [waits.standing] at lost rebasedBack
  rw [finishes.standing, finishes.standing]
  omega

/-- Where no less is bought than is owed, nothing is owed of it in the end. -/
theorem unowed_of_trade {debt : Nat} (owes : settled.debtOf account bought = .ok debt)
    (some : paid ≠ 0) (covers : debt ≤ paid)
    (credits : credit account bought paid settled = .ok () credited)
    (waits : credited.StandsAlike account between)
    (debits : debit account bought.other taken between = .ok () debited)
    (finishes : debited.StandsAlike account book')
    : book'.discountedDebtOf account bought = 0 := by
  have debitBooks : between.Books account bought.other taken debited := .inr debits
  have kept := debitBooks.discountedDebtOf_other
  rw [Asset.other_other] at kept
  rw [finishes.debt, kept, waits.debt]
  exact unowed_of_credit owes some covers credits

end Trading

end Book

end MarginLending
