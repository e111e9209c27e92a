import MarginLending.Proofs.Book.Standing
import MarginLending.Proofs.Book.Surplus
import MarginLending.Proofs.Pool.Debts
import MarginLending.Proofs.Pool.Growth
import Mathlib.Algebra.Order.Field.Basic

/-!
Bookings round against the account that they are made for. A credit raises what an account has less
what it owes by no more than is paid, a debit lowers it by no less than is taken, and both are off
by less than a discounted unit and two real ones. On the other side the charge of a loss is moved
with the debt that it is counted by, and stays what it was.
-/

namespace MarginLending

namespace Ledger

/-- Whole numbers that are apart by less than a slack and two units when they count fractions. -/
theorem sub_lt_of_scaled {more less : Int} {slack : Nat}
    (scaled : more * Q96.unit < less * Q96.unit + slack + 2 * Q96.unit)
    : (more - less : ℚ) < slack / Q96.unit + 2 := by
  have positive : (0 : ℚ) < Q96.unit := by exact_mod_cast Q96.unit_pos
  have scaled : (more * Q96.unit : ℚ) < less * Q96.unit + slack + 2 * Q96.unit := by
    exact_mod_cast scaled
  rw [← sub_lt_iff_lt_add, lt_div_iff₀ positive]
  linarith

/-- The step is the larger of the two coefficients. -/
theorem step_eq {ledger : Ledger} {coeff : Q96} (effective : ledger.effectiveDebtCoeff = .ok coeff)
    : (ledger.step / Q96.unit : ℚ) = max ledger.collateralCoeff.toRat coeff.toRat := by
  have positive : (0 : ℚ) ≤ Q96.unit := by exact_mod_cast Nat.zero_le _
  unfold step Q96.toRat
  rw [debtUnit_of_effective effective, Nat.cast_max, max_div_div_right positive]

end Ledger

namespace Book

/-- What the pool reads of an account is where it stands, unless a number goes beyond an amount. -/
structure ReadsStanding (account : AccountId) (asset : Asset) (book : Book) : Prop where
  collateral
    : book.collateralOf account asset = .ok (book.netOf account asset)
      ∨ book.collateralOf account asset = .error (.math .overflow)
  debt
    : book.debtOf account asset = .ok (book.owedOf account asset)
      ∨ book.debtOf account asset = .error (.math .overflow)

/-- The charge on an account's collateral in an asset does not exceed it. -/
def BearsCharge (account : AccountId) (asset : Asset) (book : Book) : Prop :=
  (book.ledger asset).levy (book.discountedDebtOf account asset.other)
    ≤ (book.ledger asset).gross ((book.positionOf account).holding asset).collateralAmount

instance (account : AccountId) (asset : Asset) (book : Book)
    : Decidable (book.BearsCharge account asset) :=
  inferInstanceAs (Decidable (_ ≤ _))

/-- An account was moved by no more than an amount in its favour and, unless the charge on it
exceeds its collateral, by less than the larger of the two coefficients and two units less than
that.
-/
structure RoundsAgainst (account : AccountId) (asset : Asset) (amount : Int) (book book' : Book)
    : Prop where
  atMost : book'.standing account asset ≤ book.standing account asset + amount
  nearly
    : book.BearsCharge account asset →
      ∃ coeff, (book.ledger asset).effectiveDebtCoeff = .ok coeff
        ∧ (book.standing account asset + amount - book'.standing account asset : ℚ)
          < max (book.ledger asset).collateralCoeff.toRat coeff.toRat + 2

section Rounding

variable {book book' : Book} {account : AccountId} {asset : Asset} {real : Nat}

theorem readsStanding (indexed : book.Indexed) (account : AccountId) (asset : Asset)
    : book.ReadsStanding account asset :=
  ⟨book.collateralOf_reads account asset, debtOf_reads indexed account asset⟩

theorem nearly_of_scaled {amount : Int} (indexed : book.Indexed)
    (scaled : (book.standing account asset + amount) * Q96.unit
      < book'.standing account asset * Q96.unit + (book.ledger asset).step + 2 * Q96.unit)
    : ∃ coeff, (book.ledger asset).effectiveDebtCoeff = .ok coeff
        ∧ (book.standing account asset + amount - book'.standing account asset : ℚ)
          < max (book.ledger asset).collateralCoeff.toRat coeff.toRat + 2 := by
  obtain ⟨coeff, effective, _⟩ := (indexed asset).effectiveDebtCoeff
  refine ⟨coeff, effective, ?_⟩
  rw [← Ledger.step_eq effective]
  have apart := Ledger.sub_lt_of_scaled scaled
  push_cast at apart
  exact apart

theorem roundsAgainst_credit (indexed : book.Indexed)
    (credited : credit account asset real book = .ok () book')
    : book.RoundsAgainst account asset real book' :=
  ⟨standing_credit_le credited, fun covered =>
    nearly_of_scaled indexed (lt_standing_credit credited covered)⟩

theorem roundsAgainst_debit (indexed : book.Indexed)
    (debited : debit account asset real book = .ok () book')
    : book.RoundsAgainst account asset (-real) book' :=
  ⟨standing_debit_le debited, fun _ => nearly_of_scaled indexed (lt_standing_debit debited)⟩

theorem Books.indexed (books : book.Books account asset real book') (indexed : book.Indexed)
    : book'.Indexed := by
  rcases books with credited | debited
  · exact (rises_credit credited).indexed indexed
  · exact (rises_debit debited).indexed indexed

end Rounding

end Book

namespace Pool

section Bookings

variable {V : Type} [Venue V] {pool : Pool V}

/-- In a reachable pool a credit raises what an account has less what it owes in the asset by what
is paid at most, and a debit lowers it by what is taken at least, whether collateral, debt or both
are moved. Both are off by less than the larger of the two coefficients and two units, unless the
charge on the account's collateral exceeds it.
-/
theorem bookings_round_against_account (reachable : Reachable pool) (account : AccountId)
    (asset : Asset) (real : Nat)
    : pool.book.ReadsStanding account asset
      ∧ (∀ book', Book.credit account asset real pool.book = .ok () book' →
          pool.book.RoundsAgainst account asset real book' ∧ book'.ReadsStanding account asset)
      ∧ ∀ book', Book.debit account asset real pool.book = .ok () book' →
          pool.book.RoundsAgainst account asset (-real) book'
            ∧ book'.ReadsStanding account asset := by
  have indexed := reachable.indexed
  refine ⟨Book.readsStanding indexed account asset, fun book' credited => ?_,
    fun book' debited => ?_⟩
  · have books : pool.book.Books account asset real book' := .inl credited
    exact ⟨Book.roundsAgainst_credit indexed credited,
      Book.readsStanding (books.indexed indexed) account asset⟩
  · have books : pool.book.Books account asset real book' := .inr debited
    exact ⟨Book.roundsAgainst_debit indexed debited,
      Book.readsStanding (books.indexed indexed) account asset⟩

/-- The trader with a loss charged on its collateral owes 105 base. Paying 150 in leaves it with 44,
and taking 300 out of its 461 quote leaves 160.
-/
theorem bookings_round_against_account_charged
    : let book := (sample.after chargedTrades).book
      let credited := endState (Book.credit ⟨20⟩ .base 150 book)
      let debited := endState (Book.debit ⟨20⟩ .quote 300 book)
      (book.standing ⟨20⟩ .base = -105 ∧ credited.standing ⟨20⟩ .base = 44
          ∧ ∃ coeff, (book.ledger .base).effectiveDebtCoeff = .ok coeff
            ∧ (-105 + 150 - 44 : ℚ) < max (book.ledger .base).collateralCoeff.toRat coeff.toRat + 2)
        ∧ book.standing ⟨20⟩ .quote = 461 ∧ debited.standing ⟨20⟩ .quote = 160
        ∧ (160 : Int) ≤ 461 - 300 := by
  intro book credited debited
  have reachable : Reachable (sample.after chargedTrades) := reachable_sample.after _
  have credits : Book.credit ⟨20⟩ .base 150 book = .ok () credited := by decide +kernel
  have debits : Book.debit ⟨20⟩ .quote 300 book = .ok () debited := by decide +kernel
  have covered : book.BearsCharge ⟨20⟩ .base := by decide +kernel
  have base : book.standing ⟨20⟩ .base = -105 ∧ credited.standing ⟨20⟩ .base = 44 := by
    decide +kernel
  have quote : book.standing ⟨20⟩ .quote = 461 ∧ debited.standing ⟨20⟩ .quote = 160 := by
    decide +kernel
  obtain ⟨coeff, effective, near⟩ :=
    ((bookings_round_against_account reachable ⟨20⟩ .base 150).2.1 _ credits).1.nearly covered
  have most := ((bookings_round_against_account reachable ⟨20⟩ .quote 300).2.2 _ debits).1.atMost
  refine ⟨⟨base.1, base.2, coeff, effective, ?_⟩, quote.1, quote.2, ?_⟩
  · change ((book.standing ⟨20⟩ .base : Int)
      + ((150 : Nat) : Int) - credited.standing ⟨20⟩ .base : ℚ) < _
      at near
    rw [base.1, base.2] at near
    exact_mod_cast near
  · change debited.standing ⟨20⟩ .quote ≤ book.standing ⟨20⟩ .quote + _ at most
    rw [quote.1, quote.2] at most
    exact most

/-- A charge is neither refunded nor levied by a booking. Whatever is credited or debited in an
asset of a reachable pool, and whatever that does to a debt there, the account's net collateral in
the other asset comes out a unit higher at most, and lower by less than its coefficient and two
units.
-/
theorem bookings_leave_charge (reachable : Reachable pool) {account : AccountId} {asset : Asset}
    {real : Nat} {book' : Book}
    (booked : Book.credit account asset real pool.book = .ok () book'
      ∨ Book.debit account asset real pool.book = .ok () book')
    : book'.netOf account asset.other ≤ pool.book.netOf account asset.other + 1
      ∧ (pool.book.netOf account asset.other - book'.netOf account asset.other : ℚ)
        < (pool.book.ledger asset.other).collateralCoeff.toRat + 2
      ∧ pool.book.ReadsStanding account asset.other ∧ book'.ReadsStanding account asset.other := by
  have indexed := reachable.indexed
  have books : pool.book.Books account asset real book' := booked
  refine ⟨books.netOf_other_le, ?_, Book.readsStanding indexed account asset.other,
    Book.readsStanding (books.indexed indexed) account asset.other⟩
  have scaled : (pool.book.netOf account asset.other : Int) * Q96.unit
      < (book'.netOf account asset.other : Int) * Q96.unit
        + (pool.book.ledger asset.other).collateralCoeff.raw + 2 * Q96.unit := by
    exact_mod_cast books.lt_netOf_other
  have apart := Ledger.sub_lt_of_scaled scaled
  rw [Int.cast_natCast, Int.cast_natCast] at apart
  exact apart

/-- Paying 150 base in repays the trader's debt and ends the charge of 712 on its 1173 quote, but
leaves 460 of the 461 that it had net of the charge.
-/
theorem bookings_leave_charge_charged
    : let book := (sample.after chargedTrades).book
      let credited := endState (Book.credit ⟨20⟩ .base 150 book)
      Book.credit ⟨20⟩ .base 150 book = .ok () credited
        ∧ (book.ledger .quote).levy (book.discountedDebtOf ⟨20⟩ .base) = 712
        ∧ credited.discountedDebtOf ⟨20⟩ .base = 0
        ∧ book.collateralOf ⟨20⟩ .quote = .ok 461 ∧ credited.collateralOf ⟨20⟩ .quote = .ok 460
        ∧ (461 - 460 : ℚ) < (book.ledger .quote).collateralCoeff.toRat + 2 := by
  intro book credited
  have credits : Book.credit ⟨20⟩ .base 150 book = .ok () credited := by decide +kernel
  have nets : book.netOf ⟨20⟩ .quote = 461 ∧ credited.netOf ⟨20⟩ .quote = 460 := by decide +kernel
  obtain ⟨_, lower, _⟩ :=
    bookings_leave_charge (reachable_sample.after chargedTrades) (.inl credits)
  refine ⟨credits, by decide +kernel, by decide +kernel, by decide +kernel, by decide +kernel, ?_⟩
  change ((book.netOf ⟨20⟩ .quote : ℚ) - credited.netOf ⟨20⟩ .quote) < _ at lower
  rw [nets.1, nets.2] at lower
  exact_mod_cast lower

end Bookings

end Pool

end MarginLending
