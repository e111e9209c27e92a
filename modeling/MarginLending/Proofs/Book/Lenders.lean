import MarginLending.Proofs.Book.Growth

/-!
What a call leaves to an account that owes nothing. Such an account is charged for nothing, and
nothing that a call does for others takes from it: they are not debited through it, and what is
seized or taken over owes something. So its holdings stay or grow, and what they amount to rises
with the coefficient.
-/

namespace MarginLending

namespace Book

/-- The account owes nothing in either asset, with or without a position. -/
def OwesNothing (book : Book) (account : AccountId) : Prop :=
  ∀ asset, ((book.positionOf account).holding asset).debtAmount = 0

/-- What an account's collateral amounts to before any charge, rounded down, in range or not. -/
def lent (book : Book) (account : AccountId) (asset : Asset) : Nat :=
  (book.ledger asset).collateralCoeff.raw
    * ((book.positionOf account).holding asset).collateralAmount / Q96.unit

/-- The account owes nothing afterwards and holds no less than before. -/
structure Spares (account : AccountId) (book book' : Book) : Prop where
  clear : book'.OwesNothing account
  held
    : ∀ asset, ((book.positionOf account).holding asset).collateralAmount
        ≤ ((book'.positionOf account).holding asset).collateralAmount

/-- What an account holds and owes, none without a position. -/
def holdingsOf? (book : Book) (account : AccountId) : Option (PerAsset Holding) :=
  (book.position? account).map Position.holdings

/-- Whose holdings an action reaches: nobody's, those of whoever is credited, the caller's, those of
a debtor that is seized, or those of a debtor that is taken over and of the caller.
-/
inductive Reaches (caller : AccountId) (book : Book) : Book → Prop
  | nobody {book' : Book}
      (same : ∀ account, book'.holdingsOf? account = book.holdingsOf? account)
    : Reaches caller book book'
  | credit {start book' : Book} {payee : AccountId} {asset : Asset} {real : Nat}
      (same : start.positions = book.positions)
      (credited : credit payee asset real start = .ok () book')
    : Reaches caller book book'
  | debit {book' : Book} {asset : Asset} {real : Nat}
      (debited : debit caller asset real book = .ok () book')
    : Reaches caller book book'
  | drop {book' : Book} (removed : removePosition caller book = .ok () book')
    : Reaches caller book book'
  | seize {book' : Book} {account : AccountId} {position : Position} {debtAsset : Asset}
      (found : book.position? account = some position)
      (owes : position.kind.debtAsset? = some debtAsset)
      (removed : removePosition account book = .ok () book')
    : Reaches caller book book'
  | takeOver {bad : Position} {badAccount : AccountId} {debtAsset : Asset}
      (found : book.position? badAccount = some bad)
      (owes : bad.kind.debtAsset? = some debtAsset)
    : Reaches caller book (book.handOver bad badAccount caller)

/-- Neither owing nor holding was changed for an account; at most its slot was. -/
def Undisturbed (account : AccountId) (book book' : Book) : Prop :=
  (book'.positionOf account).holdings = (book.positionOf account).holdings

section Frames

variable {first second third book book' : Book} {caller owner account other : AccountId}
  {asset : Asset} {real : Nat}

theorem Spares.refl (clear : book.OwesNothing account) : book.Spares account book :=
  ⟨clear, fun _ => Nat.le_refl _⟩

theorem Spares.trans (before : first.Spares account second) (after : second.Spares account third)
    : first.Spares account third :=
  ⟨after.clear, fun asset => Nat.le_trans (before.held asset) (after.held asset)⟩

theorem Undisturbed.holding (same : book.Undisturbed account book') (asset : Asset)
    : (book'.positionOf account).holding asset = (book.positionOf account).holding asset :=
  congrArg (PerAsset.get · asset) same

theorem Undisturbed.spares (same : book.Undisturbed account book')
    (clear : book.OwesNothing account)
    : book.Spares account book' := by
  constructor
  · intro asset
    rw [same.holding]
    exact clear asset
  · intro asset
    exact Nat.le_of_eq (congrArg Holding.collateralAmount (same.holding asset)).symm

theorem spares_of_positions (clear : book.OwesNothing account)
    (same : book'.positions = book.positions)
    : book.Spares account book' := by
  have undisturbed : book.Undisturbed account book' := by
    unfold Undisturbed positionOf position?
    rw [same]
  exact undisturbed.spares clear

theorem undisturbed_of_holdings (same : book'.holdingsOf? account = book.holdingsOf? account)
    : book.Undisturbed account book' := by
  unfold holdingsOf? at same
  unfold Undisturbed positionOf
  cases found : book.position? account with
  | none =>
      rw [found, Option.map_none, Option.map_eq_none_iff] at same
      rw [same]
  | some position =>
      rw [found] at same
      obtain ⟨after, foundAfter, held⟩ := Option.map_eq_some_iff.mp same
      rw [foundAfter]
      exact held

theorem Rebooked.positionOf {after : Position} (rebooked : book.Rebooked account after book')
    : book'.positionOf account = after := by
  unfold Book.positionOf
  rw [rebooked.position?, if_pos rfl, Option.getD_some]

theorem Rebooked.holdingsOf? {after : Position} (rebooked : book.Rebooked other after book')
    (different : other ≠ account)
    : book'.holdingsOf? account = book.holdingsOf? account := by
  unfold Book.holdingsOf?
  rw [rebooked.position?, if_neg different]

theorem holdingsOf?_credit (credited : credit other asset real book = .ok () book')
    (different : other ≠ account)
    : book'.holdingsOf? account = book.holdingsOf? account := by
  rcases credit_ok credited with ⟨_, rfl⟩ | ⟨_, _, _, _, _, paid, rebased, rfl⟩
  · rfl
  · exact (rebooked_rebook paid.exchanges.normalized rebased.exchanges).holdingsOf? different

theorem holdingsOf?_debit (debited : debit other asset real book = .ok () book')
    (different : other ≠ account)
    : book'.holdingsOf? account = book.holdingsOf? account := by
  rcases debit_ok debited with ⟨_, rfl⟩ | ⟨_, _, _, _, _, _, _, taken, rebased, _, rfl⟩
  · rfl
  · exact (rebooked_rebook taken.exchanges.normalized rebased.exchanges).holdingsOf? different

theorem holdingsOf?_removePosition (removed : removePosition other book = .ok () book')
    (different : other ≠ account)
    : book'.holdingsOf? account = book.holdingsOf? account := by
  rcases removed_of_removePosition removed with ⟨_, rfl⟩ | ⟨_, _, gone⟩
  · rfl
  · unfold holdingsOf?
    rw [gone.holdings, if_neg different]

theorem holdingsOf?_handOver {bad : Position} {badAccount receiver : AccountId}
    (notBad : badAccount ≠ account) (notReceiver : receiver ≠ account)
    : (book.handOver bad badAccount receiver).holdingsOf? account = book.holdingsOf? account := by
  unfold holdingsOf? position?
  rw [positions_handOver, AccountTable.get?_insert, if_neg notReceiver, AccountTable.get?_erase,
    if_neg notBad, AccountTable.get?_erase, if_neg notReceiver]

/-- A debtor is not an account that owes nothing. -/
theorem ne_of_owes {position : Position} (clear : book.OwesNothing account)
    (found : book.position? other = some position)
    (owes : position.kind.debtAsset? = some asset)
    : other ≠ account := by
  rintro rfl
  have debt := Position.debtAmount_pos_of_debtAsset? owes
  have none := clear asset
  rw [positionOf, found, Option.getD_some] at none
  omega

theorem reaches_of_positions (same : book'.positions = book.positions)
    : book.Reaches caller book' := by
  refine .nobody fun account => ?_
  unfold holdingsOf? position?
  rw [same]

/-- What is spread over lenders is credited to the fee holder where nobody lends. -/
theorem reaches_shareAmongLenders {amount : Nat}
    (shared : shareAmongLenders asset amount book = .ok () book')
    : book.Reaches caller book' := by
  rcases shareAmongLenders_ok shared with ⟨_, rfl⟩ | ⟨_, credited⟩ | ⟨_, _, _, _, rfl⟩
  · exact reaches_of_positions rfl
  · exact .credit rfl credited
  · exact reaches_of_positions rfl

/-- Everything that a call does reaches somebody in one of these ways. -/
theorem Deed.reaches (deed : book.Deed caller owner book') : book.Reaches caller book' := by
  cases deed with
  | payOut paid =>
      obtain ⟨_, rfl⟩ := payOut_ok paid
      exact reaches_of_positions rfl
  | payIn paid =>
      obtain rfl := payIn_ok paid
      exact reaches_of_positions rfl
  | share shared => exact reaches_shareAmongLenders shared
  | charge charged =>
      obtain ⟨_, _, _, _, rfl⟩ := chargeBorrowers_ok charged
      exact reaches_of_positions rfl
  | relieve _ _ relieved =>
      rcases relieveDebt_ok relieved with ⟨_, rfl⟩ | ⟨_, _, _, _, rfl⟩
      · exact reaches_of_positions rfl
      · exact reaches_of_positions rfl
  | raise raised =>
      obtain ⟨_, _, _, _, rfl⟩ := raiseDebt_ok raised
      exact reaches_of_positions rfl
  | credit _ credited => exact .credit rfl credited
  | debit debited => exact .debit debited
  | reseat seated => exact .nobody (book.reranked_reseat seated).holdings
  | drop removed => exact .drop removed
  | seize found owes removed => exact .seize found owes removed
  | takeOver found owes => exact .takeOver found owes
  | refresh refreshed =>
      obtain ⟨_, rfl⟩ := refreshLeverage_ok refreshed
      exact reaches_of_positions rfl
  | grow accrued =>
      rcases accrueSide_ok accrued with ⟨_, rfl⟩ | ⟨_, _, _, _, _, _, _, credited⟩
      · exact reaches_of_positions rfl
      · refine .credit ?_ credited
        rfl
  | stamp => exact reaches_of_positions rfl
  | parameters => exact reaches_of_positions rfl

-----
-- Credits only ever add to what an account holds
-----

theorem collateralAmount_le_of_credit {ledger after : Ledger} {old new : Holding}
    (credit : ledger.Credit real old new after)
    : old.collateralAmount ≤ new.collateralAmount := by
  cases credit with
  | partly => exact Nat.zero_le _
  | wholly => exact Nat.zero_le _
  | adds => exact Nat.le_add_right ..

/-- Since no debt is repaid, the holding in the other asset is not rebased. -/
theorem spares_credit (credited : credit other asset real book = .ok () book')
    (clear : book.OwesNothing account)
    : book.Spares account book' := by
  rcases credit_ok credited with
      ⟨_, rfl⟩ | ⟨_, after, ledger, rest, otherLedger, paid, rebased, rfl⟩
  · exact .refl clear
  · have rebooked := rebooked_rebook paid.exchanges.normalized rebased.exchanges
    by_cases same : other = account
    · subst same
      have unowed : after.debtAmount = 0 := Nat.le_zero.mp (clear asset ▸ paid.debtAmount_le)
      rw [clear asset, unowed] at rebased
      obtain ⟨rfl, _⟩ := rebased.unmoved
      constructor
      · intro side
        rw [rebooked.positionOf, debtAmount_rebook]
        split
        · rw [Holding.debtAmount_normalized, unowed]
        · exact clear asset.other
      · intro side
        rw [rebooked.positionOf]
        rcases asset.eq_or_eq_other side with rfl | rfl
        · rw [holding_rebook_other, Holding.collateralAmount_normalized]
          exact collateralAmount_le_of_credit paid
        · exact Nat.le_of_eq (by rw [Position.holding_setHolding_same])
    · exact (undisturbed_of_holdings (rebooked.holdingsOf? same)).spares clear

/-- Nothing that reaches an account only through others takes from it while it owes nothing. -/
theorem Reaches.spares (reaches : book.Reaches caller book') (notCaller : caller ≠ account)
    (clear : book.OwesNothing account)
    : book.Spares account book' := by
  cases reaches with
  | nobody same => exact (undisturbed_of_holdings (same account)).spares clear
  | credit same credited =>
      have start := spares_of_positions clear same
      exact start.trans (spares_credit credited start.clear)
  | debit debited =>
      exact (undisturbed_of_holdings (holdingsOf?_debit debited notCaller)).spares clear
  | drop removed =>
      exact (undisturbed_of_holdings (holdingsOf?_removePosition removed notCaller)).spares clear
  | seize found owes removed =>
      have different := ne_of_owes clear found owes
      exact (undisturbed_of_holdings (holdingsOf?_removePosition removed different)).spares clear
  | takeOver found owes =>
      have different := ne_of_owes clear found owes
      exact (undisturbed_of_holdings (holdingsOf?_handOver different notCaller)).spares clear

/-- Nothing that a call does takes from an account that owes nothing and is not its caller. -/
theorem Deed.spares (deed : book.Deed caller owner book') (notCaller : caller ≠ account)
    (clear : book.OwesNothing account)
    : book.Spares account book' :=
  deed.reaches.spares notCaller clear

end Frames

-----
-- What is lent amounts to more as the coefficient rises
-----

section Lending

variable {book book' : Book} {account : AccountId}

theorem lent_le (spares : book.Spares account book') (rises : book.Rises book') (asset : Asset)
    : book.lent account asset ≤ book'.lent account asset :=
  Nat.div_le_div_right (Nat.mul_le_mul (rises asset).collateral (spares.held asset))

/-- The real collateral of an account that owes nothing is what it has lent, if that is an amount.
-/
theorem collateralOf_of_owesNothing (clear : book.OwesNothing account) (asset : Asset)
    : book.collateralOf account asset
      = (Amount.ofWide (book.lent account asset) : Except MathError Nat) := by
  rcases book.positionOf_cases account with found | ⟨absent, empty⟩
  · have uncharged := clear asset.other
    unfold collateralOf collateralIn Ledger.netCollateral Ledger.realCollateral Ledger.charge
    simp only [found, uncharged, Q96.scale_eq]
    unfold lent
    cases Amount.ofWide _ <;> rfl
  · have none : (Position.empty.holding asset).collateralAmount = 0 := by cases asset <;> rfl
    unfold collateralOf lent
    rw [absent, empty, none, Nat.mul_zero, Nat.zero_div]
    rfl

end Lending

end Book

end MarginLending
