import MarginLending.Proofs.Book.Exits
import MarginLending.Proofs.Book.Lenders

/-!
What an operation leaves alone. On a book that is up to date an operation moves no coefficient, and
it replaces or drops no position but those of its parties. Every other account holds and owes what
it did, in discounted and in real amounts.
-/

namespace MarginLending

namespace Book

/-- The accounts that an operation acts on: its caller, the owner it pays in for, the bad account
that it takes over, and the fee holder.
-/
def Party (caller owner : AccountId) (bad? : Option AccountId) (account : AccountId) : Prop :=
  account = caller ∨ account = owner ∨ bad? = some account ∨ account = .feeHolder

/-- The coefficients are what they were, and so is what every account but the parties holds and
owes.
-/
structure Isolates (party : AccountId → Prop) (book book' : Book) : Prop where
  rates : ∀ asset, (book'.ledger asset).rates = (book.ledger asset).rates
  holdings : ∀ account, ¬party account → book'.holdingsOf? account = book.holdingsOf? account

section Isolation

variable {first second third book book' : Book} {caller owner account : AccountId}
  {bad? : Option AccountId} {party wider : AccountId → Prop} {asset : Asset} {real : Nat}

theorem Isolates.refl (book : Book) : book.Isolates party book := ⟨fun _ => rfl, fun _ _ => rfl⟩

theorem Isolates.trans (before : first.Isolates party second) (after : second.Isolates party third)
    : first.Isolates party third := by
  constructor
  · intro asset
    rw [after.rates, before.rates]
  · intro account outside
    rw [after.holdings account outside, before.holdings account outside]

/-- Fewer accounts are isolated from more parties. -/
theorem Isolates.mono (isolates : book.Isolates party book')
    (within : ∀ account, party account → wider account)
    : book.Isolates wider book' :=
  ⟨isolates.rates, fun account outside =>
    isolates.holdings account fun inside => outside (within account inside)⟩

theorem isolates_of_positions
    (rates : ∀ asset, (book'.ledger asset).rates = (book.ledger asset).rates)
    (positions : book'.positions = book.positions)
    : book.Isolates party book' := by
  refine ⟨rates, fun account _ => ?_⟩
  unfold holdingsOf? position?
  rw [positions]

theorem Rebooked.rates {after : Position} (rebooked : book.Rebooked account after book')
    (asset : Asset)
    : (book'.ledger asset).rates = (book.ledger asset).rates :=
  (rebooked.booked asset).rates_eq

theorem isolates_payIn {amount : Nat} (paid : payIn asset amount book = .ok () book')
    : book.Isolates party book' := by
  obtain rfl := payIn_ok paid
  refine isolates_of_positions (fun other => ?_) rfl
  rcases asset.eq_or_eq_other other with rfl | rfl
  · rw [ledger_setLedger_same]
    rfl
  · rw [ledger_setLedger_other]

theorem isolates_payOut {amount : Nat} (paid : payOut asset amount book = .ok () book')
    : book.Isolates party book' := by
  refine isolates_of_positions (fun other => (ledger_payOut paid other).1) ?_
  obtain ⟨_, rfl⟩ := payOut_ok paid
  rfl

/-- A credit replaces the position of its payee. -/
theorem isolates_credit (credited : credit account asset real book = .ok () book')
    (payee : party account)
    : book.Isolates party book' := by
  constructor
  · rcases credit_ok credited with ⟨_, rfl⟩ | ⟨_, _, _, _, _, paid, rebased, rfl⟩
    · exact fun _ => rfl
    · exact (rebooked_rebook paid.exchanges.normalized rebased.exchanges).rates
  · intro other outside
    exact holdingsOf?_credit credited fun same => outside (same ▸ payee)

/-- A debit replaces the position of its payer. -/
theorem isolates_debit (debited : debit account asset real book = .ok () book')
    (payer : party account)
    : book.Isolates party book' := by
  constructor
  · rcases debit_ok debited with ⟨_, rfl⟩ | ⟨_, _, _, _, _, _, _, taken, rebased, _, rfl⟩
    · exact fun _ => rfl
    · exact (rebooked_rebook taken.exchanges.normalized rebased.exchanges).rates
  · intro other outside
    exact holdingsOf?_debit debited fun same => outside (same ▸ payer)

theorem isolates_removePosition (removed : removePosition account book = .ok () book')
    (leaver : party account)
    : book.Isolates party book' := by
  constructor
  · rcases removed_of_removePosition removed with ⟨_, rfl⟩ | ⟨_, _, gone⟩
    · exact fun _ => rfl
    · exact fun asset => (gone.exchanged asset).rates_eq
  · intro other outside
    exact holdingsOf?_removePosition removed fun same => outside (same ▸ leaver)

theorem isolates_handOver {bad : Position} {badAccount receiver : AccountId}
    (gives : party badAccount) (receives : party receiver)
    : book.Isolates party (book.handOver bad badAccount receiver) := by
  constructor
  · intro asset
    rw [ledger_handOver]
  · intro other outside
    exact holdingsOf?_handOver (fun same => outside (same ▸ gives))
      fun same => outside (same ▸ receives)

/-- Nothing that an operation does reaches beyond its parties. -/
theorem Deal.isolates (deal : book.Deal caller owner bad? book')
    : book.Isolates (Party caller owner bad?) book' := by
  cases deal with
  | payOut paid => exact isolates_payOut paid
  | payIn paid => exact isolates_payIn paid
  | credit payee credited =>
      refine isolates_credit credited ?_
      rcases payee with isCaller | isOwner | isFee
      · exact .inl isCaller
      · exact .inr (.inl isOwner)
      · exact .inr (.inr (.inr isFee))
  | debit debited => exact isolates_debit debited (.inl rfl)
  | reseat seated =>
      have reranked := book.reranked_reseat seated
      exact ⟨fun asset => by rw [reranked.ledger], fun other _ => reranked.holdings other⟩
  | drop removed => exact isolates_removePosition removed (.inl rfl)
  | takeOver named => exact isolates_handOver (.inr (.inr (.inl named))) (.inl rfl)
  | refresh refreshed =>
      obtain ⟨_, rfl⟩ := refreshLeverage_ok refreshed
      exact isolates_of_positions (fun _ => rfl) rfl

/-- Nor does all of an operation, by induction on its actions. -/
theorem Deals.isolates (deals : book.Deals caller owner bad? book')
    : book.Isolates (Party caller owner bad?) book' := by
  induction deals with
  | refl => exact .refl book
  | tail _ last ih => exact ih.trans last.isolates

-----
-- Equal holdings at equal coefficients amount to the same
-----

theorem Isolates.position?_cases (isolates : book.Isolates party book') (outside : ¬party account)
    : book.position? account = none ∧ book'.position? account = none
      ∨ ∃ before after, book.position? account = some before
          ∧ book'.position? account = some after ∧ after.holdings = before.holdings := by
  have same := isolates.holdings account outside
  unfold holdingsOf? at same
  cases found : book.position? account with
  | none =>
      rw [found, Option.map_none, Option.map_eq_none_iff] at same
      exact .inl ⟨rfl, same⟩
  | some before =>
      rw [found] at same
      obtain ⟨after, foundAfter, held⟩ := Option.map_eq_some_iff.mp same
      exact .inr ⟨before, after, rfl, foundAfter, held⟩

theorem Isolates.collateralOf (isolates : book.Isolates party book') (outside : ¬party account)
    (asset : Asset)
    : book'.collateralOf account asset = book.collateralOf account asset := by
  unfold Book.collateralOf
  rcases isolates.position?_cases outside with ⟨none, none'⟩ | ⟨before, after, found, found', held⟩
  · rw [none, none']
  · rw [found, found']
    exact collateralIn_congr isolates.rates held asset

theorem Isolates.debtOf (isolates : book.Isolates party book') (outside : ¬party account)
    (asset : Asset)
    : book'.debtOf account asset = book.debtOf account asset := by
  unfold Book.debtOf
  rcases isolates.position?_cases outside with ⟨none, none'⟩ | ⟨before, after, found, found', held⟩
  · rw [none, none']
  · rw [found, found']
    exact debtIn_congr isolates.rates held asset

theorem Isolates.realAmount (isolates : book.Isolates party book') (outside : ¬party account)
    (asset : Asset)
    : book'.realAmount account asset = book.realAmount account asset := by
  unfold Book.realAmount
  rcases isolates.position?_cases outside with ⟨none, none'⟩ | ⟨before, after, found, found', held⟩
  · rw [none, none']
  · have same : after.holding asset = before.holding asset := congrArg (PerAsset.get · asset) held
    simp only [found, found', same, collateralIn_congr isolates.rates held,
      debtIn_congr isolates.rates held]

end Isolation

end Book

end MarginLending
