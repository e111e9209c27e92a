import MarginLending.Proofs.Pool.Closing
import MarginLending.Proofs.Pool.Limits

/-!
Takeovers of positions that are over the leverage bound. The receiver, who held nothing, ends up
with what the bad account held and owed and with both payments credited to it. A payment that covers
the debt ends it; with anything less the receiver sits in the heap where the bad account sat.
-/

namespace MarginLending

namespace Book

section Receiving

variable {book book' received quoteCredited baseCredited : Book} {account account' : AccountId}
  {asset : Asset} {real : Nat} {paid : PerAsset Nat}

/-- The same holdings at the same coefficients owe the same, whoever has them. -/
theorem owedOf_congr (rates : ∀ side, (book'.ledger side).rates = (book.ledger side).rates)
    (same : (book'.positionOf account').holdings = (book.positionOf account).holdings)
    (asset : Asset)
    : book'.owedOf account' asset = book.owedOf account asset := by
  unfold owedOf discountedDebtOf Position.holding
  rw [same, Ledger.owed_congr (rates asset)]

/-- And they stand alike. -/
theorem standing_congr (rates : ∀ side, (book'.ledger side).rates = (book.ledger side).rates)
    (same : (book'.positionOf account').holdings = (book.positionOf account).holdings)
    (asset : Asset)
    : book'.standing account' asset = book.standing account asset := by
  have owed := owedOf_congr rates same asset
  unfold standing netOf discountedDebtOf Position.holding
  rw [owed, same, Ledger.net_congr (rates asset)]

/-- A payment of less than a debt, or of nothing, leaves some of the debt; a payment that covers it
leaves nothing. What is repaid is rounded down, and less than all of it.
-/
theorem discountedDebtOf_credit (owes : book.discountedDebtOf account asset ≠ 0)
    (credited : credit account asset real book = .ok () book')
    : book'.discountedDebtOf account asset = 0 ↔ 0 < real ∧ book.owedOf account asset ≤ real := by
  rcases holdings_of_credit credited with ⟨rfl, rfl⟩ | ⟨some, after, _, held, pays, _⟩
  · exact ⟨fun nothing => absurd nothing owes, fun pays => absurd pays.1 (Nat.lt_irrefl _)⟩
  · rw [discountedDebtOf, held, Holding.debtAmount_normalized]
    unfold owedOf
    unfold discountedDebtOf at owes ⊢
    generalize (book.positionOf account).holding asset = before at pays owes
    cases pays with
    | @partly debt owed repaid coeff due less effective repays =>
        rw [Holding.debtAmount, Holding.debtAmount, Ledger.owed_of_realDebt due]
        obtain ⟨coeff', effective', scaled⟩ := Ledger.realDebt_eq_ok.mp due
        obtain rfl : coeff' = coeff := Except.ok.inj (effective'.symm.trans effective)
        have bound := (Q96.unscale_ok repays).2.1
        have owedBound := (Q96.scale_ok scaled).1
        have short : repaid * coeff'.raw < debt * coeff'.raw :=
          calc repaid * coeff'.raw
              ≤ real * Q96.unit := bound
            _ < owed * Q96.unit := Nat.mul_lt_mul_of_pos_right less Q96.unit_pos
            _ ≤ coeff'.raw * debt := owedBound
            _ = debt * coeff'.raw := Nat.mul_comm ..
        have := Nat.lt_of_mul_lt_mul_right short
        omega
    | wholly due enough =>
        rw [Holding.debtAmount, Holding.debtAmount, Ledger.owed_of_realDebt due]
        exact ⟨fun _ => ⟨Nat.pos_of_ne_zero some, enough⟩, fun _ => rfl⟩
    | adds owesNothing => exact absurd owesNothing owes

/-- A credit takes no position away. -/
theorem position?_isSome_credit (credited : credit account asset real book = .ok () book')
    (has : (book.position? account).isSome)
    : (book'.position? account).isSome := by
  rcases credit_ok credited with ⟨_, rfl⟩ | ⟨_, after, _, other, _, pays, rebases, rfl⟩
  · exact has
  · rw [(rebooked_rebook pays.exchanges.normalized rebases.exchanges).position?, if_pos rfl]
    rfl

/-- Both payments are credited, quote first. -/
structure CreditsBoth (account : AccountId) (paid : PerAsset Nat) (book middle book' : Book)
    : Prop where
  quote : credit account .quote paid.quote book = .ok () middle
  base : credit account .base paid.base middle = .ok () book'

namespace CreditsBoth

variable {middle : Book}

theorem rates (credits : book.CreditsBoth account paid middle book') (side : Asset)
    : (book'.ledger side).rates = (book.ledger side).rates := by
  have quoteBooks : book.Books account .quote paid.quote middle := .inl credits.quote
  have baseBooks : middle.Books account .base paid.base book' := .inl credits.base
  rw [baseBooks.rates, quoteBooks.rates]

theorem balance (credits : book.CreditsBoth account paid middle book') (side : Asset)
    : (book'.ledger side).balance = (book.ledger side).balance := by
  rw [balance_credit credits.base, balance_credit credits.quote]

/-- On each side the account gains what is paid at most, and a unit by which the other payment may
rebase it.
-/
theorem standing_le (credits : book.CreditsBoth account paid middle book') (side : Asset)
    : book'.standing account side ≤ book.standing account side + paid.get side + 1 := by
  have quoteBooks : book.Books account .quote paid.quote middle := .inl credits.quote
  have baseBooks : middle.Books account .base paid.base book' := .inl credits.base
  cases side with
  | base =>
      have rebased : middle.standing account .base ≤ book.standing account .base + 1 :=
        quoteBooks.standing_other_le
      have gained := standing_credit_le credits.base
      simp only [PerAsset.get]
      omega
  | quote =>
      have gained := standing_credit_le credits.quote
      have rebased : book'.standing account .quote ≤ middle.standing account .quote + 1 :=
        baseBooks.standing_other_le
      simp only [PerAsset.get]
      omega

/-- A debt is gone exactly if it is covered by a payment in its asset; the other payment leaves it
alone.
-/
theorem discountedDebtOf_eq_zero_iff (credits : book.CreditsBoth account paid middle book')
    (owes : book.discountedDebtOf account asset ≠ 0)
    : book'.discountedDebtOf account asset = 0
      ↔ 0 < paid.get asset ∧ book.owedOf account asset ≤ paid.get asset := by
  have quoteBooks : book.Books account .quote paid.quote middle := .inl credits.quote
  have baseBooks : middle.Books account .base paid.base book' := .inl credits.base
  cases asset with
  | base =>
      have kept : middle.discountedDebtOf account .base = book.discountedDebtOf account .base :=
        quoteBooks.discountedDebtOf_other
      have owed : middle.owedOf account .base = book.owedOf account .base := by
        unfold owedOf
        rw [kept, Ledger.owed_congr (quoteBooks.rates .base)]
      rw [← owed]
      exact discountedDebtOf_credit (kept.symm ▸ owes) credits.base
  | quote =>
      have kept : book'.discountedDebtOf account .quote = middle.discountedDebtOf account .quote :=
        baseBooks.discountedDebtOf_other
      rw [kept]
      exact discountedDebtOf_credit owes credits.quote

theorem holdingsOf? (credits : book.CreditsBoth account paid middle book')
    (different : account ≠ account')
    : book'.holdingsOf? account' = book.holdingsOf? account' := by
  rw [holdingsOf?_credit credits.base different, holdingsOf?_credit credits.quote different]

theorem owesNoMore (credits : book.CreditsBoth account paid middle book')
    : book.OwesNoMore account' book' :=
  (owesNoMore_credit credits.quote).trans (owesNoMore_credit credits.base)

end CreditsBoth

/-- The receiver has the bad position and the bad account none; the payments are in the balances. -/
structure Received (receiver badAccount : AccountId) (paid : PerAsset Nat) (bad : Position)
    (book received : Book)
    : Prop where
  has : received.position? receiver = some bad
  gone : received.position? badAccount = none
  ledger
    : ∀ side, received.ledger side
        = { book.ledger side with balance := (book.ledger side).balance + paid.get side }

theorem received_of_payIn {bad : Position} {badAccount receiver : AccountId} {quotePaid : Book}
    (different : receiver ≠ badAccount)
    (paysQuote : payIn .quote paid.quote (book.handOver bad badAccount receiver) = .ok () quotePaid)
    (paysBase : payIn .base paid.base quotePaid = .ok () received)
    : book.Received receiver badAccount paid bad received := by
  obtain rfl := payIn_ok paysQuote
  obtain rfl := payIn_ok paysBase
  have lookups := book.position?_handOver bad badAccount receiver
  refine ⟨?_, ?_, fun side => ?_⟩
  · exact (lookups receiver).trans (if_pos rfl)
  · exact (lookups badAccount).trans ((if_neg different).trans (if_pos rfl))
  · have kept : (book.handOver bad badAccount receiver).ledger side = book.ledger side :=
      ledger_handOver side
    rw [← kept]
    cases side <;> rfl

/-- How the takeover of a bad position at a price came out, between the book that it found and the
one that it left: the debt was in one asset and came to a real amount.
-/
structure TakenOver (receiver badAccount : AccountId) (price : Q96) (paid : PerAsset Nat)
    (bad : Position) (debtAsset : Asset) (debt : Nat) (book book' : Book)
    : Prop where
  found : book.position? badAccount = some bad
  owes : bad.kind = .ofDebt debtAsset
  owed : book.debtOf badAccount debtAsset = .ok debt
  liquidatable : book.isLiquidatable bad price = .ok true
  unstarted
    : book.kindOf receiver = .uninitialized
      ∧ ∀ side, ((book.positionOf receiver).holding side).collateralAmount = 0
          ∧ ((book.positionOf receiver).holding side).debtAmount = 0
  gone : book'.position? badAccount = none
  balance : ∀ side, (book'.ledger side).balance = (book.ledger side).balance + paid.get side
  credited
    : ∃ received middle credited : Book,
        book.Received receiver badAccount paid bad received
          ∧ received.CreditsBoth receiver paid middle credited
          ∧ (∀ side, book'.ledger side = credited.ledger side)
          ∧ book'.holdingsOf? receiver = credited.holdingsOf? receiver
  standing
    : ∀ side, book'.standing receiver side ≤ book.standing badAccount side + paid.get side + 1
  within
    : ∃ position, book'.position? receiver = some position
        ∧ book'.isLiquidatable position price = .ok false
  clears : 0 < paid.get debtAsset → debt ≤ paid.get debtAsset → book'.Closed receiver
  remains
    : ¬(0 < paid.get debtAsset ∧ debt ≤ paid.get debtAsset) →
        book'.kindOf receiver = .ofDebt debtAsset ∧ receiver ∈ (book'.heap debtAsset).accounts

section Assembling

variable {receiver badAccount : AccountId} {bad : Position} {debtAsset : Asset} {debt : Nat}
  {price : Q96} {middle credited : Book}

theorem Received.rates (handed : book.Received receiver badAccount paid bad received) (side : Asset)
    : (received.ledger side).rates = (book.ledger side).rates := by
  rw [handed.ledger]
  rfl

/-- What the receiver has is what the bad account had. -/
theorem Received.holdings (handed : book.Received receiver badAccount paid bad received)
    (found : book.position? badAccount = some bad)
    : (received.positionOf receiver).holdings = (book.positionOf badAccount).holdings := by
  unfold positionOf
  rw [handed.has, found]

/-- Who is liquidatable has a debt that is known. -/
theorem debtOf_of_liquidatable (found : book.position? badAccount = some bad)
    (owes : bad.kind.debtAsset? = some debtAsset) (due : book.isLiquidatable bad price = .ok true)
    : ∃ debt, book.debtOf badAccount debtAsset = .ok debt := by
  obtain ⟨leverage, known, _⟩ := isLiquidatable_eq_ok.mp due
  obtain ⟨_, debt, _, _, _, _, owed, _, _⟩ := positionLeverage_ok owes known
  refine ⟨debt, ?_⟩
  unfold debtOf
  rw [found]
  exact owed

/-- Where the payments end the debt the receiver is left without any, and elsewhere in the heap of
its kind.
-/
theorem ends_or_remains (consistent : book.Consistent none) (atEnd : book'.Consistent none)
    (found : book.position? badAccount = some bad) (owes : bad.kind.debtAsset? = some debtAsset)
    (owed : book.debtOf badAccount debtAsset = .ok debt)
    (handed : book.Received receiver badAccount paid bad received)
    (credits : received.CreditsBoth receiver paid middle credited)
    (reranked : credited.Reranked book')
    : (0 < paid.get debtAsset → debt ≤ paid.get debtAsset → book'.Closed receiver)
      ∧ (¬(0 < paid.get debtAsset ∧ debt ≤ paid.get debtAsset) →
          book'.kindOf receiver = .ofDebt debtAsset
            ∧ receiver ∈ (book'.heap debtAsset).accounts) := by
  have debts : ∀ side, received.discountedDebtOf receiver side = (bad.holding side).debtAmount := by
    intro side
    rw [discountedDebtOf, positionOf, handed.has]
    rfl
  have finished : ∀ side, book'.discountedDebtOf receiver side
      = credited.discountedDebtOf receiver side := by
    intro side
    rw [discountedDebtOf, (undisturbed_of_holdings (reranked.holdings receiver)).holding]
    rfl
  have owing : received.discountedDebtOf receiver debtAsset ≠ 0 := by
    rw [debts]
    exact Nat.ne_of_gt (Position.debtAmount_pos_of_debtAsset? owes)
  have clear : received.discountedDebtOf receiver debtAsset.other = 0 := by
    rw [debts]
    rw [debts] at owing
    exact (consistent.oneSided badAccount bad found debtAsset).resolve_left owing
  have iff := credits.discountedDebtOf_eq_zero_iff owing
  rw [owedOf_congr handed.rates (handed.holdings found), owedOf_of_debtOf owed, ← finished] at iff
  constructor
  · intro positive covers
    refine atEnd.closed fun side => ?_
    rcases debtAsset.eq_or_eq_other side with rfl | rfl
    · exact iff.mpr ⟨positive, covers⟩
    · have fewer : credited.discountedDebtOf receiver debtAsset.other ≤ _ :=
        credits.owesNoMore debtAsset.other
      rw [finished]
      omega
  · intro uncovered
    have left := mt iff.mp uncovered
    have kind : book'.kindOf receiver = .ofDebt debtAsset := by
      rw [← PositionKind.debtAsset?_eq_some_iff]
      rcases book'.positionOf_cases receiver with has | ⟨_, empty⟩
      · unfold kindOf
        rw [has]
        exact atEnd.debtAsset?_of_debt has left
      · rw [discountedDebtOf, empty] at left
        cases debtAsset <;> exact absurd rfl left
    exact ⟨kind, (atEnd.mem_iff_kindOf _ _).mpr kind⟩

/-- A bad position that was received, paid into and ranked is taken over, if it is within the bound.
-/
theorem takenOver_of_received (consistent : book.Consistent none) (atEnd : book'.Consistent none)
    (different : receiver ≠ badAccount) (found : book.position? badAccount = some bad)
    (owes : bad.kind.debtAsset? = some debtAsset) (due : book.isLiquidatable bad price = .ok true)
    (unstarted : book.kindOf receiver = .uninitialized)
    (handed : book.Received receiver badAccount paid bad received)
    (credits : received.CreditsBoth receiver paid middle credited)
    (reranked : credited.Reranked book')
    (within : ∃ position, book'.position? receiver = some position
      ∧ book'.isLiquidatable position price = .ok false)
    : ∃ debt, book.TakenOver receiver badAccount price paid bad debtAsset debt book' := by
  obtain ⟨debt, owed⟩ := debtOf_of_liquidatable found owes due
  obtain ⟨clears, remains⟩ :=
    ends_or_remains consistent atEnd found owes owed handed credits reranked
  refine ⟨debt, found, PositionKind.debtAsset?_eq_some_iff.mp owes, owed, due,
    ⟨unstarted, amounts_of_unstarted unstarted⟩, ?_, ?_,
    ⟨received, middle, credited, handed, credits, reranked.ledger, reranked.holdings receiver⟩, ?_,
    within, clears, remains⟩
  · have kept := (reranked.holdings badAccount).trans (credits.holdingsOf? different)
    rw [holdingsOf?, handed.gone, Option.map_none, Option.map_eq_none_iff] at kept
    exact kept
  · intro side
    rw [reranked.ledger, credits.balance, handed.ledger]
  · intro side
    have gained := credits.standing_le side
    rw [standing_congr handed.rates (handed.holdings found)] at gained
    rw [standing_congr (fun side => congrArg Ledger.rates (reranked.ledger side))
      (undisturbed_of_holdings (reranked.holdings receiver))]
    exact gained

end Assembling

end Receiving

end Book

namespace Pool

section Operations

variable {V : Type} {pool pool' : Pool V} {terms : Terms} {outcome : Outcome}
  {badAccount : AccountId} {quoteAmount baseAmount : Nat}

theorem takenOver_takeOver (consistent : pool.book.Consistent none)
    (atEnd : pool'.book.commit.Consistent none)
    (taken : takeOver terms badAccount quoteAmount baseAmount pool = .ok outcome pool')
    : ∃ bad debtAsset debt,
        pool.book.TakenOver terms.caller badAccount terms.price ⟨baseAmount, quoteAmount⟩
          bad debtAsset debt pool'.book.commit := by
  obtain ⟨bad, debtAsset, quotePaid, basePaid, quoteCredited, baseCredited, book', _, unstarted,
    found, owes, due, paysQuote, paysBase, creditsQuote, creditsBase, within, refreshes, rfl⟩ :=
    takeOver_eq taken
  obtain ⟨leverage, rfl⟩ := Book.refreshLeverage_ok refreshes
  have different : terms.caller ≠ badAccount := by
    rintro rfl
    rw [Book.kind_of_unstarted unstarted found] at owes
    cases owes
  have received
      : pool.book.Received terms.caller badAccount ⟨baseAmount, quoteAmount⟩ bad basePaid :=
    Book.received_of_payIn different paysQuote paysBase
  have credits : basePaid.CreditsBoth terms.caller ⟨baseAmount, quoteAmount⟩ quoteCredited
      baseCredited :=
    ⟨creditsQuote, creditsBase⟩
  have reranked := baseCredited.reranked_reseat terms.caller
  have has : ((baseCredited.reseat terms.caller).position? terms.caller).isSome := by
    have same := congrArg Option.isSome (reranked.holdings terms.caller)
    rw [Option.isSome_map, Option.isSome_map] at same
    rw [same]
    refine Book.position?_isSome_credit creditsBase (Book.position?_isSome_credit creditsQuote ?_)
    rw [received.has]
    rfl
  obtain ⟨position, has⟩ := Option.isSome_iff_exists.mp has
  exact ⟨bad, debtAsset, Book.takenOver_of_received consistent atEnd different found owes due
    unstarted received credits ⟨reranked.ledgers, reranked.holdings, reranked.sums⟩
    ⟨position, has, Book.within_of_requireLeverage has within⟩⟩

end Operations

section Commands

variable {V : Type} [Venue V] {pool pool' : Pool V} {caller badAccount : AccountId}
  {quoteAmount baseAmount : Nat}

/-- A takeover took the position over, and what the pool reads of the two accounts, before and after
it, is where they stand.
-/
def TakesOverFrom (badAccount : AccountId) (quoteAmount baseAmount : Nat) (pool' : Pool V)
    (terms : Terms) (middle : Pool V) : Prop :=
  ∃ bad debtAsset debt,
    middle.book.TakenOver terms.caller badAccount terms.price ⟨baseAmount, quoteAmount⟩
        bad debtAsset debt pool'.book
      ∧ ∀ side, middle.book.ReadsStanding badAccount side
          ∧ pool'.book.ReadsStanding terms.caller side

/-- In a reachable pool every takeover that is committed is whole and safe, unless it stopped. -/
theorem takeover_is_whole_and_safe (reachable : Reachable pool) {route : Nat} {outcome : Outcome}
    (committed
      : executeRouted caller (.receivePosition badAccount quoteAmount baseAmount) route pool
        = .ok outcome pool')
    : UnlessStopped pool caller route pool'
      (TakesOverFrom badAccount quoteAmount baseAmount pool') := by
  have atEnd := (reachable.sound_of_executeRouted committed).consistent
  have notWayOut : ∀ unwrap,
      Call.receivePosition badAccount quoteAmount baseAmount ≠ .emergencyWithdraw unwrap := by
    intro unwrap wayOut
    cases wayOut
  refine (unlessStopped_executeRouted notWayOut committed).imp ?_
  rintro terms middle _ ⟨acted, calls, allowed, updates, operated, rfl⟩
  rw [book_commit] at atEnd
  have opened : pool.book.openJournal.Consistent none := reachable.sound.consistent.openJournal
  have consistent := updates.consistent opened
  obtain ⟨bad, debtAsset, debt, taken⟩ := takenOver_takeOver consistent atEnd operated
  have updating : pool.book.openJournal.Changes terms.caller terms.caller middle.book :=
    updates.changes
  have atMiddle := updating.rises.indexed (by exact reachable.indexed)
  have atCommit : acted.commit.book.Indexed := by
    rw [book_commit]
    exact (deeds_operate operated).changes.rises.indexed atMiddle
  refine ⟨bad, debtAsset, debt, ?_, fun side =>
    ⟨Book.readsStanding atMiddle _ side, Book.readsStanding atCommit _ side⟩⟩
  rw [book_commit]
  exact taken

end Commands

/-- A short of 100 base against 1600 quote, at a price of 16. The receiver pays 40 base and 1000
quote, which leaves the debt in place.
-/
theorem takeover_is_whole_and_safe_crowded
    : let pool := sample.after crowdedRise
      let call := Call.receivePosition ⟨20⟩ 1000 40
      let taken := endState (executeRouted ⟨30⟩ call 0 pool)
      executeRouted ⟨30⟩ call 0 pool = .ok ⟨⟨40, 1000⟩, 1, false⟩ taken
        ∧ (∃ terms, TermsOf pool ⟨30⟩ 0 terms
          ∧ TakesOverFrom ⟨20⟩ 1000 40 taken terms (pool.withBook pool.book.openJournal))
        ∧ (pool.book.standing ⟨20⟩ .base = -100 ∧ pool.book.standing ⟨20⟩ .quote = 1600)
        ∧ taken.book.standing ⟨30⟩ .base = -60 ∧ taken.book.standing ⟨30⟩ .quote = 2600 := by
  intro pool call taken
  have committed : executeRouted ⟨30⟩ call 0 pool = .ok ⟨⟨40, 1000⟩, 1, false⟩ taken := by
    decide +kernel
  have still : pool.now.since pool.book.lastAccrual = 0 := by decide +kernel
  have regular : pool.book.mode.isEmergency = false := by decide +kernel
  have safe :=
    (takeover_is_whole_and_safe (reachable_sample.after crowdedRise) committed).of_still
      still regular
  exact ⟨committed, safe, by decide +kernel, by decide +kernel⟩

end Pool

end MarginLending
