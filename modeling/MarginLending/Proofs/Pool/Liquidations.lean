import MarginLending.Proofs.Pool.Operations

/-!
What a liquidation did, step by step. A margin call removes a position, sells or keeps its
collateral, and places what stays unpaid; a pass over both heaps is a chain of margin calls.
-/

namespace MarginLending

namespace Pool

section Liquidations

variable {V : Type} {pool pool' : Pool V} {terms : Terms} {account : AccountId} {asset : Asset}
  {shortfall kept : Nat}

/-- Charging the counterparties raises their charge, writes the kept collateral off their debt, and
spreads what is left of it over the lenders.
-/
theorem chargeCounterparties_ok
    (charged : chargeCounterparties asset shortfall kept pool = .ok () pool')
    : ∃ raised debt relieved book',
        let owed := (pool.book.ledger asset.other).discountedDebt
        let relief := min kept (debt - 1)
        Book.chargeBorrowers asset shortfall owed pool.book = .ok () raised
          ∧ (raised.ledger asset.other).totalRealDebt = .ok debt
          ∧ Book.relieveDebt asset.other relief owed raised = .ok () relieved
          ∧ Book.shareAmongLenders asset.other (kept - relief) relieved = .ok () book'
          ∧ pool' = (pool.withBook book').recording (.deleverage
              ⟨asset, shortfall, .counterparties, relief, (raised.ledger asset).chargeCoeff⟩) := by
  simp only [chargeCounterparties, chargeCounterpartiesBy, EStateM.bind_eq_ok, readBook_eq_ok,
    EStateM.lift_eq_ok, liftBook_eq_ok, record_eq_ok] at charged
  obtain ⟨_, _, ⟨rfl, rfl⟩, charged⟩ := charged
  obtain ⟨_, _, ⟨raised, raises, rfl⟩, charged⟩ := charged
  obtain ⟨_, _, ⟨rfl, rfl⟩, charged⟩ := charged
  obtain ⟨debt, _, ⟨owes, rfl⟩, charged⟩ := charged
  obtain ⟨_, _, ⟨relieved, relieves, rfl⟩, charged⟩ := charged
  obtain ⟨_, _, ⟨remains, rfl⟩, _, _, ⟨book', shares, rfl⟩, rfl⟩ := charged
  obtain ⟨rfl, _⟩ := Unchecked.carryOut_difference_eq_ok.mp remains
  exact ⟨raised, debt, relieved, book', raises, owes, relieves, shares, rfl⟩

/-- Charging the same side spreads the kept collateral over its lenders, and raises the debt of
those who still owe the asset, or freezes the pool for want of them.
-/
theorem chargeSameSide_ok
    (charged : chargeSameSide terms asset shortfall kept pool = .ok () pool')
    : ∃ shared, Book.shareAmongLenders asset.other kept pool.book = .ok () shared
        ∧ ((shared.ledger asset).discountedDebt = 0
            ∧ freeze terms asset (pool.withBook shared) = .ok () pool'
          ∨ (shared.ledger asset).discountedDebt ≠ 0
            ∧ ∃ book', Book.raiseDebt asset shortfall (shared.ledger asset).discountedDebt shared
                = .ok () book'
              ∧ pool' = (pool.withBook book').recording (.deleverage
                  ⟨asset, shortfall, .sameSide, 0, (shared.ledger asset).chargeCoeff⟩)) := by
  simp only [chargeSameSide, EStateM.bind_eq_ok, readBook_eq_ok, liftBook_eq_ok] at charged
  obtain ⟨_, _, ⟨shared, shares, rfl⟩, charged⟩ := charged
  obtain ⟨_, _, ⟨rfl, rfl⟩, charged⟩ := charged
  refine ⟨shared, shares, ?_⟩
  split at charged
  · next nobody => exact .inl ⟨nobody, charged⟩
  · next somebody =>
      simp only [EStateM.bind_eq_ok, liftBook_eq_ok, record_eq_ok] at charged
      obtain ⟨_, _, ⟨book', raises, rfl⟩, rfl⟩ := charged
      exact .inr ⟨somebody, book', raises, rfl⟩

/-- A shortfall goes to the counterparties if their collateral exceeds it, else to the same side. -/
theorem placeShortfall_ok
    (placed : placeShortfall terms asset shortfall kept pool = .ok () pool')
    : ∃ capacity, pool.book.borrowersCollateral asset = .ok capacity
        ∧ (0 < (pool.book.ledger asset.other).discountedDebt ∧ shortfall < capacity
            ∧ chargeCounterparties asset shortfall kept pool = .ok () pool'
          ∨ chargeSameSide terms asset shortfall kept pool = .ok () pool') := by
  simp only [placeShortfall, placeShortfallBy, EStateM.bind_eq_ok, readBook_eq_ok,
    EStateM.lift_eq_ok] at placed
  obtain ⟨_, _, ⟨rfl, rfl⟩, placed⟩ := placed
  obtain ⟨capacity, _, ⟨known, rfl⟩, placed⟩ := placed
  refine ⟨capacity, known, ?_⟩
  split at placed
  · next bearable => exact .inl ⟨bearable.1, bearable.2, placed⟩
  · exact .inr placed

-----
-- A margin call, from the removal to the shortfall
-----

section Calls

variable [Venue V]

/-- The value of an amount at the oracle price, in the other asset. -/
def oracleValue (asset : Asset) (price : Q96) (amount : Nat) : Except MathError Nat :=
  match asset with
  | .quote => price.unscale amount
  | .base => price.scale amount

/-- Seized collateral is nothing, or is kept while at most the venue changes, or an order for no
less than the liquidation floor is settled.
-/
theorem sellSeized_placed {seized : Nat} {proceeds : Option Nat}
    (sold : sellSeized terms asset seized pool = .ok proceeds pool')
    : seized = 0 ∧ proceeds = some 0 ∧ pool' = pool
      ∨ proceeds = none ∧ (∃ venue, pool' = pool.withVenue venue)
      ∨ ∃ worth floor fill venue settled,
          let order := SwapOrder.sell asset seized floor terms.route
          oracleValue asset terms.price seized = .ok worth
            ∧ pool.book.parameters.liquidationFloor worth = .ok floor
            ∧ (Venue.swap pool.venue order).1 = .ok fill ∧ order.isHonouredBy fill
            ∧ Book.settle order fill pool.book = .ok () settled
            ∧ proceeds = some fill.amountOut
            ∧ pool' = (pool.withVenue venue).withBook settled := by
  simp only [sellSeized] at sold
  split at sold
  · next nothing =>
      obtain ⟨rfl, rfl⟩ := EStateM.pure_eq_ok.mp sold
      exact .inl ⟨nothing, rfl, rfl⟩
  · simp only [EStateM.bind_eq_ok, readBook_eq_ok] at sold
    obtain ⟨_, _, ⟨rfl, rfl⟩, sold⟩ := sold
    split at sold
    · obtain ⟨rfl, rfl⟩ := EStateM.pure_eq_ok.mp sold
      exact .inr (.inl ⟨rfl, pool.venue, rfl⟩)
    · simp only [EStateM.bind_eq_ok, EStateM.liftMath_eq_ok] at sold
      obtain ⟨worth, _, ⟨values, rfl⟩, sold⟩ := sold
      obtain ⟨floor, _, ⟨floors, rfl⟩, sold⟩ := sold
      obtain ⟨answer, _, attempted, sold⟩ := sold
      obtain ⟨⟨venue, rfl⟩, _⟩ := attempt_swap_ok attempted
      cases answer with
      | error error =>
          obtain ⟨rfl, rfl⟩ := EStateM.pure_eq_ok.mp sold
          exact .inr (.inl ⟨rfl, venue, rfl⟩)
      | ok fill =>
          obtain ⟨filled, honoured⟩ := attempt_swap_filled attempted
          simp only [EStateM.bind_eq_ok, liftBook_eq_ok, EStateM.pure_eq_ok] at sold
          obtain ⟨_, _, ⟨settled, settles, rfl⟩, rfl, rfl⟩ := sold
          exact .inr
            (.inr ⟨worth, floor, fill, venue, settled, values, floors, filled, honoured, settles,
            rfl, rfl⟩)

/-- Seized collateral is nothing, or is kept while at most the venue changes, or is sold and the
order settled.
-/
theorem sellSeized_ok {seized : Nat} {proceeds : Option Nat}
    (sold : sellSeized terms asset seized pool = .ok proceeds pool')
    : seized = 0 ∧ proceeds = some 0 ∧ pool' = pool
      ∨ proceeds = none ∧ (∃ venue, pool' = pool.withVenue venue)
      ∨ ∃ floor fill venue settled,
          let order := SwapOrder.sell asset seized floor terms.route
          order.isHonouredBy fill ∧ Book.settle order fill pool.book = .ok () settled
            ∧ proceeds = some fill.amountOut
            ∧ pool' = (pool.withVenue venue).withBook settled := by
  rcases sellSeized_placed sold with nothing | kept
    | ⟨_, floor, fill, venue, settled, _, _, _, honoured, settles, rfl, rfl⟩
  · exact .inl nothing
  · exact .inr (.inl kept)
  · exact .inr (.inr ⟨floor, fill, venue, settled, honoured, settles, rfl, rfl⟩)

/-- A margin call removes the position, sells its collateral, shares the surplus and places the
shortfall.
-/
theorem marginCall_ok (called : marginCall terms account pool = .ok () pool')
    : ∃ position debtAsset seized debt removed proceeds sold shared payload,
        let recovery := Recovery.of proceeds debt seized
        let reported := (sold.withBook shared).recording (.marginCall payload)
        pool.book.position? account = some position
          ∧ position.kind.debtAsset? = some debtAsset
          ∧ pool.book.collateralIn position debtAsset.other = .ok seized
          ∧ pool.book.debtIn position debtAsset = .ok debt
          ∧ Book.removePosition account pool.book = .ok () removed
          ∧ sellSeized terms debtAsset.other seized (pool.withBook removed) = .ok proceeds sold
          ∧ (0 < recovery.surplus
                ∧ Book.shareAmongLenders debtAsset recovery.surplus sold.book = .ok () shared
              ∨ recovery.surplus = 0 ∧ shared = sold.book)
          ∧ (0 < recovery.shortfall
                ∧ placeShortfall terms debtAsset recovery.shortfall recovery.kept reported
                  = .ok () pool'
              ∨ recovery.shortfall = 0 ∧ pool' = reported) := by
  simp only [marginCall, marginCallBy, EStateM.bind_eq_ok, readBook_eq_ok] at called
  obtain ⟨_, _, ⟨rfl, rfl⟩, called⟩ := called
  cases found : pool.book.position? account with
  | none =>
      simp only [found] at called
      exact (EStateM.throw_eq_ok.mp called).elim
  | some position =>
      simp only [found] at called
      cases owes : position.kind.debtAsset? with
      | none =>
          simp only [owes] at called
          exact (EStateM.throw_eq_ok.mp called).elim
      | some debtAsset =>
          simp only [owes, EStateM.bind_eq_ok, EStateM.lift_eq_ok, liftBook_eq_ok] at called
          obtain ⟨seized, _, ⟨holds, rfl⟩, called⟩ := called
          obtain ⟨debt, _, ⟨owed, rfl⟩, called⟩ := called
          obtain ⟨_, _, ⟨removed, removes, rfl⟩, called⟩ := called
          obtain ⟨proceeds, sold, sells, called⟩ := called
          obtain ⟨_, _, ⟨compared, rfl⟩, called⟩ := called
          obtain rfl := Except.ok.inj ((Recovery.ofBy_carryOut ..).symm.trans compared)
          have ending : ∀ reported : Pool V,
              (if 0 < (Recovery.of proceeds debt seized).shortfall then
                placeShortfall terms debtAsset (Recovery.of proceeds debt seized).shortfall
                  (Recovery.of proceeds debt seized).kept
                else pure () : PoolM V Unit) reported = .ok () pool' →
              0 < (Recovery.of proceeds debt seized).shortfall
                  ∧ placeShortfall terms debtAsset (Recovery.of proceeds debt seized).shortfall
                      (Recovery.of proceeds debt seized).kept reported = .ok () pool'
                ∨ (Recovery.of proceeds debt seized).shortfall = 0 ∧ pool' = reported := by
            intro reported ended
            split at ended
            · next unpaid => exact .inl ⟨unpaid, ended⟩
            · next paid => exact .inr ⟨by omega, (EStateM.pure_eq_ok.mp ended).2.symm⟩
          split at called
          · next gains =>
              simp only [EStateM.bind_eq_ok, liftBook_eq_ok, record_eq_ok] at called
              obtain ⟨_, _, ⟨shared, shares, rfl⟩, called⟩ := called
              obtain ⟨_, _, rfl, called⟩ := called
              exact ⟨position, debtAsset, seized, debt, removed, proceeds, sold, shared, _, rfl,
                owes, holds, owed, removes, sells, .inl ⟨gains, shares⟩, ending _ called⟩
          · next gainsNothing =>
              simp only [EStateM.bind_eq_ok, record_eq_ok] at called
              obtain ⟨_, _, rfl, called⟩ := called
              exact ⟨position, debtAsset, seized, debt, removed, proceeds, sold, sold.book, _, rfl,
                owes, holds, owed, removes, sells, .inr ⟨by omega, rfl⟩, ending _ called⟩

-----
-- A pass is a chain of margin calls
-----

/-- A chain of margin calls in a pool that is not frozen, with the leverage stored now and then. The
pools before and after each call are kept, the first call first.
-/
inductive Liquidation (terms : Terms) : Pool V → List (Pool V × Pool V) → Pool V → Prop
  | done (pool : Pool V) : Liquidation terms pool [] pool
  | call {pool middle last : Pool V} {account : AccountId} {calls : List (Pool V × Pool V)}
      (regular : pool.book.mode.isEmergency = false)
      (called : marginCall terms account pool = .ok () middle)
      (rest : Liquidation terms middle calls last)
    : Liquidation terms pool ((pool, middle) :: calls) last
  | refresh {pool last : Pool V} {book : Book} {calls : List (Pool V × Pool V)}
      (refreshed : Book.refreshLeverage terms.price pool.book = .ok () book)
      (rest : Liquidation terms (pool.withBook book) calls last)
    : Liquidation terms pool calls last

/-- Two chains in a row are one chain, by induction on the first. -/
theorem Liquidation.trans {first middle last : Pool V} {before after : List (Pool V × Pool V)}
    (left : Liquidation terms first before middle) (right : Liquidation terms middle after last)
    : Liquidation terms first (before ++ after) last := by
  induction left with
  | done => exact right
  | call regular called _ ih => exact .call regular called (ih right)
  | refresh refreshed _ ih => exact .refresh refreshed (ih right)

/-- If margin calls and storing the leverage keep a property, every call of a chain that starts from
it does what any call from it does, by induction on the chain.
-/
theorem Liquidation.forall_calls {P : Pool V → Prop} {R : Pool V → Pool V → Prop}
    {calls : List (Pool V × Pool V)} (chain : Liquidation terms pool calls pool') (starts : P pool)
    (calling : ∀ {account before after}, P before →
      marginCall terms account before = .ok () after → P after ∧ R before after)
    (refreshing : ∀ {before book}, P before →
      Book.refreshLeverage terms.price before.book = .ok () book → P (before.withBook book))
    : ∀ call ∈ calls, R call.1 call.2 := by
  induction chain with
  | done => exact List.forall_mem_nil _
  | call _ called _ ih =>
      obtain ⟨next, here⟩ := calling starts called
      exact List.forall_mem_cons.mpr ⟨here, ih next⟩
  | refresh refreshed _ ih => exact ih (refreshing starts refreshed)

theorem isEmergency_of_not {mode : Mode} (regular : ¬mode.isEmergency) : mode.isEmergency = false :=
  Bool.eq_false_iff.mpr regular

/-- Sweeping a heap is a chain of margin calls, by induction on the fuel. -/
theorem sweepHeap_ok {fuel : Nat} {liquidated swept : List AccountId}
    (sweeps : sweepHeap terms asset fuel liquidated pool = .ok swept pool')
    : ∃ calls, Liquidation terms pool calls pool' := by
  induction fuel generalizing pool liquidated with
  | zero =>
      obtain ⟨_, rfl⟩ := EStateM.pure_eq_ok.mp sweeps
      exact ⟨[], .done pool⟩
  | succ fuel ih =>
      simp only [sweepHeap, EStateM.bind_eq_ok, readBook_eq_ok] at sweeps
      obtain ⟨_, _, ⟨rfl, rfl⟩, sweeps⟩ := sweeps
      split at sweeps
      · obtain ⟨_, rfl⟩ := EStateM.pure_eq_ok.mp sweeps
        exact ⟨[], .done pool⟩
      · next regular =>
          cases root : (pool.book.heap asset).peek? with
          | none =>
              simp only [root] at sweeps
              obtain ⟨_, rfl⟩ := EStateM.pure_eq_ok.mp sweeps
              exact ⟨[], .done pool⟩
          | some node =>
              simp only [root, EStateM.bind_eq_ok, EStateM.lift_eq_ok] at sweeps
              obtain ⟨due, _, ⟨_, rfl⟩, sweeps⟩ := sweeps
              split at sweeps
              · simp only [EStateM.bind_eq_ok] at sweeps
                obtain ⟨_, middle, called, sweeps⟩ := sweeps
                obtain ⟨calls, chain⟩ := ih sweeps
                exact ⟨_, .call (isEmergency_of_not regular) called chain⟩
              · obtain ⟨_, rfl⟩ := EStateM.pure_eq_ok.mp sweeps
                exact ⟨[], .done pool⟩

theorem sweepSide_ok {liquidated swept : List AccountId}
    (sweeps : sweepSide terms asset liquidated pool = .ok swept pool')
    : ∃ calls, Liquidation terms pool calls pool' := by
  simp only [sweepSide, EStateM.bind_eq_ok, readBook_eq_ok] at sweeps
  obtain ⟨_, _, ⟨rfl, rfl⟩, sweeps⟩ := sweeps
  exact sweepHeap_ok sweeps

/-- Sweeping both heaps in turns is a chain of margin calls, by induction on the fuel. -/
theorem sweepBoth_ok {fuel : Nat} {liquidated swept : List AccountId}
    (sweeps : sweepBoth terms fuel liquidated pool = .ok swept pool')
    : ∃ calls, Liquidation terms pool calls pool' := by
  induction fuel generalizing pool liquidated with
  | zero =>
      obtain ⟨_, rfl⟩ := EStateM.pure_eq_ok.mp sweeps
      exact ⟨[], .done pool⟩
  | succ fuel ih =>
      simp only [sweepBoth, EStateM.bind_eq_ok, readBook_eq_ok] at sweeps
      obtain ⟨_, _, base, sweeps⟩ := sweeps
      obtain ⟨_, _, quote, sweeps⟩ := sweeps
      obtain ⟨_, _, ⟨rfl, rfl⟩, sweeps⟩ := sweeps
      obtain ⟨baseCalls, baseChain⟩ := sweepSide_ok base
      obtain ⟨quoteCalls, quoteChain⟩ := sweepSide_ok quote
      split at sweeps
      · obtain ⟨_, rfl⟩ := EStateM.pure_eq_ok.mp sweeps
        exact ⟨_, baseChain.trans quoteChain⟩
      · obtain ⟨calls, chain⟩ := ih sweeps
        exact ⟨_, (baseChain.trans quoteChain).trans chain⟩

theorem liquidateDue_ok {liquidated : List AccountId}
    (liquidates : liquidateDue terms pool = .ok liquidated pool')
    : ∃ calls, Liquidation terms pool calls pool' := by
  simp only [liquidateDue, EStateM.bind_eq_ok, readBook_eq_ok] at liquidates
  obtain ⟨_, _, ⟨rfl, rfl⟩, liquidates⟩ := liquidates
  obtain ⟨_, _, sweeps, liquidates⟩ := liquidates
  obtain ⟨_, _, ⟨rfl, rfl⟩, liquidates⟩ := liquidates
  obtain ⟨calls, chain⟩ := sweepBoth_ok sweeps
  split at liquidates
  · obtain ⟨_, rfl⟩ := EStateM.pure_eq_ok.mp liquidates
    exact ⟨calls, chain⟩
  · simp only [EStateM.bind_eq_ok, liftBook_eq_ok, EStateM.pure_eq_ok] at liquidates
    obtain ⟨_, _, ⟨book, refreshed, rfl⟩, _, rfl⟩ := liquidates
    exact ⟨_, chain.trans (.refresh refreshed (.done _))⟩

/-- Bringing a pool up to date accrues. Where that moves the clock, a chain of margin calls follows,
and else nothing does.
-/
theorem bringUpToDate_accrues {marginCalled : Bool}
    (updated : bringUpToDate terms pool = .ok marginCalled pool')
    : marginCalled = false ∧ pool' = pool
        ∧ Book.accrue terms.now terms.price pool.book = .ok false pool.book
      ∨ ∃ book calls, Book.accrue terms.now terms.price pool.book = .ok true book
          ∧ Liquidation terms ((pool.withBook book).recording
              (.reinit (terms.now.since pool.book.lastAccrual) book.leverage)) calls pool' := by
  simp only [bringUpToDate, EStateM.bind_eq_ok, readBook_eq_ok, liftBook_eq_ok] at updated
  obtain ⟨_, _, ⟨rfl, rfl⟩, updated⟩ := updated
  obtain ⟨moved, _, ⟨accrued, accrues, rfl⟩, updated⟩ := updated
  cases moved with
  | false =>
      obtain ⟨rfl, rfl⟩ := EStateM.pure_eq_ok.mp updated
      rcases Book.accrue_ok accrues with ⟨_, rfl⟩ | ⟨impossible, _⟩
      · exact .inl ⟨rfl, rfl, accrues⟩
      · cases impossible
  | true =>
      refine .inr ⟨accrued, ?_⟩
      simp only [Bool.not_true, Bool.false_eq_true, if_false, EStateM.bind_eq_ok, readBook_eq_ok,
        record_eq_ok] at updated
      obtain ⟨_, _, ⟨rfl, rfl⟩, updated⟩ := updated
      obtain ⟨_, _, rfl, updated⟩ := updated
      obtain ⟨liquidated, _, liquidates, updated⟩ := updated
      obtain ⟨calls, chain⟩ := liquidateDue_ok liquidates
      split at updated
      · obtain ⟨_, rfl⟩ := EStateM.pure_eq_ok.mp updated
        exact ⟨calls, accrues, chain⟩
      · simp only [EStateM.bind_eq_ok, readBook_eq_ok] at updated
        obtain ⟨_, _, ⟨rfl, rfl⟩, updated⟩ := updated
        split at updated
        · obtain ⟨_, rfl⟩ := EStateM.pure_eq_ok.mp updated
          exact ⟨calls, accrues, chain⟩
        · next regular =>
            simp only [EStateM.bind_eq_ok, EStateM.lift_eq_ok] at updated
            obtain ⟨due, _, ⟨_, rfl⟩, updated⟩ := updated
            split at updated
            · simp only [EStateM.bind_eq_ok, liftBook_eq_ok, EStateM.pure_eq_ok] at updated
              obtain ⟨_, _, called, updated⟩ := updated
              obtain ⟨_, _, ⟨book, refreshed, rfl⟩, _, rfl⟩ := updated
              exact ⟨_, accrues, chain.trans
                (.call (isEmergency_of_not regular) called (.refresh refreshed (.done _)))⟩
            · obtain ⟨_, rfl⟩ := EStateM.pure_eq_ok.mp updated
              exact ⟨calls, accrues, chain⟩

/-- A pool is brought up to date by nothing if no time passed, else by an accrual and a chain of
margin calls.
-/
inductive Updates (terms : Terms) (pool : Pool V) : List (Pool V × Pool V) → Pool V → Prop
  | current : Updates terms pool [] pool
  | accrued {book : Book} {last : Pool V} {calls : List (Pool V × Pool V)}
      (accrues : Book.accrue terms.now terms.price pool.book = .ok true book)
      (chain : Liquidation terms ((pool.withBook book).recording
        (.reinit (terms.now.since pool.book.lastAccrual) book.leverage)) calls last)
    : Updates terms pool calls last

theorem bringUpToDate_ok {marginCalled : Bool}
    (updated : bringUpToDate terms pool = .ok marginCalled pool')
    : ∃ calls, Updates terms pool calls pool' := by
  rcases bringUpToDate_accrues updated with ⟨_, rfl, _⟩ | ⟨book, calls, accrues, chain⟩
  · exact ⟨[], .current⟩
  · exact ⟨calls, .accrued accrues chain⟩

end Calls

end Liquidations

end Pool

end MarginLending
