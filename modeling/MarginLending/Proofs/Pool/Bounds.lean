import MarginLending.Proofs.Book.Excess
import MarginLending.Proofs.Pool.Calls
import MarginLending.Proofs.Pool.Guarantees
import MarginLending.Proofs.Pool.Runs

/-!
How far a call that went through keeps leverage within the bound. The roots and both sides are
within it where a pass ends; what is ranked below a root, and what a side comes to when lenders
leave, are within it but for what the value of debt loses when it is rounded down.
-/

namespace MarginLending

/-- Closing the journals moves no root. -/
theorem Book.peek?_commit (book : Book) (asset : Asset)
    : (book.commit.heap asset).peek? = (book.heap asset).peek? := by
  rw [heap_commit]
  rfl

namespace Pool

section Bounds

variable {V : Type} [Venue V] {pool pool' : Pool V} {caller : AccountId} {call : Call} {route : Nat}
  {outcome : Outcome} {price : Q96}

/-- Once time has passed, a reinit that does not end with a margin call of the caller leaves both
sides and both roots within the bound.
-/
theorem within_of_reinit (reachable : Reachable pool)
    (later : pool.now.since pool.book.lastAccrual ≠ 0) (quoted : pool.price = .ok price)
    (went : executeRouted caller .reinit route pool = .ok outcome pool')
    (regular : pool'.book.mode.isEmergency = false) (spared : outcome.marginCalled = false)
    (asset : Asset)
    : (∃ leverage, pool'.book.systemLeverage asset price = .ok leverage
        ∧ leverage ≤ pool'.book.parameters.leverageBound)
      ∧ ∀ root, (pool'.book.heap asset).peek? = some root →
          ∃ position, pool'.book.position? root.account = some position
            ∧ pool'.book.isLiquidatable position price = .ok false := by
  obtain ⟨acted, serves, found, rfl⟩ := serves_executeRouted went regular
  obtain ⟨terms, priced, now, updated⟩ := serves.reinit
  obtain rfl := Except.ok.inj (quoted.symm.trans priced)
  rw [spared] at updated
  have passes : terms.now.since (pool.withBook pool.book.openJournal).book.lastAccrual ≠ 0 := by
    rw [now]
    exact later
  obtain ⟨book, liquidated, passed, accrues, liquidates, ends⟩ :=
    bringUpToDate_later (by exact found) passes updated
  obtain rfl := ends rfl
  have consistent := reachable.sound.consistent.openJournal.accrue accrues
  have valid := Book.Writes.valid ((Book.steps_accrue ..).of_ok accrues) reachable.sound.valid
  rw [book_commit] at regular ⊢
  rw [Book.peek?_commit]
  exact within_of_liquidateDue consistent valid liquidates regular asset

-----
-- What is ranked below a root
-----

/-- Once time has passed, a reinit that does not end with a margin call of the caller leaves both
roots within the bound, and whatever ranks below a root within it up to the rounding of the root. In
any case a position is within the bound that would be with as much debt as its root's rank allows
behind its collateral, where that collateral has a value in range. The largest rank of all says
nothing, and no position is over a bound that no leverage is above.
-/
theorem reinit_bounds_ranked_positions (reachable : Reachable pool)
    (later : pool.now.since pool.book.lastAccrual ≠ 0) (quoted : pool.price = .ok price)
    (went : executeRouted caller .reinit route pool = .ok outcome pool')
    (regular : pool'.book.mode.isEmergency = false)
    : (outcome.marginCalled = false →
        ∀ asset root, (pool'.book.heap asset).peek? = some root →
          ∃ top, pool'.book.position? root.account = some top
            ∧ pool'.book.isLiquidatable top price = .ok false
            ∧ (root.key < Amount.max → pool'.book.parameters.leverageBound < .maximum →
                ∀ account position, pool'.book.position? account = some position →
                  position.kind = .ofDebt asset →
                  pool'.book.WithinRounding top position asset price))
      ∧ ∀ asset root, (pool'.book.heap asset).peek? = some root → root.key < Amount.max →
          ∀ account position, pool'.book.position? account = some position →
            position.kind = .ofDebt asset →
            pool'.book.isLiquidatable (position.heaviest asset root.key) price = .ok false →
            ∀ held value, pool'.book.collateralIn position asset.other = .ok held →
              Book.valued asset.other price held = .ok value →
              pool'.book.isLiquidatable position price = .ok false := by
  have sound := reachable.sound_of_executeRouted went
  have seated := sound.consistent.seated
  constructor
  · intro spared asset root atRoot
    obtain ⟨top, foundTop, within⟩ :=
      (within_of_reinit reachable later quoted went regular spared asset).2 root atRoot
    refine ⟨top, foundTop, within, fun ranks bounded account position found kind => ?_⟩
    obtain ⟨topOwes, rank⟩ := seated.root_ranked atRoot foundTop
    have owes := PositionKind.debtAsset?_eq_some_iff.mpr kind
    rw [← rank] at ranks
    have below := seated.sortKey_le_peek atRoot found owes
    rw [← rank] at below
    exact Book.withinRounding_of_sortKey_le sound.valid bounded owes topOwes below ranks within
  · intro asset root atRoot ranks account position found kind within held value holds worth
    have owes := PositionKind.debtAsset?_eq_some_iff.mpr kind
    obtain ⟨_, less⟩ := (Position.sortKey_le_iff owes ranks).mp
      (seated.sortKey_le_peek atRoot found owes)
    refine Book.isLiquidatable_eq_false_of_le owes (Position.debtAsset?_heaviest owes less) ?_ less
      within holds worth
    rw [Position.holding_heaviest_other]

/-- The sample trades, after which an outsider asks for a reinit. -/
def reinited : Pool SimulatedVenue :=
  endState (executeRouted ⟨99⟩ .reinit 0 (sample.after sampleTrades))

/-- The first trader owes two thirds of its collateral, and would be within the bound with eight
ninths of it, which is what the second trader owes.
-/
theorem reinit_bounds_ranked_positions_trades
    : (reinited.book.heap .base).peek? = some ⟨250199979298360, ⟨21⟩⟩
      ∧ reinited.book.position? ⟨20⟩ = some ⟨⟨.debt 2000, .collateral 3000⟩, 2⟩
      ∧ reinited.book.WithinRounding ⟨⟨.debt 4000, .collateral 4500⟩, 1⟩
          ⟨⟨.debt 2000, .collateral 3000⟩, 2⟩ .base .one
      ∧ reinited.book.isLiquidatable ⟨⟨.debt 2000, .collateral 3000⟩, 2⟩ .one = .ok false := by
  have later : (sample.after sampleTrades).now.since (sample.after sampleTrades).book.lastAccrual
      ≠ 0 := by decide +kernel
  have went : executeRouted ⟨99⟩ .reinit 0 (sample.after sampleTrades)
      = .ok .nothing reinited := by decide +kernel
  have regular : reinited.book.mode.isEmergency = false := by decide +kernel
  have atRoot : (reinited.book.heap .base).peek? = some ⟨250199979298360, ⟨21⟩⟩ := by decide +kernel
  have found : reinited.book.position? ⟨20⟩ = some ⟨⟨.debt 2000, .collateral 3000⟩, 2⟩ := by
    decide +kernel
  have foundRoot : reinited.book.position? ⟨21⟩ = some ⟨⟨.debt 4000, .collateral 4500⟩, 1⟩ := by
    decide +kernel
  obtain ⟨roots, ranked⟩ :=
    reinit_bounds_ranked_positions (reachable_sample.after sampleTrades) later rfl went regular
  obtain ⟨top, foundTop, _, below⟩ := roots rfl .base _ atRoot
  obtain rfl := Option.some.inj (foundRoot.symm.trans foundTop)
  refine ⟨atRoot, found, below (by decide) (by decide +kernel) ⟨20⟩ _ found rfl, ?_⟩
  refine ranked .base _ atRoot ?_ ⟨20⟩ _ found ?_ ?_ 3000 3000 ?_ ?_
  all_goals decide +kernel

/-- A trader who owes one unit behind one unit, and one who owes 10000 behind 10362. The price of
base then falls short of one, where one unit is worth nothing, and rises by a hundredth.
-/
def dustTrades : List (Command SimulatedVenue) :=
  [.changeVenue { sample.venue with price := ⟨98 * Q96.unit / 100⟩ },
    .executeCall ⟨10⟩ (.depositBase 100000 0 .zero none),
    .executeCall ⟨10⟩ (.depositQuote 100000 0 .zero none),
    .executeCall ⟨20⟩ (.depositQuote 1 1 .zero none),
    .executeCall ⟨21⟩ (.depositQuote 563 10000 .zero none),
    .changeVenue { sample.venue with price := ⟨99 * Q96.unit / 100⟩ },
    .setTime ⟨1⟩]

/-- The root owes what is worth nothing once it is rounded down. It ranks above a position over the
bound, which a reinit leaves where it is.
-/
theorem reinit_hides_position_over_bound
    : ∃ (pool pool' : Pool SimulatedVenue) (price : Q96) (position : Position),
        Reachable pool ∧ pool.now.since pool.book.lastAccrual ≠ 0 ∧ pool.price = .ok price
          ∧ executeRouted ⟨99⟩ .reinit 0 pool = .ok .nothing pool'
          ∧ pool'.book.mode.isEmergency = false
          ∧ ⟨21⟩ ∈ (pool'.book.heap .base).accounts
          ∧ pool'.book.position? ⟨21⟩ = some position
          ∧ pool'.book.isLiquidatable position price = .ok true := by
  refine ⟨sample.after dustTrades,
    endState (executeRouted ⟨99⟩ .reinit 0 (sample.after dustTrades)), ⟨99 * Q96.unit / 100⟩,
    ⟨⟨.debt 10000, .collateral 10362⟩, 2⟩, reachable_sample.after dustTrades, ?_⟩
  decide +kernel

-----
-- What sides come to after a call
-----

/-- Once time has passed, a reinit that does not end with a margin call of the caller leaves both
sides within the bound. Any call that leaves all positions of a side within it leaves the side
within it, whatever it did to the rest of the pool: exactly, if no debt of theirs is rounded down;
and otherwise up to rounding, under a bound that some leverage is above.
-/
theorem call_keeps_sides_within_bound (reachable : Reachable pool)
    (later : pool.now.since pool.book.lastAccrual ≠ 0) (quoted : pool.price = .ok price)
    (went : executeRouted caller call route pool = .ok outcome pool')
    (regular : pool'.book.mode.isEmergency = false)
    : (call = .reinit → outcome.marginCalled = false →
        ∀ asset, ∃ leverage, pool'.book.systemLeverage asset price = .ok leverage
          ∧ leverage ≤ pool'.book.parameters.leverageBound)
      ∧ (∀ asset,
          (∀ account position, pool'.book.position? account = some position →
            position.kind = .ofDebt asset → pool'.book.WellWithin position asset price) →
          ∀ leverage, pool'.book.systemLeverage asset price = .ok leverage →
            leverage ≤ pool'.book.parameters.leverageBound)
      ∧ ∀ asset, pool'.book.parameters.leverageBound < .maximum →
          (∀ account position, pool'.book.position? account = some position →
            position.kind = .ofDebt asset → pool'.book.isLiquidatable position price = .ok false) →
          ∀ cushion, pool'.book.sideRounding asset price ≤ cushion * Q96.unit →
            ∀ leverage, pool'.book.cushionedLeverage asset price cushion = .ok leverage →
              leverage ≤ pool'.book.parameters.leverageBound := by
  have sound := reachable.sound_of_executeRouted went
  refine ⟨?_, ?_, ?_⟩
  · rintro rfl spared asset
    exact (within_of_reinit reachable later quoted went regular spared asset).1
  · intro asset each leverage known
    refine sound.consistent.systemLeverage_le sound.valid (fun account position found owes => ?_)
      known
    exact each account position found (PositionKind.debtAsset?_eq_some_iff.mp owes)
  · intro asset bounded each cushion covers leverage known
    refine sound.consistent.cushionedLeverage_le sound.valid bounded
      (fun account position found owes => ?_) covers known
    exact each account position found (PositionKind.debtAsset?_eq_some_iff.mp owes)

/-- The sample trades, after which the lender takes all its quote out. -/
def unlent : Pool SimulatedVenue :=
  endState (executeRouted ⟨10⟩ (.withdrawQuote 10000 false) 0 (sample.after sampleTrades))

/-- Without the lender's quote the traders' own collateral keeps their side within the bound, and so
it would with 11 more units of it, which are more than what rounding may have taken off.
-/
theorem call_keeps_sides_within_bound_unlent
    : (∃ leverage, unlent.book.systemLeverage .base .one = .ok leverage
        ∧ leverage ≤ unlent.book.parameters.leverageBound)
      ∧ ∃ leverage, unlent.book.cushionedLeverage .base .one 11 = .ok leverage
        ∧ leverage ≤ unlent.book.parameters.leverageBound := by
  have later : (sample.after sampleTrades).now.since (sample.after sampleTrades).book.lastAccrual
      ≠ 0 := by decide +kernel
  have went : executeRouted ⟨10⟩ (.withdrawQuote 10000 false) 0 (sample.after sampleTrades)
      = .ok ⟨⟨0, 10000⟩, 0, false⟩ unlent := by decide +kernel
  have regular : unlent.book.mode.isEmergency = false := by decide +kernel
  have entries : unlent.book.positions.entries
      = [(⟨10⟩, ⟨⟨.collateral 10000, .collateral 0⟩, 0⟩),
        (⟨20⟩, ⟨⟨.debt 2000, .collateral 3000⟩, 2⟩),
        (⟨21⟩, ⟨⟨.debt 4000, .collateral 4500⟩, 1⟩)] := by decide +kernel
  have each : ∀ account position, unlent.book.position? account = some position →
      position.kind = .ofDebt .base →
      unlent.book.WellWithin position .base .one
        ∧ unlent.book.isLiquidatable position .one = .ok false := by
    intro account position found owes
    have listed := AccountTable.get?_eq_some_iff.mp found
    rw [entries] at listed
    simp only [List.mem_cons, Prod.mk.injEq, List.not_mem_nil, or_false] at listed
    rcases listed with ⟨-, rfl⟩ | ⟨-, rfl⟩ | ⟨-, rfl⟩
    · cases owes
    · exact ⟨⟨3000, 3000, by decide +kernel⟩, by decide +kernel⟩
    · exact ⟨⟨4500, 4500, by decide +kernel⟩, by decide +kernel⟩
  obtain ⟨_, exactly, nearly⟩ := call_keeps_sides_within_bound
    (reachable_sample.after sampleTrades) later rfl went regular
  have known : unlent.book.systemLeverage .base .one = .ok ⟨7500 * Q96.unit / 1499⟩ := by
    decide +kernel
  have cushioned : unlent.book.cushionedLeverage .base .one 11
      = .ok ⟨7511 * Q96.unit / 1510⟩ := by decide +kernel
  refine ⟨⟨_, known, ?_⟩, _, cushioned, ?_⟩
  · exact exactly .base (fun account position found owes => (each account position found owes).1)
      _ known
  · exact nearly .base (by decide +kernel)
      (fun account position found owes => (each account position found owes).2) 11
      (by decide +kernel) _ cushioned

/-- Two traders who owe 2 behind 20 each, at a price of 9.99, where the debt of each is worth 19 and
that of both 39.
-/
def twinTrades : List (Command SimulatedVenue) :=
  [.changeVenue { sample.venue with price := ⟨999 * Q96.unit / 100⟩ },
    .executeCall ⟨10⟩ (.depositBase 1000 0 .zero none),
    .executeCall ⟨10⟩ (.depositQuote 1000 0 .zero none),
    .executeCall ⟨20⟩ (.depositQuote 1 2 .zero none),
    .executeCall ⟨21⟩ (.depositQuote 1 2 .zero none),
    .setTime ⟨1⟩]

/-- Both traders are at the bound. Once the lender is gone their side has twice as much leverage. -/
theorem withdrawal_leaves_side_over_bound
    : ∃ (pool pool' : Pool SimulatedVenue) (price leverage : Q96),
        Reachable pool ∧ pool.now.since pool.book.lastAccrual ≠ 0 ∧ pool.price = .ok price
          ∧ (∃ outcome, executeRouted ⟨10⟩ (.withdrawQuote 1000 false) 0 pool = .ok outcome pool')
          ∧ pool'.book.mode.isEmergency = false
          ∧ pool'.book.systemLeverage .base price = .ok leverage
          ∧ pool'.book.parameters.leverageBound < leverage := by
  refine ⟨sample.after twinTrades,
    endState (executeRouted ⟨10⟩ (.withdrawQuote 1000 false) 0 (sample.after twinTrades)),
    ⟨999 * Q96.unit / 100⟩, .ofNat 40, reachable_sample.after twinTrades, ?_⟩
  decide +kernel

end Bounds

end Pool

end MarginLending
