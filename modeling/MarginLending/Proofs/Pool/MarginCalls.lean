import MarginLending.Proofs.Book.Lenders
import MarginLending.Proofs.Book.Overflow
import MarginLending.Proofs.Book.Tokens
import MarginLending.Proofs.Pool.Backing
import MarginLending.Proofs.Pool.Faults
import MarginLending.Proofs.Pool.Passes

/-!
A margin call goes through whatever the venue answers. Only a number out of range can stop it,
because nothing is sold that the pool does not hold and no answer of the venue is passed on. Where
it goes through, the position and its seat are gone, and without a sale every token stays in the
pool.
-/

namespace MarginLending

-----
-- A removed account does not come back
-----

namespace Book

section Absence

variable {book book' : Book} {account : AccountId}

theorem absent_removePosition (removed : Book.removePosition account book = .ok () book')
    : book'.position? account = none := by
  rcases removed_of_removePosition removed with ⟨absent, rfl⟩ | ⟨position, _, gone⟩
  · exact absent
  · have holdings := gone.holdings account
    rwa [if_pos rfl, Option.map_eq_none_iff] at holdings

/-- What is placed reaches nobody without a position but the fee holder, by induction on the
sequence.
-/
theorem Placements.absent (placed : book.Placements book') (notFee : account ≠ .feeHolder)
    (absent : book.position? account = none)
    : book'.position? account = none := by
  induction placed with
  | refl => exact absent
  | tail _ last ih =>
      rcases last.credit_or_setLedger with ⟨_, _, credited⟩ | ⟨_, _, rfl, _⟩
      · have same := holdingsOf?_credit credited notFee.symm
        unfold holdingsOf? at same
        rwa [ih, Option.map_none, Option.map_eq_none_iff] at same
      · exact ih

/-- Who has no position sits in no heap. -/
theorem Seated.not_mem_of_absent {stale : Option AccountId} (seated : book.Seated stale)
    (absent : book.position? account = none) (asset : Asset)
    : account ∉ (book.heap asset).accounts := by
  intro member
  have isSome := seated.position?_isSome member
  rw [absent] at isSome
  cases isSome

/-- A debtor is not the fee holder, who owes nothing. -/
theorem Consistent.ne_feeHolder {stale : Option AccountId} (consistent : book.Consistent stale)
    {position : Position} {debtAsset : Asset} (found : book.position? account = some position)
    (owes : position.kind.debtAsset? = some debtAsset)
    : account ≠ .feeHolder := by
  rintro rfl
  have clear := consistent.feeHolderClear position found debtAsset
  exact Nat.ne_of_gt (Position.debtAmount_pos_of_debtAsset? owes) clear

end Absence

end Book

namespace Pool

-----
-- Pools that margin calls find
-----

section InPass

variable {V : Type} [Venue V] {pool : Pool V}

/-- A pool as a margin call finds it: one between two calls, or one within a call that has accrued
and may have made some margin calls already.
-/
def InPass (pool : Pool V) : Prop :=
  ∃ terms reached start calls,
    Reachable reached ∧ PassBegins terms reached start ∧ Liquidation terms start calls pool

theorem Reachable.inPass (reachable : Reachable pool) : InPass pool :=
  ⟨⟨.feeHolder, .one, 0, ⟨0⟩⟩, pool, pool, [], reachable, .between, .done pool⟩

theorem InPass.sturdy (inPass : InPass pool) : pool.book.Sturdy none := by
  obtain ⟨terms, reached, start, calls, reachable, begins, chain⟩ := inPass
  refine chain.sturdy ?_
  cases begins with
  | between => exact reachable.sturdy
  | accrued accrues => exact (sturdy_openJournal reachable.sturdy).accrue accrues

end InPass

-----
-- Steps of a call that fail for their numbers
-----

section Steps

variable {V β : Type} {pool : Pool V}

/-- An attempt at an order goes through, whatever the venue answers, and leaves the book alone. -/
theorem numeric_attempt_bind [Venue V] {order : SwapOrder} {f : Except PoolError Fill → PoolM V β}
    (unfilled : ∀ error venue, NumericFrom (f (.error error)) (pool.withVenue venue))
    (filled : ∀ fill venue, order.isHonouredBy fill →
      NumericFrom (f (.ok fill)) (pool.withVenue venue))
    : NumericFrom (attempt (swap order) >>= f) pool := by
  have went : ∃ answer pool', attempt (swap order) pool = .ok answer pool' := by
    unfold attempt
    cases swap order pool with
    | ok fill pool' => exact ⟨_, _, rfl⟩
    | error error pool' => exact ⟨_, _, rfl⟩
  obtain ⟨_, _, went⟩ := went
  refine .bind (.of_ok went) fun answer pool' attempted => ?_
  obtain ⟨⟨venue, rfl⟩, honoured⟩ := attempt_swap_ok attempted
  cases answer with
  | error error => exact unfilled error venue
  | ok fill => exact filled fill venue (honoured fill rfl)

end Steps

-----
-- Whatever the venue answers, only a number out of range stops a margin call
-----

section Failures

variable {V : Type} {pool pool' : Pool V} {terms : Terms} {account : AccountId} {asset : Asset}
  {shortfall kept seized : Nat}

theorem numeric_freeze : NumericFrom (freeze terms asset) pool :=
  .readBook_bind (.lift_bind (Book.numeric_totalNetValue ..) fun _ _ =>
    .record_bind (.liftBook (.modify _)))

theorem numeric_chargeCounterparties
    : NumericFrom (chargeCounterparties asset shortfall kept) pool := by
  unfold chargeCounterparties chargeCounterpartiesBy
  refine .readBook_bind (.liftBook_bind Book.numeric_chargeBorrowers fun _ _ _ => ?_)
  refine .readBook_bind (.lift_bind (Ledger.numeric_realDebt ..) fun _ _ => ?_)
  refine .liftBook_bind Book.numeric_relieveDebt fun _ _ _ => ?_
  refine .lift_bind (.of_ok (Unchecked.carryOut_difference_eq_ok.mpr ⟨rfl, Nat.min_le_left ..⟩))
    fun _ _ => ?_
  exact .liftBook_bind Book.numeric_shareAmongLenders fun _ _ _ => .record _

theorem numeric_chargeSameSide : NumericFrom (chargeSameSide terms asset shortfall kept) pool := by
  unfold chargeSameSide
  refine .liftBook_bind Book.numeric_shareAmongLenders fun _ _ _ => .readBook_bind ?_
  simp only
  split
  · exact numeric_freeze
  · exact .liftBook_bind Book.numeric_raiseDebt fun _ _ _ => .record _

theorem numeric_placeShortfall : NumericFrom (placeShortfall terms asset shortfall kept) pool := by
  unfold placeShortfall placeShortfallBy
  refine .readBook_bind (.lift_bind (Book.numeric_borrowersCollateral ..) fun _ _ => ?_)
  split
  · exact numeric_chargeCounterparties
  · exact numeric_chargeSameSide

/-- Placing a shortfall moves no token. -/
theorem balance_placeShortfall
    (placed : placeShortfall terms asset shortfall kept pool = .ok () pool') (side : Asset)
    : (pool'.book.ledger side).balance = (pool.book.ledger side).balance := by
  obtain ⟨_, _, ⟨_, _, charged⟩ | charged⟩ := placeShortfall_ok placed
  · obtain ⟨_, _, _, _, raises, _, relieves, shares, rfl⟩ := chargeCounterparties_ok charged
    exact (Book.keepsBalances_shareAmongLenders shares side).trans
      ((Book.keepsBalances_relieveDebt relieves side).trans
        (Book.keepsBalances_chargeBorrowers raises side))
  · obtain ⟨shared, shares, ⟨_, froze⟩ | ⟨_, _, raises, rfl⟩⟩ := chargeSameSide_ok charged
    · obtain ⟨_, _, rfl⟩ := freeze_ok froze
      exact Book.keepsBalances_shareAmongLenders shares side
    · exact (Book.keepsBalances_raiseDebt raises side).trans
        (Book.keepsBalances_shareAmongLenders shares side)

/-- What a margin call does after the sale moves no token. -/
theorem balance_after_sale {sold : Pool V} {shared : Book} {payload : EventPayload} {surplus : Nat}
    (sharing : 0 < surplus ∧ Book.shareAmongLenders asset surplus sold.book = .ok () shared
      ∨ surplus = 0 ∧ shared = sold.book)
    (placing
      : 0 < shortfall
          ∧ placeShortfall terms asset shortfall kept ((sold.withBook shared).recording payload)
            = .ok () pool'
        ∨ shortfall = 0 ∧ pool' = (sold.withBook shared).recording payload) (side : Asset)
    : (pool'.book.ledger side).balance = (sold.book.ledger side).balance := by
  have atShared : (shared.ledger side).balance = (sold.book.ledger side).balance := by
    rcases sharing with ⟨_, shares⟩ | ⟨_, rfl⟩
    · exact Book.keepsBalances_shareAmongLenders shares side
    · rfl
  rw [← atShared]
  rcases placing with ⟨_, placed⟩ | ⟨_, rfl⟩
  · exact balance_placeShortfall placed side
  · rfl

variable [Venue V]

/-- The pool has what it offers, so that a filled order settles. -/
theorem numeric_sellSeized : NumericFrom (sellSeized terms asset seized) pool := by
  unfold sellSeized
  simp only
  split
  · exact .pure _
  · refine .readBook_bind ?_
    split
    · exact .pure _
    · next enough =>
        refine .liftMath_bind (.accepted ?_) fun _ _ =>
          .liftMath_bind (.accepted (by simp)) fun floor _ => ?_
        · cases asset <;> simp
        · refine numeric_attempt_bind (fun _ _ => .pure _) fun fill venue honoured => ?_
          have amountIn := SwapOrder.amountIn_of_sell honoured
          refine .liftBook_bind (Book.numeric_settle ?_) fun _ _ _ => .pure _
          rw [amountIn]
          exact Nat.le_of_not_lt enough

/-- A debtor can be removed, and what follows looks nothing up and refuses nobody. -/
theorem numeric_marginCall (consistent : pool.book.Consistent none) {position : Position}
    {debtAsset : Asset} (found : pool.book.position? account = some position)
    (owes : position.kind.debtAsset? = some debtAsset)
    : NumericFrom (marginCall terms account) pool := by
  obtain ⟨_, removes⟩ := consistent.removePosition_isOk found
  unfold marginCall marginCallBy
  refine .readBook_bind ?_
  simp only [found, owes]
  refine .lift_bind (Book.numeric_collateralIn ..) fun _ _ => ?_
  refine .lift_bind (Book.numeric_debtIn ..) fun _ _ => ?_
  refine .liftBook_bind (.of_ok removes) fun _ _ _ => ?_
  refine .bind numeric_sellSeized fun _ _ _ => ?_
  refine .lift_bind (.of_ok (Recovery.ofBy_carryOut ..)) fun _ _ => ?_
  split
  · refine .liftBook_bind Book.numeric_shareAmongLenders fun _ _ _ => .record_bind ?_
    split
    · exact numeric_placeShortfall
    · exact .pure _
  · refine .record_bind ?_
    split
    · exact numeric_placeShortfall
    · exact .pure _

-----
-- What a margin call leaves
-----

/-- A margin call leaves its account without a position. -/
theorem absent_marginCall (consistent : pool.book.Consistent none)
    (called : marginCall terms account pool = .ok () pool')
    : pool'.book.position? account = none := by
  obtain ⟨position, debtAsset, _, _, _, _, _, _, _, found, owes, _⟩ := marginCall_ok called
  have notFee := consistent.ne_feeHolder found owes
  obtain ⟨removed, removes, placed | ⟨_, middle, placed, froze⟩⟩ := placements_marginCall called
  · exact placed.absent notFee (Book.absent_removePosition removes)
  · obtain ⟨_, _, rfl⟩ := freeze_ok froze
    exact placed.absent notFee (Book.absent_removePosition removes)

/-- The order that a margin call places for seized collateral. -/
def saleOrder (terms : Terms) (parameters : Parameters) (asset : Asset) (seized : Nat)
    : Except MathError SwapOrder := do
  let worth ← (
    match asset with
    | .quote => terms.price.unscale seized
    | .base => terms.price.scale seized : Except MathError Nat)
  return SwapOrder.sell asset seized (← parameters.liquidationFloor worth) terms.route

/-- Seized collateral can be sold: there is some, the pool holds that much, and the venue answers
the order for it with a fill that keeps to it.
-/
def Sells (terms : Terms) (pool : Pool V) (asset : Asset) (seized : Nat) : Prop :=
  seized ≠ 0 ∧ seized ≤ (pool.book.ledger asset).balance
    ∧ ∃ order fill, saleOrder terms pool.book.parameters asset seized = .ok order
        ∧ (Venue.swap pool.venue order).1 = .ok fill ∧ order.isHonouredBy fill

/-- Where nothing can be sold, the book stays as it is. -/
theorem book_sellSeized {proceeds : Option Nat} (unsold : ¬Sells terms pool asset seized)
    (sold : sellSeized terms asset seized pool = .ok proceeds pool')
    : pool'.book = pool.book := by
  simp only [sellSeized] at sold
  split at sold
  · obtain ⟨_, rfl⟩ := EStateM.pure_eq_ok.mp sold
    rfl
  · next some =>
      simp only [EStateM.bind_eq_ok, readBook_eq_ok] at sold
      obtain ⟨_, _, ⟨rfl, rfl⟩, sold⟩ := sold
      split at sold
      · obtain ⟨_, rfl⟩ := EStateM.pure_eq_ok.mp sold
        rfl
      · next enough =>
          simp only [EStateM.bind_eq_ok, EStateM.liftMath_eq_ok] at sold
          obtain ⟨worth, _, ⟨valued, rfl⟩, floor, _, ⟨floored, rfl⟩, answer, _, attempted, sold⟩ :=
            sold
          cases answer with
          | error error =>
              obtain ⟨⟨venue, rfl⟩, _⟩ := attempt_swap_ok attempted
              obtain ⟨_, rfl⟩ := EStateM.pure_eq_ok.mp sold
              rfl
          | ok fill =>
              refine absurd
                ⟨some, Nat.le_of_not_lt enough, _, fill, ?_, attempt_swap_filled attempted⟩
                unsold
              exact Except.bind_eq_ok.mpr
                ⟨worth, valued, Except.bind_eq_ok.mpr ⟨floor, floored, rfl⟩⟩

/-- Where the seized collateral cannot be sold, a margin call moves no token. -/
theorem balance_marginCall {position : Position} {debtAsset : Asset} {seized : Nat}
    (found : pool.book.position? account = some position)
    (owes : position.kind.debtAsset? = some debtAsset)
    (holds : pool.book.collateralIn position debtAsset.other = .ok seized)
    (unsold : ¬Sells terms pool debtAsset.other seized)
    (called : marginCall terms account pool = .ok () pool') (side : Asset)
    : (pool'.book.ledger side).balance = (pool.book.ledger side).balance := by
  obtain ⟨position', debtAsset', seized', debt, removed, proceeds, sold, shared, payload, found',
    owes', holds', _, removes, sells, sharing, placing⟩ := marginCall_ok called
  obtain rfl := Option.some.inj (found.symm.trans found')
  obtain rfl := Option.some.inj (owes.symm.trans owes')
  obtain rfl := Except.ok.inj (holds.symm.trans holds')
  have atRemoved := Book.balance_removePosition removes
  have parameters : removed.parameters = pool.book.parameters :=
    (congrArg Book.parameters (Book.settings_removePosition removes) :)
  have unsoldThen : ¬Sells terms (pool.withBook removed) debtAsset.other seized := by
    rintro ⟨some, enough, order, fill, orders, filled⟩
    rw [book_withBook, atRemoved] at enough
    rw [book_withBook, parameters] at orders
    exact unsold ⟨some, enough, order, fill, orders, filled⟩
  have atSold : sold.book = removed := book_sellSeized unsoldThen sells
  rw [balance_after_sale sharing placing, atSold, atRemoved]

/-- A margin call of a leveraged account goes through or fails for a number out of range, at any
price but zero and whatever the venue answers. If it goes through, the account has no position and
sits in no heap; and if the seized collateral could not be sold, no balance has changed.
-/
theorem marginCall_closes_or_overflows (inPass : InPass pool) (priced : terms.price.raw ≠ 0)
    {position : Position} {debtAsset : Asset} (found : pool.book.position? account = some position)
    (owes : position.kind.debtAsset? = some debtAsset)
    : (∀ error pool', marginCall terms account pool = .error error pool' → error = .math .overflow)
      ∧ ∀ pool', marginCall terms account pool = .ok () pool' →
          pool'.book.position? account = none
          ∧ (∀ asset node, node ∈ (pool'.book.heap asset).toList → node.account ≠ account)
          ∧ ∀ seized, pool.book.collateralIn position debtAsset.other = .ok seized →
              ¬Sells terms pool debtAsset.other seized →
              ∀ asset, (pool'.book.ledger asset).balance = (pool.book.ledger asset).balance := by
  have sturdy := inPass.sturdy
  constructor
  · intro error pool' failed
    have numeric := (numeric_marginCall sturdy.consistent found owes).within error pool' failed
    exact numeric.eq_overflow
      ((faultless_marginCall sturdy priced account).within error pool' failed)
  · intro pool' called
    have absent := absent_marginCall sturdy.consistent called
    have seated := (consistent_marginCall sturdy.consistent called).seated
    refine ⟨absent, ?_,
      fun seized holds unsold => balance_marginCall found owes holds unsold called⟩
    intro asset node member same
    exact seated.not_mem_of_absent absent asset
      (LeverageHeap.mem_accounts_iff.mpr ⟨node, member, same⟩)

end Failures

/-- The sample trades after the rise, with a venue that has halted. -/
def haltedRise : Pool SimulatedVenue :=
  sample.after (sampleRise ++ [.changeVenue { sample.venue with halted := true }])

/-- The second trader owes base there. -/
theorem debtor_haltedRise
    : ∃ position, haltedRise.book.position? ⟨21⟩ = some position
        ∧ position.kind.debtAsset? = some .base
        ∧ haltedRise.book.collateralIn position .quote = .ok 4500 := by
  have isSome : (haltedRise.book.position? ⟨21⟩).isSome := by decide +kernel
  obtain ⟨position, found⟩ := Option.isSome_iff_exists.mp isSome
  have known : (haltedRise.book.position? ⟨21⟩).map (fun position =>
      (position.kind, haltedRise.book.collateralIn position .quote)) = some (.short, .ok 4500) := by
    decide +kernel
  rw [found, Option.map_some, Option.some.injEq, Prod.mk.injEq] at known
  exact ⟨position, found, known.1 ▸ rfl, known.2⟩

/-- The halted venue fills nothing, so the second trader's collateral is kept and no token moves. -/
theorem marginCall_closes_or_overflows_halted
    : ∃ pool', marginCall riseTerms ⟨21⟩ haltedRise = .ok () pool'
        ∧ pool'.book.position? ⟨21⟩ = none
        ∧ ∀ asset, (pool'.book.ledger asset).balance = (haltedRise.book.ledger asset).balance := by
  obtain ⟨position, found, owes, holds⟩ := debtor_haltedRise
  have called : marginCall riseTerms ⟨21⟩ haltedRise
      = .ok () (endState (marginCall riseTerms ⟨21⟩ haltedRise)) := by decide +kernel
  have halted : haltedRise.venue.halted = true := by decide +kernel
  have unsold : ¬Sells riseTerms haltedRise .quote 4500 := by
    rintro ⟨_, _, order, fill, _, filled, _⟩
    change (haltedRise.venue.swap order).1 = .ok fill at filled
    rw [SimulatedVenue.swap, if_pos halted] at filled
    cases filled
  have reachable : Reachable haltedRise := reachable_sample.after _
  have priced : riseTerms.price.raw ≠ 0 := by decide +kernel
  obtain ⟨_, closes⟩ := marginCall_closes_or_overflows reachable.inPass priced found owes
  obtain ⟨absent, _, unmoved⟩ := closes _ called
  exact ⟨_, called, absent, unmoved 4500 holds unsold⟩

end Pool

end MarginLending
