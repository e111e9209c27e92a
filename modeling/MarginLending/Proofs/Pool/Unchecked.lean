import MarginLending.Pool.Execute
import MarginLending.Proofs.Pool.MarginCalls
import MarginLending.Proofs.Pool.Trades

/-!
Arithmetic that nothing checks is right where it is in range. The sites where a call computes so are
listed with what has led there. However the computations are carried out, and whatever they come to
out of range, a call does the same as long as none of those that it gets to is.
-/

namespace MarginLending

namespace Unchecked

/-- What comes out of words that wrap around at the limit of amounts. -/
def wrapped : Unchecked → Nat
  | sum a b => (a + b) % amountLimit
  | difference a b => (a + (amountLimit - b)) % amountLimit
  | low n => Amount.low n

/-- What should come out. -/
def exact : Unchecked → Nat
  | sum a b => a + b
  | difference a b => a - b
  | low n => n

/-- A sum or a number is an amount, and a difference takes no more than there is from an amount. -/
def InRange : Unchecked → Prop
  | sum a b => a + b < amountLimit
  | difference a b => b ≤ a ∧ a < amountLimit
  | low n => n < amountLimit

/-- In range nothing wraps. -/
theorem InRange.wrapped_eq {computation : Unchecked} (inRange : computation.InRange)
    : computation.wrapped = computation.exact := by
  cases computation with
  | sum a b => exact Nat.mod_eq_of_lt inRange
  | difference a b =>
      obtain ⟨enough, small⟩ := inRange
      have around : a + (amountLimit - b) = a - b + amountLimit := by omega
      change (a + (amountLimit - b)) % amountLimit = a - b
      rw [around, Nat.add_mod_right]
      exact Nat.mod_eq_of_lt (by omega)
  | low n => exact Nat.mod_eq_of_lt inRange

/-- In range nothing stops. -/
theorem InRange.carryOut_eq {computation : Unchecked} (inRange : computation.InRange)
    : computation.carryOut = .ok computation.exact := by
  cases computation with
  | sum a b => exact carryOut_sum_eq_ok.mpr ⟨rfl, inRange⟩
  | difference a b => exact carryOut_difference_eq_ok.mpr ⟨rfl, inRange.1⟩
  | low n => exact congrArg Except.ok (Nat.mod_eq_of_lt inRange)

/-- A way to compute that is right wherever the result is in range. -/
def IsRight (compute : Arithmetic) : Prop :=
  ∀ computation : Unchecked, computation.InRange → compute computation = .ok computation.exact

theorem IsRight.eq_carryOut {compute : Arithmetic} (right : IsRight compute)
    {computation : Unchecked} (inRange : computation.InRange)
    : compute computation = computation.carryOut :=
  (right computation inRange).trans inRange.carryOut_eq.symm

end Unchecked

namespace Pool

-----
-- What a call comes to compute
-----

section Sites

variable {V : Type} [Venue V] (terms : Terms) (account : AccountId) (asset : Asset) (amount : Nat)
  (limitPrice : Q96) (pool : Pool V)

/-- A trade has come to its fee: it knows the debt that it may close, and its order was filled and
settled.
-/
structure SettlesTrade (bought : Asset) (debt : Nat) (fill : Fill) : Prop where
  owed : pool.book.debtOf account bought = .ok debt
  settled
    : ∃ limit swapped settled, limitPrice.scale amount = .ok limit
        ∧ swap (tradeOrder bought amount limit terms.route) pool = .ok fill swapped
        ∧ Book.settle (tradeOrder bought amount limit terms.route) fill swapped.book
          = .ok () settled

/-- What a trade computes. A short takes the fee off its proceeds. A long finds the base that it
buys beyond its debt and the share of the cost for it, and adds the fee to the cost.
-/
inductive TradeComputes : Asset → Unchecked → Prop
  | received {debt fee : Nat} {fill : Fill}
      (settles : SettlesTrade terms account amount limitPrice pool .quote debt fill)
      (charges : pool.book.parameters.swapFeeOn (fill.amountOut - debt) = .ok fee)
    : TradeComputes .quote (.difference fill.amountOut fee)
  | opened {debt : Nat} {fill : Fill}
      (settles : SettlesTrade terms account amount limitPrice pool .base debt fill)
      (opens : debt < amount)
    : TradeComputes .base (.difference amount debt)
  | charged {debt share : Nat} {fill : Fill}
      (settles : SettlesTrade terms account amount limitPrice pool .base debt fill)
      (opens : debt < amount) (shares : mulDiv fill.amountIn (amount - debt) amount = .ok share)
    : TradeComputes .base (.low share)
  | spent {debt charged fee : Nat} {fill : Fill}
      (settles : SettlesTrade terms account amount limitPrice pool .base debt fill)
      (share : chargedCost fill.amountIn amount debt = .ok charged)
      (charges : pool.book.parameters.swapFeeOn charged = .ok fee)
    : TradeComputes .base (.sum fill.amountIn fee)

/-- What a withdrawal computes: the collateral that stays, and the discounted collateral that was
taken.
-/
inductive WithdrawComputes : Unchecked → Prop
  | remaining {available real : Nat}
      (known : pool.book.collateralOf terms.caller asset = .ok available)
      (within : ¬(amount ≠ Amount.max ∧ available < amount))
      (asked : real = if amount = Amount.max then available else amount)
    : WithdrawComputes (.difference available real)
  | taken {available real : Nat} {debited paid : Book}
      (known : pool.book.collateralOf terms.caller asset = .ok available)
      (within : ¬(amount ≠ Amount.max ∧ available < amount))
      (asked : real = if amount = Amount.max then available else amount)
      (debits : Book.debit terms.caller asset real pool.book = .ok () debited)
      (pays : Book.payOut asset real debited = .ok () paid)
    : WithdrawComputes (.difference (discountedCollateralOf pool.book terms.caller asset)
        (discountedCollateralOf (paid.reseat terms.caller) terms.caller asset))

/-- A margin call has removed a position, and sold or kept what it seized for the debt. -/
def Seizes (debtAsset : Asset) (seized debt : Nat) (proceeds : Option Nat) : Prop :=
  ∃ position removed sold, pool.book.position? account = some position
    ∧ position.kind.debtAsset? = some debtAsset
    ∧ pool.book.collateralIn position debtAsset.other = .ok seized
    ∧ pool.book.debtIn position debtAsset = .ok debt
    ∧ Book.removePosition account pool.book = .ok () removed
    ∧ sellSeized terms debtAsset.other seized (pool.withBook removed) = .ok proceeds sold

/-- What a margin call computes: how far the proceeds go beyond the debt or fall short of it, and
what is left of the kept collateral when the debt of the counterparties has been written down.
-/
inductive MarginCallComputes : Unchecked → Prop
  | surplus {debtAsset : Asset} {seized debt proceeds : Nat}
      (seizes : Seizes terms account pool debtAsset seized debt (some proceeds))
      (covers : debt ≤ proceeds)
    : MarginCallComputes (.difference proceeds debt)
  | shortfall {debtAsset : Asset} {seized debt proceeds : Nat}
      (seizes : Seizes terms account pool debtAsset seized debt (some proceeds))
      (falls : ¬debt ≤ proceeds)
    : MarginCallComputes (.difference debt proceeds)
  | unrelieved {debtAsset : Asset} {seized debt owed : Nat} {proceeds : Option Nat} {raised : Book}
      (seizes : Seizes terms account pool debtAsset seized debt proceeds)
      (owes : (raised.ledger debtAsset.other).totalRealDebt = .ok owed)
    : MarginCallComputes (.difference (Recovery.of proceeds debt seized).kept
        (min (Recovery.of proceeds debt seized).kept (owed - 1)))

end Sites

/-- What an operation computes: what its trade or its withdrawal does, and the amounts that a
deposit reports together with the trade behind it.
-/
inductive OperationComputes {V : Type} [Venue V] (terms : Terms) (pool : Pool V) : Unchecked → Prop
  | trade {bought : Asset} {amount : Nat} {limitPrice : Q96} {computation : Unchecked}
      (computes : TradeComputes terms terms.caller amount limitPrice pool bought computation)
    : OperationComputes terms pool computation
  | tradeBehind {asset : Asset} {account : AccountId} {amount leveraged : Nat} {limitPrice : Q96}
      {middle : Pool V} {computation : Unchecked}
      (booked : bookDeposit terms asset amount account pool = .ok () middle)
      (computes : TradeComputes terms account leveraged limitPrice middle asset computation)
    : OperationComputes terms pool computation
  | reported {asset : Asset} {account : AccountId} {amount leveraged : Nat} {limitPrice : Q96}
      {middle finish : Pool V} {outcome : Outcome}
      (booked : bookDeposit terms asset amount account pool = .ok () middle)
      (traded : tradeFor terms account leveraged limitPrice asset middle = .ok outcome finish)
      (side : Asset)
    : OperationComputes terms pool
        (.sum ((amountsIn asset amount).get side) (outcome.amounts.get side))
  | withdrawal {asset : Asset} {amount : Nat} {computation : Unchecked}
      (computes : WithdrawComputes terms asset amount pool computation)
    : OperationComputes terms pool computation

/-- What a call on a pool computes without a check, whether it goes through or fails later: in the
margin calls of its liquidation, and in its operation once the pool is up to date.
-/
inductive Computes {V : Type} [Venue V] (pool : Pool V) : Unchecked → Prop
  | marginCall {terms : Terms} {start middle : Pool V} {calls : List (Pool V × Pool V)}
      {account : AccountId} {computation : Unchecked} (begins : PassBegins terms pool start)
      (chain : Liquidation terms start calls middle)
      (computes : MarginCallComputes terms account middle computation)
    : Computes pool computation
  | operation {terms : Terms} {start : Pool V} {computation : Unchecked}
      (updated : bringUpToDate terms (pool.withBook pool.book.openJournal) = .ok false start)
      (computes : OperationComputes terms start computation)
    : Computes pool computation

-----
-- A call whose computations are in range does the same however they are carried out
-----

section Same

variable {V : Type} [Venue V] {compute : Arithmetic} {terms : Terms} {account : AccountId}
  {asset : Asset} {amount : Nat} {limitPrice : Q96} {pool : Pool V}

theorem shortBy_eq (right : Unchecked.IsRight compute)
    (inRange : ∀ computation,
      TradeComputes terms account amount limitPrice pool .quote computation → computation.InRange)
    : shortBy compute terms account amount limitPrice pool
      = short terms account amount limitPrice pool := by
  unfold short shortBy
  refine readBook_bind_congr ?_
  refine lift_bind_congr fun kind _ => ?_
  refine lift_bind_congr fun debt owed => ?_
  refine liftMath_bind_congr fun limit scaled => ?_
  refine EStateM.bind_congr rfl fun fill swapped swaps => ?_
  refine readBook_bind_congr ?_
  refine lift_bind_congr fun _ _ => ?_
  refine liftBook_bind_congr fun _ settled settles => ?_
  refine liftMath_bind_congr fun fee charges => ?_
  have settled : SettlesTrade terms account amount limitPrice pool .quote debt fill :=
    ⟨owed, limit, swapped, settled, scaled, swaps, settles⟩
  rw [right.eq_carryOut (inRange _ (.received settled charges))]

/-- The share that pays the fee is the same, where a trade was settled. -/
theorem chargedCostBy_eq {debt : Nat} {fill : Fill} (right : Unchecked.IsRight compute)
    (inRange : ∀ computation,
      TradeComputes terms account amount limitPrice pool .base computation → computation.InRange)
    (settled : SettlesTrade terms account amount limitPrice pool .base debt fill)
    : chargedCostBy compute fill.amountIn amount debt = chargedCost fill.amountIn amount debt := by
  unfold chargedCost chargedCostBy
  split
  · next opens =>
      rw [right.eq_carryOut (inRange _ (.opened settled opens))]
      refine Except.bind_congr fun opened takes => ?_
      obtain ⟨rfl, _⟩ := Unchecked.carryOut_difference_eq_ok.mp takes
      refine Except.bind_congr fun share shares => ?_
      exact right.eq_carryOut
        (inRange _ (.charged settled opens (Except.liftMath_eq_ok.mp shares)))
  · rfl

theorem longBy_eq (right : Unchecked.IsRight compute)
    (inRange : ∀ computation,
      TradeComputes terms account amount limitPrice pool .base computation → computation.InRange)
    : longBy compute terms account amount limitPrice pool
      = long terms account amount limitPrice pool := by
  unfold long longBy
  refine readBook_bind_congr ?_
  refine lift_bind_congr fun kind _ => ?_
  refine lift_bind_congr fun debt owed => ?_
  refine liftMath_bind_congr fun limit scaled => ?_
  refine EStateM.bind_congr rfl fun fill swapped swaps => ?_
  refine readBook_bind_congr ?_
  refine lift_bind_congr fun _ _ => ?_
  refine liftBook_bind_congr fun _ settled settles => ?_
  have settled : SettlesTrade terms account amount limitPrice pool .base debt fill :=
    ⟨owed, limit, swapped, settled, scaled, swaps, settles⟩
  rw [chargedCostBy_eq right inRange settled]
  refine lift_bind_congr fun charged share => ?_
  refine liftMath_bind_congr fun fee charges => ?_
  refine liftBook_bind_congr fun _ _ _ => ?_
  rw [right.eq_carryOut (inRange _ (.spent settled share charges))]

theorem depositBy_eq {leveraged : Nat} {owner : Option AccountId}
    (right : Unchecked.IsRight compute)
    (inRange : ∀ computation, OperationComputes terms pool computation → computation.InRange)
    : depositBy compute terms asset amount leveraged limitPrice owner pool
      = deposit terms asset amount leveraged limitPrice owner pool := by
  unfold deposit depositBy
  split
  · exact EStateM.throw_bind_congr
  refine lift_bind_congr fun owner _ => ?_
  refine EStateM.bind_congr rfl fun _ middle booked => ?_
  split
  · have trades
        : tradeForBy compute terms owner leveraged limitPrice asset middle
          = tradeFor terms owner leveraged limitPrice asset middle := by
      cases asset with
      | base => exact longBy_eq right fun _ computes => inRange _ (.tradeBehind booked computes)
      | quote => exact shortBy_eq right fun _ computes => inRange _ (.tradeBehind booked computes)
    refine EStateM.bind_congr trades fun trade finish traded => ?_
    have sums (side : Asset) := right.eq_carryOut (inRange _ (.reported booked traded side))
    have base := sums .base
    have quote := sums .quote
    unfold PerAsset.get at base quote
    rw [base, quote]
  · rfl

omit [Venue V] in
theorem withdrawBy_eq (right : Unchecked.IsRight compute)
    (inRange : ∀ computation, WithdrawComputes terms asset amount pool computation →
      computation.InRange)
    : withdrawBy compute terms asset amount pool = withdraw terms asset amount pool := by
  unfold withdraw withdrawBy
  split
  · exact EStateM.throw_bind_congr
  refine readBook_bind_congr ?_
  refine lift_bind_congr fun _ _ => ?_
  refine lift_bind_congr fun available known => ?_
  split
  · exact EStateM.throw_bind_congr
  next within =>
    obtain ⟨real, asked⟩ : ∃ real, real = if amount = Amount.max then available else amount :=
      ⟨_, rfl⟩
    dsimp only
    rw [← asked, right.eq_carryOut (inRange _ (.remaining known within asked))]
    refine lift_bind_congr fun _ _ => ?_
    split
    · exact EStateM.throw_bind_congr
    refine liftBook_bind_congr fun _ debited debits => ?_
    refine liftBook_bind_congr fun _ paid pays => ?_
    refine liftBook_bind_congr fun _ seated reseats => ?_
    obtain rfl : paid.reseat terms.caller = seated := EStateM.modify_eq_ok.mp reseats
    refine readBook_bind_congr ?_
    refine lift_bind_congr fun _ _ => ?_
    refine liftBook_bind_congr fun _ _ _ => ?_
    rw [book_withBook, right.eq_carryOut (inRange _ (.taken known within asked debits pays))]

/-- An operation whose computations are in range does the same however they are carried out. -/
theorem operateBy_eq (right : Unchecked.IsRight compute)
    (inRange : ∀ computation, OperationComputes terms pool computation → computation.InRange)
    (call : Call)
    : operateBy compute terms call pool = operate terms call pool := by
  cases call with
  | depositBase | depositQuote => exact depositBy_eq right inRange
  | withdrawBase | withdrawQuote =>
      exact withdrawBy_eq right fun _ computes => inRange _ (.withdrawal computes)
  | short => exact shortBy_eq right fun _ computes => inRange _ (.trade computes)
  | long => exact longBy_eq right fun _ computes => inRange _ (.trade computes)
  | _ => rfl

/-- Once a margin call has seized collateral, it compares the proceeds with the debt as is right. -/
theorem Seizes.ofBy_eq {debtAsset : Asset} {seized debt : Nat} {proceeds : Option Nat}
    (right : Unchecked.IsRight compute)
    (inRange : ∀ computation, MarginCallComputes terms account pool computation →
      computation.InRange)
    (seizes : Seizes terms account pool debtAsset seized debt proceeds)
    : Recovery.ofBy compute proceeds debt seized
      = Recovery.ofBy Unchecked.carryOut proceeds debt seized := by
  cases proceeds with
  | none => rfl
  | some proceeds =>
      unfold Recovery.ofBy
      dsimp only
      split
      · next covers => rw [right.eq_carryOut (inRange _ (.surplus seizes covers))]
      · next falls => rw [right.eq_carryOut (inRange _ (.shortfall seizes falls))]

omit [Venue V] in
/-- Where what is left of the kept collateral is in range, a shortfall is placed as is right. -/
theorem placeShortfallBy_eq {shortfall kept : Nat} (right : Unchecked.IsRight compute)
    (inRange : ∀ {raised : Book} {owed : Nat},
      (raised.ledger asset.other).totalRealDebt = .ok owed →
      (Unchecked.difference kept (min kept (owed - 1))).InRange)
    : placeShortfallBy compute terms asset shortfall kept
      = (placeShortfall terms asset shortfall kept : PoolM V Unit) := by
  have counterparties
      : chargeCounterpartiesBy compute asset shortfall kept
        = (chargeCounterparties asset shortfall kept : PoolM V Unit) := by
    funext pool
    unfold chargeCounterparties chargeCounterpartiesBy
    refine readBook_bind_congr ?_
    refine liftBook_bind_congr fun _ charged _ => ?_
    refine readBook_bind_congr ?_
    refine lift_bind_congr fun owed owes => ?_
    refine liftBook_bind_congr fun _ relieved _ => ?_
    rw [right.eq_carryOut (inRange owes)]
  unfold placeShortfall placeShortfallBy
  rw [counterparties]
  rfl

/-- A margin call whose computations are in range does the same however they are carried out. -/
theorem marginCallBy_eq (right : Unchecked.IsRight compute)
    (inRange : ∀ computation, MarginCallComputes terms account pool computation →
      computation.InRange)
    : marginCallBy compute terms account pool = marginCall terms account pool := by
  unfold marginCall marginCallBy
  refine readBook_bind_congr ?_
  rcases found : pool.book.position? account with _ | position
  · rfl
  dsimp only
  rcases side : position.kind.debtAsset? with _ | debtAsset
  · rfl
  refine lift_bind_congr fun seized holds => ?_
  refine lift_bind_congr fun debt owed => ?_
  refine liftBook_bind_congr fun _ removed removes => ?_
  refine EStateM.bind_congr rfl fun proceeds sold sells => ?_
  have seizes : Seizes terms account pool debtAsset seized debt proceeds :=
    ⟨position, removed, sold, found, side, holds, owed, removes, sells⟩
  rw [seizes.ofBy_eq right inRange]
  refine lift_bind_congr fun recovery compared => ?_
  obtain rfl := Except.ok.inj ((Recovery.ofBy_carryOut ..).symm.trans compared)
  rw [placeShortfallBy_eq right fun owes => inRange _ (.unrelieved seizes owes)]
  rfl

end Same

end Pool

end MarginLending
