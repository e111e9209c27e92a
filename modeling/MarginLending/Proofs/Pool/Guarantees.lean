import MarginLending.Proofs.Pool.Invariants
import MarginLending.Venue.Simulated

/-!
What every reachable pool guarantees: its totals are the sums over its positions, its heaps rank
exactly the leveraged positions, and a call that fails leaves no trace.
-/

namespace MarginLending

/-- A kind owes an asset exactly when it is the leveraged kind of that asset. -/
theorem PositionKind.debtAsset?_eq_some_iff {kind : PositionKind} {asset : Asset}
    : kind.debtAsset? = some asset ↔ kind = .ofDebt asset := by
  cases kind <;> cases asset <;> simp [debtAsset?, ofDebt]

namespace Pool

section Guarantees

variable {V : Type} [Venue V] {pool pool' : Pool V}

/-- The pool that commands lead to, one after the other. -/
def after (pool : Pool V) (commands : List (Command V)) : Pool V :=
  commands.foldl (fun pool command => endState (command.run pool)) pool

/-- Commands lead from a reachable pool to a reachable one, by induction on the list. -/
theorem Reachable.after (reachable : Reachable pool) (commands : List (Command V))
    : Reachable (pool.after commands) := by
  induction commands generalizing pool with
  | nil => exact reachable
  | cons command rest ih => exact ih (reachable.run command)

/-- An empty pool with the parameters of the test network, at price one. -/
def sample : Pool SimulatedVenue where
  options := .default
  book := .new .testnet ⟨0⟩
  venue := ⟨.one, .zero, false, 0, false⟩
  pending := []
  events := []
  nextEventId := 1
  now := ⟨0⟩

theorem new_sample : Pool.new .default .testnet sample.venue ⟨0⟩ = .ok sample := rfl

theorem reachable_sample : Reachable sample := .new new_sample

/-- A lender lends both assets, two traders go short, and a day goes by. -/
def sampleTrades : List (Command SimulatedVenue) :=
  [.executeCall ⟨10⟩ (.depositBase 10000 0 .zero none),
    .executeCall ⟨10⟩ (.depositQuote 10000 0 .zero none),
    .executeCall ⟨20⟩ (.depositQuote 1000 2000 .zero none),
    .executeCall ⟨21⟩ (.depositQuote 500 4000 .zero none),
    .setTime ⟨secondsInDay⟩]

/-- In every reachable pool the totals of both ledgers are the sums over all positions, nobody owes
both assets, and the fee holder owes nothing and sits in no heap.
-/
theorem totals_fit_positions (reachable : Reachable pool)
    : (∀ asset,
        (pool.book.ledger asset).discountedCollateral
            = (pool.book.positions.values.map fun position =>
                (position.holding asset).collateralAmount).sum
          ∧ (pool.book.ledger asset).discountedDebt
            = (pool.book.positions.values.map fun position =>
                (position.holding asset).debtAmount).sum)
      ∧ (∀ account position, pool.book.position? account = some position →
          (position.holding .base).debtAmount = 0 ∨ (position.holding .quote).debtAmount = 0)
      ∧ (∀ position, pool.book.position? .feeHolder = some position →
          ∀ asset, (position.holding asset).debtAmount = 0)
      ∧ ∀ asset node, node ∈ (pool.book.heap asset).toList → node.account ≠ .feeHolder := by
  have consistent := reachable.sound.consistent
  refine ⟨fun asset => ⟨consistent.collateralTallied asset, consistent.debtTallied asset⟩,
    fun account position found => consistent.oneSided account position found .base,
    consistent.feeHolderClear, ?_⟩
  intro asset node member isFee
  exact consistent.feeHolder_nowhere nofun asset
    (LeverageHeap.mem_accounts_iff.mpr ⟨node, member, isFee⟩)

theorem totals_fit_positions_sample
    : ((sample.after sampleTrades).book.ledger .base).discountedDebt = 6000
      ∧ ((sample.after sampleTrades).book.positions.values.map fun position =>
          (position.holding .base).debtAmount).sum = 6000 := by
  have tallied := ((totals_fit_positions (reachable_sample.after sampleTrades)).1 .base).2
  have total : ((sample.after sampleTrades).book.ledger .base).discountedDebt = 6000 := by
    decide +kernel
  exact ⟨total, tallied ▸ total⟩

/-- In every reachable pool a slot of the heap of an asset holds an account exactly when that
account owes the asset and knows the slot; whoever owes nothing knows no slot; nobody sits twice;
every key is the rank of the account's position; and no child outranks its parent, so that the root
ranks highest.
-/
theorem heaps_rank_positions (reachable : Reachable pool)
    : (∀ asset account slot,
        (∃ node, (pool.book.heap asset).get? slot = some node ∧ node.account = account)
          ↔ ∃ position, pool.book.position? account = some position
              ∧ position.kind = .ofDebt asset ∧ position.heapIndex = slot)
      ∧ (∀ account position, pool.book.position? account = some position →
          position.kind ≠ .short → position.kind ≠ .long → position.heapIndex = 0)
      ∧ ((pool.book.heap .base).toList.map HeapNode.account
          ++ (pool.book.heap .quote).toList.map HeapNode.account).Nodup
      ∧ (∀ asset node, node ∈ (pool.book.heap asset).toList →
          ∃ position, pool.book.position? node.account = some position
            ∧ node.key = position.sortKey)
      ∧ (∀ asset child, 0 < child → child < (pool.book.heap asset).size →
          (pool.book.heap asset).keyAt child ≤ (pool.book.heap asset).keyAt ((child - 1) / 2))
      ∧ ∀ asset root, (pool.book.heap asset).peek? = some root →
          ∀ account position, pool.book.position? account = some position →
            position.kind = .ofDebt asset → position.sortKey ≤ root.key := by
  have seated := reachable.sound.consistent.seated
  refine ⟨?_, ?_, seated.nodup, ?_, ?_, ?_⟩
  · intro asset account slot
    simp only [← PositionKind.debtAsset?_eq_some_iff]
    exact seated.get?_iff
  · intro account position found notShort notLong
    refine seated.heapIndex_of_unleveraged found ?_
    cases kind : position.kind with
    | short => exact absurd kind notShort
    | long => exact absurd kind notLong
    | lend => rfl
    | uninitialized => rfl
  · intro asset node member
    obtain ⟨position, found, _, rank⟩ := seated.ranked asset node member nofun
    exact ⟨position, found, rank.symm⟩
  · intro asset child positive inside
    exact seated.ordered asset child _ ⟨positive, rfl⟩ inside
  · intro asset root atRoot account position found owes
    exact seated.sortKey_le_peek atRoot found (PositionKind.debtAsset?_eq_some_iff.mpr owes)

theorem heaps_rank_positions_sample
    : ∃ position, (sample.after sampleTrades).book.position? ⟨21⟩ = some position
        ∧ position.kind = .short ∧ position.heapIndex = 1 := by
  have seats := (heaps_rank_positions (reachable_sample.after sampleTrades)).1 .base ⟨21⟩ 1
  have atRoot : (((sample.after sampleTrades).book.heap .base).get? 1).map HeapNode.account
      = some ⟨21⟩ := by decide +kernel
  exact seats.mp (Option.map_eq_some_iff.mp atRoot)

/-- In a reachable pool a command that fails changes nothing but the venue, which keeps what it was
asked to do, and no event is left pending.
-/
theorem failed_command_leaves_no_trace (reachable : Reachable pool) {command : Command V}
    {error : PoolError} (failed : command.run pool = .error error pool')
    : pool' = { pool with venue := pool'.venue } ∧ pool'.pending = [] := by
  have idle := reachable.sound.idle
  have restored := run_error idle failed
  refine ⟨restored, ?_⟩
  rw [restored]
  exact idle.pending

/-- A deposit is booked and then undone, since the trade on it misses its limit. -/
theorem failed_command_leaves_no_trace_sample
    : ∃ pool',
        Command.run (.executeCall ⟨22⟩ (.depositQuote 500 100 (.ofNat 2) none))
            (sample.after sampleTrades) = .error .slippageLimit pool'
          ∧ pool'.book = (sample.after sampleTrades).book := by
  have fails : (Command.run (.executeCall ⟨22⟩ (.depositQuote 500 100 (.ofNat 2) none))
      (sample.after sampleTrades) matches .error .slippageLimit _) = true := by decide +kernel
  split at fails
  · next pool' result =>
      have restored :=
        (failed_command_leaves_no_trace (reachable_sample.after sampleTrades) result).1
      exact ⟨pool', result, (congrArg Pool.book restored :)⟩
  · cases fails

end Guarantees

end Pool

end MarginLending
