import MarginLending.Proofs.Pool.Guarantees
import MarginLending.Proofs.Pool.Runs
import MarginLending.Proofs.Pool.Trips

/-!
What a frozen pool does. Its calls are ways out or fail, whatever happens to its parameters, its
clock and its venue in between. So it stays frozen, everybody who was in it can leave once with the
share of the trip, in any order, and the balances cover all that is paid.
-/

namespace MarginLending

/-- What an action answers, if it goes through. -/
def answer? {ε σ α : Type} : EStateM.Result ε σ α → Option α
  | .ok value _ => some value
  | .error _ _ => none

/-- Forgetting the answer of an action does not change where it leads. -/
theorem endState_discard {ε σ α : Type} (action : EStateM ε σ α) (s : σ)
    : endState ((do let _ ← action : EStateM ε σ Unit) s) = endState (action s) := by
  change endState (EStateM.bind action _ s) = _
  unfold EStateM.bind
  cases action s <;> rfl

section Exits

variable {V : Type} [Venue V]

/-- Whom a command pays out in a frozen pool and how much: the caller of a call that goes through.
-/
def Command.exit? (pool : Pool V) : Command V → Option (AccountId × PerAsset Nat)
  | .execute caller request =>
      (answer? (Pool.execute caller request pool)).map fun outcome => (caller, outcome.amounts)
  | .executeCall caller call =>
      (answer? (Pool.executeCall caller call pool)).map fun outcome => (caller, outcome.amounts)
  | _ => none

namespace Pool

variable {pool pool' tripped : Pool V} {account caller : AccountId} {call : Call} {route : Nat}
  {outcome : Outcome} {frozen : Snapshot} {paid : List (AccountId × PerAsset Nat)}

/-- The payments of some commands to a frozen pool, the first one first. -/
def exits (pool : Pool V) : List (Command V) → List (AccountId × PerAsset Nat)
  | [] => []
  | command :: rest => (command.exit? pool).toList ++ exits (endState (command.run pool)) rest

omit [Venue V] in
theorem readBook_bind_apply {α : Type} (f : Book → PoolM V α) (pool : Pool V)
    : (readBook >>= f) pool = f pool.book pool := rfl

-----
-- The way out
-----

/-- In a frozen pool a call that goes through pays the caller its share and removes its position. -/
theorem leaves_executeRouted (emergency : pool.book.mode.isEmergency = true)
    (went : executeRouted caller call route pool = .ok outcome pool')
    : ∃ position, pool.book.position? caller = some position
        ∧ pool.book.shareAtExit caller = .ok outcome.amounts
        ∧ pool.book.Leaves caller position outcome.amounts pool'.book := by
  obtain ⟨acted, dispatched, rfl⟩ := atomically_ok went
  obtain ⟨_, withdrawn⟩ := dispatch_frozen (by exact emergency) dispatched
  obtain ⟨snapshot, position, netValue, amounts, _, _, quotePaid, stored, found, worth, share,
    removes, paysBase, paysQuote, rfl, rfl⟩ := emergencyWithdraw_eq_ok.mp withdrawn
  have leaves := Book.leaves_of_payOut found removes paysBase paysQuote
  refine ⟨position, found, ?_, ?_⟩
  · exact Book.shareAtExit_eq_ok.mpr ⟨snapshot, position, netValue, stored, found, worth, share⟩
  · rw [book_commit]
    exact ⟨⟨leaves.mode, leaves.snapshot⟩, leaves.rates, leaves.sums, leaves.holdings, leaves.paid⟩

/-- In a frozen pool a withdrawal runs as the way out, whoever asks for it. -/
theorem dispatch_emergencyWithdraw (emergency : pool.book.mode.isEmergency = true) (unwrap : Bool)
    : dispatch caller (.emergencyWithdraw unwrap) route pool = emergencyWithdraw caller pool := by
  unfold dispatch
  rw [if_neg (by simp [Call.allowedForFeeHolder])]
  change (if pool.book.mode.isEmergency then _ else _ : PoolM V Outcome) pool = _
  rw [if_pos emergency]

omit [Venue V] in
/-- Whoever has no position has no way out. -/
theorem emergencyWithdraw_of_absent (stored : pool.book.snapshot = some frozen)
    (absent : pool.book.position? caller = none)
    : emergencyWithdraw caller pool = .error (.uninitializedPosition caller) pool := by
  unfold emergencyWithdraw
  rw [readBook_bind_apply]
  simp only [stored, absent]
  rfl

/-- Whoever is still in can leave with the share of the trip. -/
theorem executeRouted_exit (exited : tripped.book.Exited frozen paid pool.book)
    (trips : tripped.book.Tripped frozen) (funded : tripped.book.Funded)
    (consistent : pool.book.Consistent none)
    {position : Position} (found : pool.book.position? account = some position) (unwrap : Bool)
    (route : Nat)
    : ∃ amounts pool', tripped.book.shareAtExit account = .ok amounts
        ∧ executeRouted account (.emergencyWithdraw unwrap) route pool
          = .ok { Outcome.nothing with amounts } pool'
        ∧ pool'.book.position? account = none := by
  have opened : tripped.book.Exited frozen paid pool.book.openJournal :=
    exited.unmoved ⟨⟨rfl, rfl⟩, rfl, rfl⟩
  have foundOpened : pool.book.openJournal.position? account = some position := found
  obtain ⟨amounts, removed, basePaid, quotePaid, share, removes, paysBase, paysQuote⟩ :=
    opened.payable trips funded consistent.openJournal foundOpened
  obtain ⟨snapshot, position', netValue, stored, found', worth, shared⟩ :=
    Book.shareAtExit_eq_ok.mp share
  have emergency : (pool.withBook pool.book.openJournal).book.mode.isEmergency = true := by
    rw [book_withBook, opened.mode]
    exact trips.emergency
  have withdrawn : emergencyWithdraw account (pool.withBook pool.book.openJournal)
      = .ok { Outcome.nothing with amounts } _ :=
    emergencyWithdraw_eq_ok.mpr
      ⟨snapshot, position', netValue, amounts, removed, basePaid, quotePaid,
      stored, found', worth, shared, removes, paysBase, paysQuote, rfl, rfl⟩
  have went : dispatch account (.emergencyWithdraw unwrap) route
      (pool.withBook pool.book.openJournal) = _ :=
    (dispatch_emergencyWithdraw emergency unwrap).trans withdrawn
  refine ⟨amounts, _, ?_, atomically_of_ok went, ?_⟩
  · rw [← opened.shareAtExit_eq trips.stored foundOpened]
    exact share
  · have gone := (Book.leaves_of_payOut foundOpened removes paysBase paysQuote).holdings account
    rw [if_pos rfl, Option.map_eq_none_iff] at gone
    rw [book_commit]
    exact gone

/-- Whoever has no position any more is refused. -/
theorem executeRouted_refused (exited : tripped.book.Exited frozen paid pool.book)
    (trips : tripped.book.Tripped frozen) (absent : pool.book.position? account = none)
    (unwrap : Bool) (route : Nat)
    : ∃ pool', executeRouted account (.emergencyWithdraw unwrap) route pool
        = .error (.uninitializedPosition account) pool' := by
  have stored : (pool.withBook pool.book.openJournal).book.snapshot = some frozen :=
    exited.snapshot.trans trips.stored
  have emergency : (pool.withBook pool.book.openJournal).book.mode.isEmergency = true := by
    change pool.book.mode.isEmergency = true
    rw [exited.mode]
    exact trips.emergency
  have fails : dispatch account (.emergencyWithdraw unwrap) route
      (pool.withBook pool.book.openJournal) = _ :=
    (dispatch_emergencyWithdraw emergency unwrap).trans (emergencyWithdraw_of_absent stored absent)
  exact ⟨_, atomically_eq_error.mpr ⟨_, fails, rfl⟩⟩

-----
-- Commands to a frozen pool
-----

theorem execute_routed {request : Request}
    (executed : execute caller request pool = .ok outcome pool')
    : ∃ call, executeRouted caller call request.route pool = .ok outcome pool' := by
  simp only [execute, EStateM.bind_eq_ok, EStateM.lift_eq_ok] at executed
  obtain ⟨call, _, ⟨_, rfl⟩, executed⟩ := executed
  exact ⟨call, executed⟩

/-- One more call, if it goes through, is one more exit. -/
theorem exited_executeRouted (exited : tripped.book.Exited frozen paid pool.book)
    (trips : tripped.book.Tripped frozen) (funded : tripped.book.Funded)
    (went : executeRouted caller call route pool = .ok outcome pool')
    : tripped.book.Exited frozen (paid ++ [(caller, outcome.amounts)]) pool'.book := by
  have emergency : pool.book.mode.isEmergency = true := by
    rw [exited.mode]
    exact trips.emergency
  obtain ⟨position, found, share, leaves⟩ := leaves_executeRouted emergency went
  exact exited.leave trips funded found share leaves

omit [Venue V] in
/-- A command that fails leaves no trace in the book. -/
theorem exited_of_error (exited : tripped.book.Exited frozen paid pool.book)
    (restored : pool' = pool.withVenue pool'.venue)
    : tripped.book.Exited frozen (paid ++ []) pool'.book := by
  rw [restored, List.append_nil]
  exact exited

/-- One more command, whatever it is and however it ends. -/
theorem exited_run (exited : tripped.book.Exited frozen paid pool.book)
    (trips : tripped.book.Tripped frozen) (funded : tripped.book.Funded) (idle : pool.Idle)
    (command : Command V)
    : tripped.book.Exited frozen (paid ++ (command.exit? pool).toList)
        (endState (command.run pool)).book := by
  have emergency : pool.book.mode.isEmergency = true := by
    rw [exited.mode]
    exact trips.emergency
  have same : tripped.book.Exited frozen (paid ++ []) pool.book := by
    rw [List.append_nil]
    exact exited
  cases command with
  | execute caller request =>
      rw [Command.exit?, Command.run, endState_discard]
      cases result : Pool.execute caller request pool with
      | ok outcome pool' =>
          obtain ⟨_, went⟩ := execute_routed result
          exact exited_executeRouted exited trips funded went
      | error error pool' => exact exited_of_error exited (execute_error idle result)
  | executeCall caller call =>
      rw [Command.exit?, Command.run, endState_discard]
      cases result : Pool.executeCall caller call pool with
      | ok outcome pool' => exact exited_executeRouted exited trips funded result
      | error error pool' => exact exited_of_error exited (executeRouted_error idle result)
  | setParameters caller parameters =>
      change tripped.book.Exited frozen (paid ++ [])
        (endState (Pool.setParameters caller parameters pool)).book
      cases result : Pool.setParameters caller parameters pool with
      | ok value pool' =>
          obtain ⟨price, _, _, _, accrues, _, rfl⟩ := setParameters_ok result
          have opened : pool.book.openJournal.mode.isEmergency = true := emergency
          rw [Book.accrue_of_frozen opened, EStateM.Result.ok.injEq] at accrues
          obtain ⟨_, rfl⟩ := accrues
          refine same.unmoved ?_
          change pool.book.Unmoved (Pool.commit _).book
          rw [book_commit]
          exact ⟨⟨rfl, rfl⟩, rfl, rfl⟩
      | error error pool' => exact exited_of_error exited (setParameters_error idle result)
  | shutDown caller =>
      rw [Command.run, endState_discard]
      change tripped.book.Exited frozen (paid ++ []) (endState (Pool.shutDown caller pool)).book
      cases result : Pool.shutDown caller pool with
      | ok value pool' =>
          rw [(shutDown_ok result).1] at emergency
          cases emergency
      | error error pool' => exact exited_of_error exited (shutDown_error idle result)
  | setTime time => exact same.unmoved ⟨⟨rfl, rfl⟩, rfl, rfl⟩
  | changeVenue venue => exact same.unmoved ⟨⟨rfl, rfl⟩, rfl, rfl⟩

/-- Any commands, one after the other, by induction on the list. -/
theorem exited_after (exited : tripped.book.Exited frozen paid pool.book)
    (trips : tripped.book.Tripped frozen) (funded : tripped.book.Funded) (sound : pool.Sound)
    (commands : List (Command V))
    : tripped.book.Exited frozen (paid ++ exits pool commands) (pool.after commands).book := by
  induction commands generalizing pool paid with
  | nil =>
      rw [exits, List.append_nil]
      exact exited
  | cons command rest ih =>
      rw [exits, ← List.append_assoc]
      exact ih (exited_run exited trips funded sound.idle command) (sound.run command)

-----
-- Everybody can leave
-----

/-- What holds after any commands to a pool that has tripped. The share of an account at the trip,
which does not depend on who left before, is what it was paid or can still get.
-/
structure Orderly (tripped : Pool V) (frozen : Snapshot) (commands : List (Command V)) : Prop where
  mode : (tripped.after commands).book.mode = tripped.book.mode
  snapshot : (tripped.after commands).book.snapshot = some frozen
  once : ((exits tripped commands).map Prod.fst).Nodup
  shares : ∀ exit ∈ exits tripped commands, tripped.book.shareAtExit exit.1 = .ok exit.2
  left
    : ∀ account, account ∈ (exits tripped commands).map Prod.fst
        ↔ (tripped.book.position? account).isSome
          ∧ (tripped.after commands).book.position? account = none
  canLeave
    : ∀ account, ((tripped.after commands).book.position? account).isSome →
        ∀ unwrap route, ∃ amounts pool', tripped.book.shareAtExit account = .ok amounts
          ∧ executeRouted account (.emergencyWithdraw unwrap) route (tripped.after commands)
            = .ok { Outcome.nothing with amounts } pool'
          ∧ pool'.book.position? account = none
  refused
    : ∀ account, (tripped.after commands).book.position? account = none →
        ∀ unwrap route, ∃ pool',
          executeRouted account (.emergencyWithdraw unwrap) route (tripped.after commands)
            = .error (.uninitializedPosition account) pool'
  payable
    : ∀ asset, ((exits tripped commands).map fun exit => exit.2.get asset).sum
        ≤ frozen.balances.get asset

/-- What the exits keep up makes any commands orderly. -/
theorem orderly_after {worths : List Nat} (trips : tripped.book.Tripped frozen)
    (funded : tripped.book.Funded) (sound : tripped.Sound)
    (known : tripped.book.positions.values.mapM (fun position =>
      tripped.book.netValue position frozen.price) = .ok worths)
    (small : worths.sum < amountLimit) (soundAfter : ∀ commands, (tripped.after commands).Sound)
    (commands : List (Command V))
    : Orderly tripped frozen commands := by
  have exited := exited_after (trips.exited known small) trips funded sound commands
  rw [List.nil_append] at exited
  refine ⟨exited.mode, exited.snapshot.trans trips.stored, exited.once, exited.shares, ?_, ?_, ?_,
    ?_⟩
  · intro account
    have held := exited.holdings account
    constructor
    · intro member
      rw [if_pos member, Option.map_eq_none_iff] at held
      obtain ⟨exit, paid, rfl⟩ := List.mem_map.mp member
      obtain ⟨_, position, _, _, found, _⟩ := Book.shareAtExit_eq_ok.mp (exited.shares exit paid)
      exact ⟨Option.isSome_iff_exists.mpr ⟨position, found⟩, held⟩
    · rintro ⟨isSome, absent⟩
      by_contra staying
      rw [if_neg staying, absent, Option.map_none, eq_comm, Option.map_eq_none_iff] at held
      rw [held] at isSome
      cases isSome
  · intro account isSome unwrap route
    obtain ⟨position, found⟩ := Option.isSome_iff_exists.mp isSome
    exact executeRouted_exit exited trips funded (soundAfter commands).consistent found unwrap route
  · intro account absent unwrap route
    exact executeRouted_refused exited trips absent unwrap route
  · intro asset
    have spent := exited.spent asset
    omega

/-- Whatever command trips a reachable pool, the worth of everybody's position is known there; and
if it adds up to an amount, then any commands that follow are orderly: the pool stays frozen,
whoever had a position can leave exactly once, for a share that was fixed at the trip, and what is
paid in all stays within the balances of the snapshot.
-/
theorem exits_are_orderly (reachable : Reachable pool)
    (regular : pool.book.mode.isEmergency = false) {command : Command V}
    (led : endState (command.run pool) = tripped)
    (emergency : tripped.book.mode.isEmergency = true)
    : ∃ frozen worths, tripped.book.Tripped frozen
        ∧ tripped.book.positions.values.mapM (fun position =>
            tripped.book.netValue position frozen.price) = .ok worths
        ∧ (worths.sum < amountLimit → ∀ commands, Orderly tripped frozen commands) := by
  have fresh := fresh_run reachable.sound.idle regular command
  rw [led] at fresh
  obtain ⟨frozen, trips⟩ := fresh emergency
  obtain ⟨worths, known, _⟩ := trips.worths
  have later : Reachable tripped := led ▸ reachable.run command
  exact ⟨frozen, worths, trips, known,
    fun small => orderly_after trips later.funded later.sound known
    small fun commands => (later.after commands).sound⟩

/-- Two lenders lend base and a trader sells some of it short. Its price rises tenfold. -/
def corneredTrades : List (Command SimulatedVenue) :=
  [.executeCall ⟨10⟩ (.depositBase 10000 0 .zero none),
    .executeCall ⟨11⟩ (.depositBase 5000 0 .zero none),
    .executeCall ⟨20⟩ (.depositQuote 1000 2000 .zero none),
    .changeVenue { sample.venue with price := .ofNat 10 },
    .setTime ⟨1⟩]

/-- What the trader owes cannot be bought back, and nobody else can bear it. -/
def cornered : Pool SimulatedVenue :=
  endState ((Command.executeCall ⟨99⟩ .reinit).run (sample.after corneredTrades))

/-- The second lender leaves, and tries again at another price. Then the first one leaves. -/
def corneredExits : List (Command SimulatedVenue) :=
  [.executeCall ⟨11⟩ (.emergencyWithdraw false),
    .setParameters ⟨1⟩ .conservative,
    .changeVenue { sample.venue with price := .ofNat 3 },
    .executeCall ⟨11⟩ (.emergencyWithdraw false),
    .setTime ⟨5⟩,
    .executeCall ⟨10⟩ (.emergencyWithdraw false)]

theorem exits_are_orderly_cornered
    : ∃ frozen, Orderly cornered frozen corneredExits
        ∧ exits cornered corneredExits = [(⟨11⟩, ⟨4433, 0⟩), (⟨10⟩, ⟨8866, 0⟩)] := by
  have regular : (sample.after corneredTrades).book.mode.isEmergency = false := by decide +kernel
  have emergency : cornered.book.mode.isEmergency = true := by decide +kernel
  have led : endState ((Command.executeCall ⟨99⟩ .reinit).run (sample.after corneredTrades))
      = cornered := rfl
  obtain ⟨frozen, worths, trips, known, orderly⟩ :=
    exits_are_orderly (reachable_sample.after corneredTrades) regular led emergency
  have snapshot : cornered.book.snapshot
      = some ⟨.shortEmergency, .ofNat 10, ⟨13300, 0⟩, 150000⟩ := by decide +kernel
  obtain rfl := Option.some.inj (trips.stored.symm.trans snapshot)
  have sum : cornered.book.positions.values.mapM (fun position =>
      cornered.book.netValue position (.ofNat 10)) = .ok [100000, 50000] := by decide +kernel
  obtain rfl := Except.ok.inj (known.symm.trans sum)
  exact ⟨_, orderly (by decide) corneredExits, by decide +kernel⟩

end Pool

end Exits

end MarginLending
