import MarginLending.Proofs.Pool.Entries
import MarginLending.Proofs.Pool.Guarantees
import MarginLending.Proofs.Pool.Recording
import MarginLending.Proofs.Pool.Runs

/-!
Every token is accounted for. What a call changes about a balance is what its operation brings in,
less what it pays out, and what the venue's fills gave less what they took, those of liquidations
included. A call that is cut short brings in nothing and pays out nothing.
-/

namespace MarginLending

namespace Call

/-- What a call brings in of its own: the amount of a deposit, or both amounts of a takeover. -/
def brought : Call → PerAsset Nat
  | .depositBase amount _ _ _ => Pool.amountsIn .base amount
  | .depositQuote amount _ _ _ => Pool.amountsIn .quote amount
  | .receivePosition _ quoteAmount baseAmount => ⟨baseAmount, quoteAmount⟩
  | _ => .both 0

/-- What a call pays out of its own, given the amounts that it reports: that of a withdrawal, or
both amounts of the way out.
-/
def paid (amounts : PerAsset Nat) : Call → PerAsset Nat
  | .withdrawBase amount _ => Pool.withdrawn .base amount amounts
  | .withdrawQuote amount _ => Pool.withdrawn .quote amount amounts
  | .emergencyWithdraw .. => amounts
  | _ => .both 0

end Call

namespace Pool

/-- A call is cut short when its caller is margin called in it or the pool freezes in it. -/
def CutShort {V : Type} (pool : Pool V) (outcome : Outcome) (pool' : Pool V) : Prop :=
  outcome.marginCalled = true
    ∨ pool.book.mode.isEmergency = false ∧ pool'.book.mode.isEmergency = true

instance {V : Type} (pool : Pool V) (outcome : Outcome) (pool' : Pool V)
    : Decidable (CutShort pool outcome pool') :=
  inferInstanceAs (Decidable (_ ∨ _))

/-- What a call moves of its own: what it brings in less what it pays out, unless it is cut short.
-/
def ownTerms {V : Type} (call : Call) (pool : Pool V) (outcome : Outcome) (pool' : Pool V)
    (asset : Asset)
    : Int :=
  if CutShort pool outcome pool' then 0
  else (call.brought.get asset : Int) - (call.paid outcome.amounts).get asset

/-- A run with a recorder ends as the run without it, its log has every fill that the venue counted,
and together with what the run moved of its own the log accounts for what became of every balance.
-/
structure Conserves {α : Type} (pool : Pool SimulatedVenue)
    (run : EStateM.Result PoolError (Pool ScriptedVenue) α) (a : α) (pool' : Pool SimulatedVenue)
    (own : Asset → Int) (recorded : Pool ScriptedVenue)
    : Prop where
  ran : run = .ok a recorded
  same : recorded.withoutRecorder = pool'
  complete : pool'.venue.swapsExecuted
    = pool.venue.swapsExecuted + (recorded.venue.log.filter SwapRecord.isFilled).length
  balance : ∀ asset, ((pool'.book.ledger asset).balance : Int) - (pool.book.ledger asset).balance
    = own asset + SwapRecord.totalReceived recorded.venue.log asset
      - SwapRecord.totalSpent recorded.venue.log asset

-----
-- An operation does not report a margin call
-----

section Uncalled

variable {V : Type} (terms : Terms) (account : AccountId)

/-- Whatever an action reports, it is not that the caller was margin called. -/
def Uncalled (action : PoolM V Outcome) : Prop :=
  ∀ ⦃pool outcome pool'⦄, action pool = .ok outcome pool' → outcome.marginCalled = false

theorem Uncalled.pure {outcome : Outcome} (uncalled : outcome.marginCalled = false)
    : Uncalled (Pure.pure outcome : PoolM V Outcome) := by
  intro _ _ _ went
  rwa [← (EStateM.pure_eq_ok.mp went).1]

theorem Uncalled.throw (e : PoolError) : Uncalled (MonadExcept.throw e : PoolM V Outcome) :=
  fun _ _ _ went => (EStateM.throw_eq_ok.mp went).elim

theorem Uncalled.bind {α : Type} {x : PoolM V α} {f : α → PoolM V Outcome}
    (second : ∀ a, Uncalled (f a))
    : Uncalled (x >>= f) := by
  intro _ _ _ went
  obtain ⟨a, _, _, went⟩ := EStateM.bind_eq_ok.mp went
  exact second a went

theorem Uncalled.bind_uncalled {x : PoolM V Outcome} {f : Outcome → PoolM V Outcome}
    (first : Uncalled x) (second : ∀ outcome, outcome.marginCalled = false → Uncalled (f outcome))
    : Uncalled (x >>= f) := by
  intro _ _ _ went
  obtain ⟨outcome, _, wentFirst, wentSecond⟩ := EStateM.bind_eq_ok.mp went
  exact second outcome (first wentFirst) wentSecond

theorem uncalled_short [Venue V] (amount : Nat) (limitPrice : Q96)
    : Uncalled (short terms account amount limitPrice : PoolM V Outcome) := by
  unfold short shortBy
  repeat' refine .bind fun _ => ?_
  exact .pure rfl

theorem uncalled_long [Venue V] (amount : Nat) (limitPrice : Q96)
    : Uncalled (long terms account amount limitPrice : PoolM V Outcome) := by
  unfold long longBy
  repeat' refine .bind fun _ => ?_
  exact .pure rfl

theorem uncalled_closePosition [Venue V] (limitPrice : Q96)
    : Uncalled (closePosition terms limitPrice : PoolM V Outcome) := by
  unfold closePosition
  repeat' refine .bind fun _ => ?_
  exact .pure rfl

theorem uncalled_sellCollateral [Venue V] (amount : Nat) (limitPrice : Q96)
    : Uncalled (sellCollateral terms amount limitPrice : PoolM V Outcome) := by
  unfold sellCollateral
  simp only
  split
  · exact .throw _
  · refine .bind fun _ => .bind fun _ => .bind fun _ => ?_
    split
    · exact .throw _
    · repeat' refine .bind fun _ => ?_
      exact .pure rfl

/-- A deposit reports what the trade behind it reports, but for the amounts. -/
theorem uncalled_deposit [Venue V] (asset : Asset) (amount leveraged : Nat) (limitPrice : Q96)
    (owner : Option AccountId)
    : Uncalled (deposit terms asset amount leveraged limitPrice owner : PoolM V Outcome) := by
  unfold deposit depositBy
  simp only
  split
  · exact .throw _
  · refine .bind fun _ => .bind fun _ => ?_
    split
    · cases asset with
      | base =>
          exact .bind_uncalled (uncalled_long ..) fun _ uncalled =>
            .bind fun _ => .bind fun _ => .pure uncalled
      | quote =>
          exact .bind_uncalled (uncalled_short ..) fun _ uncalled =>
            .bind fun _ => .bind fun _ => .pure uncalled
    · exact .bind fun _ => .pure rfl

theorem uncalled_withdraw (asset : Asset) (amount : Nat)
    : Uncalled (withdraw terms asset amount : PoolM V Outcome) := by
  unfold withdraw withdrawBy
  simp only
  split
  · exact .throw _
  · refine .bind fun _ => .bind fun _ => .bind fun _ => ?_
    split
    · exact .throw _
    · refine .bind fun _ => ?_
      split
      · exact .throw _
      · repeat' refine .bind fun _ => ?_
        exact .pure rfl

theorem uncalled_takeOver (badAccount : AccountId) (quoteAmount baseAmount : Nat)
    : Uncalled (takeOver terms badAccount quoteAmount baseAmount : PoolM V Outcome) := by
  unfold takeOver
  refine .bind fun _ => ?_
  simp only
  split
  · exact .throw _
  · repeat' refine .bind fun _ => ?_
    exact .pure rfl

theorem uncalled_operate [Venue V] (call : Call)
    : Uncalled (operate terms call : PoolM V Outcome) := by
  cases call with
  | depositBase => exact uncalled_deposit ..
  | depositQuote => exact uncalled_deposit ..
  | withdrawBase => exact uncalled_withdraw ..
  | withdrawQuote => exact uncalled_withdraw ..
  | short => exact uncalled_short ..
  | long => exact uncalled_long ..
  | closePosition => exact uncalled_closePosition ..
  | sellCollateral => exact uncalled_sellCollateral ..
  | reinit => exact .bind fun _ => .pure rfl
  | receivePosition => exact uncalled_takeOver ..
  | emergencyWithdraw => exact .throw _

theorem uncalled_emergencyWithdraw
    : Uncalled (emergencyWithdraw account : PoolM V Outcome) := by
  intro _ _ _ withdrawn
  obtain ⟨_, _, _, _, _, _, _, _, _, _, _, _, _, _, rfl, _⟩ := emergencyWithdraw_eq_ok.mp withdrawn
  rfl

end Uncalled

/-- An operation moves the tokens that it brings in and pays out, and those of its fills. -/
theorem recorded_operate (terms : Terms) (call : Call)
    : Recorded (operate terms call) (operate terms call) fun outcome side =>
        (call.brought.get side : Int) - (call.paid outcome.amounts).get side := by
  cases call with
  | depositBase amount longAmount limitPrice owner =>
      exact (recorded_deposit ..).congr fun _ _ => by simp [Call.brought, Call.paid]
  | depositQuote amount shortAmount limitPrice owner =>
      exact (recorded_deposit ..).congr fun _ _ => by simp [Call.brought, Call.paid]
  | withdrawBase amount unwrap =>
      exact (recorded_withdraw ..).congr fun _ _ => by simp [Call.brought, Call.paid]
  | withdrawQuote amount unwrap =>
      exact (recorded_withdraw ..).congr fun _ _ => by simp [Call.brought, Call.paid]
  | short amount limitPrice =>
      exact (recorded_short ..).congr fun _ _ => by simp [Call.brought, Call.paid]
  | long amount limitPrice =>
      exact (recorded_long ..).congr fun _ _ => by simp [Call.brought, Call.paid]
  | closePosition limitPrice =>
      exact (recorded_closePosition ..).congr fun _ _ => by simp [Call.brought, Call.paid]
  | sellCollateral amount limitPrice =>
      exact (recorded_sellCollateral ..).congr fun _ _ => by simp [Call.brought, Call.paid]
  | reinit => exact .readBook_bind fun _ => .pure fun _ => by simp [Call.brought, Call.paid]
  | receivePosition badAccount quoteAmount baseAmount =>
      exact (recorded_takeOver ..).congr fun _ _ => by simp [Call.brought, Call.paid]
  | emergencyWithdraw unwrap => exact .throw _

-----
-- Entry points with a recorder
-----

section EntryPoints

variable {α : Type} {x : PoolM ScriptedVenue α} {y : PoolM SimulatedVenue α}
  {net : α → Asset → Int} {pool pool' : Pool ScriptedVenue}

theorem withoutRecorder_foldl_emit (payloads : List EventPayload) (pool : Pool ScriptedVenue)
    : (payloads.foldl emit pool).withoutRecorder = payloads.foldl emit pool.withoutRecorder := by
  induction payloads generalizing pool with
  | nil => rfl
  | cons payload rest ih => exact ih (pool.emit payload)

theorem withoutRecorder_commit (pool : Pool ScriptedVenue)
    : pool.commit.withoutRecorder = pool.withoutRecorder.commit :=
  withoutRecorder_foldl_emit ..

/-- Closing the journal moves no token. -/
theorem unswapped_commit (pool : Pool ScriptedVenue) (asset : Asset)
    : pool.commit.unswapped asset = pool.unswapped asset := by
  simp only [unswapped, book_commit, venue_commit]
  rfl

theorem Mirrors.atomically (mirrors : Mirrors x y) : Mirrors (atomically x) (atomically y) := by
  constructor
  · intro _ pool a pool' plain went
    obtain ⟨acted, acts, rfl⟩ := atomically_ok went
    obtain ⟨plainActed, same⟩ := mirrors.ok (by exact plain) acts
    rw [withoutRecorder_commit, venue_commit]
    exact ⟨plainActed, atomically_of_ok same⟩
  · intro _ pool e pool' plain failed
    obtain ⟨acted, fails, rfl⟩ := atomically_eq_error.mp failed
    obtain ⟨plainActed, same⟩ := mirrors.error (by exact plain) fails
    exact ⟨plainActed, atomically_eq_error.mpr ⟨_, same, rfl⟩⟩

theorem Recorded.atomically (recorded : Recorded x y net)
    : Recorded (atomically x) (atomically y) net where
  toMirrors := recorded.toMirrors.atomically
  nets := by
    intro _ pool a pool' plain went asset
    obtain ⟨acted, acts, rfl⟩ := atomically_ok went
    rw [unswapped_commit]
    exact recorded.nets (by exact plain) acts asset

/-- An action that goes through without a recorder goes through with one, and is accounted for by
what it moves of its own.
-/
theorem Mirrors.conserves (mirrors : Mirrors x y) {pool pool' : Pool SimulatedVenue} {a : α}
    {own : Asset → Int}
    (moved : ∀ {recorded : Pool ScriptedVenue}, x pool.withRecorder = .ok a recorded →
      recorded.withoutRecorder = pool' →
      ∀ asset, recorded.unswapped asset = pool.withRecorder.unswapped asset + own asset)
    (went : y pool = .ok a pool')
    : ∃ recorded, Conserves pool (x pool.withRecorder) a pool' own recorded := by
  have plain : pool.withRecorder.venue.Plain pool.venue.swapsExecuted :=
    ScriptedVenue.plain_recording pool.venue
  cases result : x pool.withRecorder with
  | error e recorded =>
      obtain ⟨_, same⟩ := mirrors.error plain result
      cases went.symm.trans same
  | ok b recorded =>
      obtain ⟨plainLast, same⟩ := mirrors.ok plain result
      cases went.symm.trans same
      refine ⟨recorded, rfl, rfl, plainLast.counted, fun asset => ?_⟩
      have moved := moved result rfl asset
      have empty : pool.withRecorder.unswapped asset = (pool.book.ledger asset).balance := by
        simp [unswapped, withRecorder, ScriptedVenue.recording, SwapRecord.totalSpent,
          SwapRecord.totalReceived]
      rw [empty] at moved
      simp only [unswapped] at moved
      simp only [withoutRecorder]
      omega

theorem Recorded.conserves {own : Asset → Int} (recorded : Recorded x y fun _ => own)
    {pool pool' : Pool SimulatedVenue} {a : α} (went : y pool = .ok a pool')
    : ∃ recorded, Conserves pool (x pool.withRecorder) a pool' own recorded :=
  recorded.toMirrors.conserves
    (fun ran _ => recorded.nets (ScriptedVenue.plain_recording pool.venue) ran) went

theorem recorded_readPrice : Recorded readPrice readPrice fun _ _ => 0 where
  toMirrors := mirrors_readPrice
  nets := by
    intro _ pool _ pool' _ went asset
    obtain ⟨_, rfl⟩ := EStateM.lift_eq_ok.mp went
    exact (Int.add_zero _).symm

theorem recorded_startTerms (caller : AccountId) (route : Nat)
    : Recorded (startTerms caller route) (startTerms caller route) fun _ _ => 0 :=
  .step_bind recorded_readPrice fun _ => .get_bind fun _ => .pure fun _ => rfl

/-- Freezing an insolvent pool moves tokens by the fills of the liquidations before it. -/
theorem recorded_shutDown (caller : AccountId)
    : Recorded (shutDown caller) (shutDown caller) fun _ _ => 0 := by
  refine .atomically (.readBook_bind fun _ => ?_)
  split
  · exact .throw _
  · refine .step_bind (recorded_startTerms ..) fun _ => ?_
    refine .step_bind (recorded_bringUpToDate ..) fun _ => .readBook_bind fun _ => ?_
    split
    · exact .pure fun _ => rfl
    · refine .lift_bind fun side => ?_
      cases side with
      | some asset =>
          exact .step_bind (recorded_freeze ..) fun _ => .readBook_bind fun _ => .pure fun _ => rfl
      | none => exact .throw _

/-- Setting the parameters moves no token. -/
theorem recorded_setParameters (caller : AccountId) (parameters : Parameters)
    : Recorded (setParameters caller parameters) (setParameters caller parameters)
        fun _ _ => 0 := by
  unfold setParameters
  refine .get_bind fun pool => ?_
  simp only [withoutRecorder]
  split
  · exact .throw _
  · cases parameters.violation? with
    | some error => exact .throw _
    | none =>
        simp only
        have replaces : Book.KeepsBalances
            (modify fun book => { book with parameters } : BookM Unit) :=
          Book.keepsBalances_modify fun _ _ => rfl
        refine .atomically (.readBook_bind fun _ => ?_)
        split
        · refine .step_bind recorded_readPrice fun _ => .get_bind fun _ => ?_
          refine .liftBook_bind Book.keepsBalances_accrue fun _ => ?_
          exact .liftBook_bind replaces fun _ => .record _
        · exact .liftBook_bind replaces fun _ => .record _

theorem mirrors_runRegular (caller : AccountId) (call : Call) (route : Nat)
    : Mirrors (runRegular caller call route) (runRegular caller call route) := by
  refine (recorded_startTerms ..).toMirrors.bind fun _ => ?_
  refine (recorded_bringUpToDate _).toMirrors.bind fun _ => mirrors_readBook_bind fun _ => ?_
  split
  · exact .pure _
  · exact (recorded_operate ..).toMirrors

theorem mirrors_dispatch (caller : AccountId) (call : Call) (route : Nat)
    : Mirrors (dispatch caller call route) (dispatch caller call route) := by
  unfold dispatch
  simp only
  split
  · exact .throw _
  · refine mirrors_readBook_bind fun _ => ?_
    split
    · cases call with
      | emergencyWithdraw unwrap => exact (recorded_emergencyWithdraw _).toMirrors
      | _ => exact .throw _
    · exact mirrors_runRegular ..

/-- A call moves what it brings in and pays out, unless it is cut short, and what its fills move. -/
theorem unswapped_dispatch {caller : AccountId} {call : Call} {route : Nat} {outcome : Outcome}
    {count : Nat} (plain : pool.venue.Plain count)
    (dispatched : dispatch caller call route pool = .ok outcome pool')
    (asset : Asset)
    : pool'.unswapped asset = pool.unswapped asset + ownTerms call pool outcome pool' asset := by
  cases mode : pool.book.mode.isEmergency with
  | true =>
      obtain ⟨⟨unwrap, rfl⟩, withdrawn⟩ := dispatch_frozen mode dispatched
      have moved := (recorded_emergencyWithdraw caller).nets plain withdrawn asset
      have whole : ¬CutShort pool outcome pool' := by
        simp [CutShort, uncalled_emergencyWithdraw caller withdrawn, mode]
      rw [moved, ownTerms, if_neg whole]
      simp [Call.brought, Call.paid]
  | false =>
      obtain ⟨_, ran⟩ := dispatch_regular mode dispatched
      obtain ⟨terms, marginCalled, middle, ⟨rfl, _⟩, updated, ending⟩ := runRegular_ok ran
      have swept := (recorded_bringUpToDate terms).nets plain updated asset
      have plainMiddle := ((recorded_bringUpToDate terms).ok plain updated).1
      rcases ending with ⟨stops, rfl, rfl⟩ | ⟨rfl, regularMiddle, operated⟩
      · have short : CutShort pool { Outcome.nothing with marginCalled } pool' :=
          stops.imp id fun froze => ⟨mode, froze⟩
        rw [swept, ownTerms, if_pos short]
      · have moved := (recorded_operate terms call).nets plainMiddle operated asset
        have regular : pool'.book.mode.isEmergency = false := by
          rw [(entries_operate operated).steady.mode, regularMiddle]
        have whole : ¬CutShort pool outcome pool' := by
          simp [CutShort, uncalled_operate terms call operated, regular]
        rw [moved, swept, ownTerms, if_neg whole, Int.add_zero]

/-- A call that goes through is accounted for by what it moves of its own and by its fills. -/
theorem conserves_executeRouted {caller : AccountId} {call : Call} {route : Nat} {outcome : Outcome}
    {pool pool' : Pool SimulatedVenue}
    (executed : executeRouted caller call route pool = .ok outcome pool')
    : ∃ recorded, Conserves pool (executeRouted caller call route pool.withRecorder) outcome pool'
        (ownTerms call pool outcome pool') recorded := by
  refine (mirrors_dispatch caller call route).atomically.conserves ?_ executed
  rintro recorded ran rfl asset
  obtain ⟨acted, acts, rfl⟩ := atomically_ok ran
  have moved := unswapped_dispatch (ScriptedVenue.plain_recording pool.venue) acts asset
  have same : ownTerms call (pool.withRecorder.withBook pool.withRecorder.book.openJournal) outcome
      acted = ownTerms call pool outcome acted.commit.withoutRecorder := by
    funext side
    simp only [ownTerms, CutShort, withoutRecorder, book_commit]
    rfl
  rw [unswapped_commit, moved, same]
  rfl

theorem conserves_execute {caller : AccountId} {request : Request} {outcome : Outcome}
    {pool pool' : Pool SimulatedVenue} (executed : execute caller request pool = .ok outcome pool')
    : ∃ call recorded, Call.ofRequest request = .ok call
        ∧ Conserves pool (execute caller request pool.withRecorder) outcome pool'
          (ownTerms call pool outcome pool') recorded := by
  unfold execute at executed ⊢
  obtain ⟨call, _, lifted, executed⟩ := EStateM.bind_eq_ok.mp executed
  obtain ⟨turned, rfl⟩ := EStateM.lift_eq_ok.mp lifted
  obtain ⟨recorded, conserves⟩ := conserves_executeRouted executed
  rw [turned]
  exact ⟨call, recorded, rfl, conserves⟩

end EntryPoints

/-- Every token of a call that goes through is accounted for. The same call with a recorder in front
of the venue ends the same way, and each balance changes by what the operation brings in less what
it pays out, nothing if the call is cut short, plus what the fills on the recorder's log gave, less
what they took. A change of the parameters and a shutdown bring in and pay out nothing.
-/
theorem balances_account_for_fills (pool : Pool SimulatedVenue) (caller : AccountId)
    : (∀ call route outcome pool', executeRouted caller call route pool = .ok outcome pool' →
        ∃ recorded, Conserves pool (executeRouted caller call route pool.withRecorder) outcome pool'
          (ownTerms call pool outcome pool') recorded)
      ∧ (∀ request outcome pool', execute caller request pool = .ok outcome pool' →
        ∃ call recorded, Call.ofRequest request = .ok call
          ∧ Conserves pool (execute caller request pool.withRecorder) outcome pool'
            (ownTerms call pool outcome pool') recorded)
      ∧ (∀ parameters pool', setParameters caller parameters pool = .ok () pool' →
        ∃ recorded, Conserves pool (setParameters caller parameters pool.withRecorder) () pool'
          (fun _ => 0) recorded)
      ∧ ∀ mode pool', shutDown caller pool = .ok mode pool' →
        ∃ recorded, Conserves pool (shutDown caller pool.withRecorder) mode pool'
          (fun _ => 0) recorded := by
  refine ⟨?_, ?_, ?_, ?_⟩
  · intro call route outcome pool' executed
    exact conserves_executeRouted executed
  · intro request outcome pool' executed
    exact conserves_execute executed
  · intro parameters pool' set
    exact (recorded_setParameters caller parameters).conserves set
  · intro mode pool' shut
    exact (recorded_shutDown caller).conserves shut

/-- The sample trades, after which base is dearer by an eighth, so that one of the traders is due.
-/
def dearer : Pool SimulatedVenue :=
  sample.after (sampleTrades ++ [.changeVenue { sample.venue with price := ⟨Q96.unit * 9 / 8⟩ }])

/-- A deposit of 1000 with a long of 500 behind it. The log has two fills, that of the liquidation
and that of the long, which bring in 4500.
-/
theorem balances_account_for_fills_dearer
    : let pool' :=
        endState (executeRouted ⟨22⟩ (.depositBase 1000 500 ⟨2 * Q96.unit⟩ none) 0 dearer)
      (dearer.book.ledger .base).balance = 4000 ∧ (pool'.book.ledger .base).balance = 9500
        ∧ ∃ recorded : Pool ScriptedVenue, recorded.withoutRecorder = pool'
          ∧ (recorded.venue.log.filter SwapRecord.isFilled).length = 2
          ∧ SwapRecord.totalReceived recorded.venue.log .base
            = 4500 + SwapRecord.totalSpent recorded.venue.log .base := by
  intro pool'
  have went : executeRouted ⟨22⟩ (.depositBase 1000 500 ⟨2 * Q96.unit⟩ none) 0 dearer
      = .ok ⟨⟨1500, 562⟩, 1, false⟩ pool' := by decide +kernel
  have before : (dearer.book.ledger .base).balance = 4000 := by decide +kernel
  have after : (pool'.book.ledger .base).balance = 9500 := by decide +kernel
  have fills : pool'.venue.swapsExecuted = 2 ∧ dearer.venue.swapsExecuted = 0 := by decide +kernel
  have own
      : ownTerms (.depositBase 1000 500 ⟨2 * Q96.unit⟩ none) dearer ⟨⟨1500, 562⟩, 1, false⟩ pool'
          .base = 1000 := by
    decide +kernel
  obtain ⟨recorded, _, same, complete, balance⟩ :=
    (balances_account_for_fills dearer ⟨22⟩).1 _ _ _ _ went
  have balance := balance .base
  refine ⟨before, after, recorded, same, ?_, ?_⟩
  · omega
  · omega

end Pool

end MarginLending
