import MarginLending.Proofs.Pool.Liquidations
import MarginLending.Proofs.Pool.Writes

/-!
The calls of a pool and the pools they lead to. A reachable pool comes out of a new one by any
commands, those that fail included, while the clock and the venue change at will in between.
-/

namespace MarginLending

/-- What may happen to a pool: one of its entry points is called, or its clock or its venue changes.
-/
inductive Command (V : Type) where
  | execute (caller : AccountId) (request : Request)
  | executeCall (caller : AccountId) (call : Call)
  | setParameters (caller : AccountId) (parameters : Parameters)
  | shutDown (caller : AccountId)
  | setTime (time : Timestamp)
  | changeVenue (venue : V)

/-- The action of a command. -/
def Command.run {V : Type} [Venue V] : Command V → PoolM V Unit
  | .execute caller request => do let _ ← Pool.execute caller request
  | .executeCall caller call => do let _ ← Pool.executeCall caller call
  | .setParameters caller parameters => Pool.setParameters caller parameters
  | .shutDown caller => do let _ ← Pool.shutDown caller
  | .setTime time => modify fun pool => pool.setTime time
  | .changeVenue venue => modify fun pool => pool.withVenue venue

namespace Pool

section Calls

variable {V : Type} [Venue V] {pool pool' : Pool V} {terms : Terms}

/-- A pool that commands lead to from a new one, whether they go through or fail. -/
inductive Reachable : Pool V → Prop
  | new {options : PoolOptions} {parameters : Parameters} {venue : V} {start : Timestamp}
      {pool : Pool V} (created : Pool.new options parameters venue start = .ok pool)
    : Reachable pool
  | run {pool : Pool V} (before : Reachable pool) (command : Command V)
    : Reachable (endState (command.run pool))

/-- A new pool has valid parameters and an empty book. -/
theorem new_ok {V : Type} {options : PoolOptions} {parameters : Parameters} {venue : V}
    {start : Timestamp} {pool : Pool V}
    (created : Pool.new options parameters venue start = .ok pool)
    : parameters.violation? = none ∧ pool.book = .new parameters start ∧ pool.pending = [] := by
  unfold Pool.new Parameters.validate at created
  cases violated : parameters.violation? with
  | some error => simp [violated] at created
  | none =>
      simp only [violated, Except.ok.injEq] at created
      subst created
      exact ⟨rfl, rfl, rfl⟩

/-- The terms of a call on a pool are its caller and its route, and the price and the time that it
finds.
-/
structure TermsOf (pool : Pool V) (caller : AccountId) (route : Nat) (terms : Terms) : Prop where
  caller : terms.caller = caller
  quoted : pool.price = .ok terms.price
  route : terms.route = route
  now : terms.now = pool.now

theorem startTerms_ok {caller : AccountId} {route : Nat}
    (started : startTerms caller route pool = .ok terms pool')
    : pool' = pool ∧ TermsOf pool caller route terms := by
  simp only [startTerms, readPrice, EStateM.bind_eq_ok, EStateM.get_eq_ok, EStateM.lift_eq_ok,
    EStateM.pure_eq_ok] at started
  obtain ⟨price, _, ⟨_, _, ⟨rfl, rfl⟩, known, rfl⟩, _, _, ⟨rfl, rfl⟩, rfl, rfl⟩ := started
  exact ⟨rfl, rfl, known, rfl, rfl⟩

/-- A pool whose journals were opened has the same terms for a call. -/
theorem TermsOf.ofOpened {caller : AccountId} {route : Nat} {book : Book}
    (fixed : TermsOf (pool.withBook book) caller route terms)
    : TermsOf pool caller route terms :=
  ⟨fixed.caller, fixed.quoted, fixed.route, fixed.now⟩

/-- What the action of an entry point did to a pool, with the pools around each of its margin calls:
on a frozen pool it let somebody out; on any other one it brought the pool up to date, after which
it stopped, ran an operation or froze the pool; or it set the parameters after an accrual.
-/
inductive Acts (pool : Pool V) : List (Pool V × Pool V) → Pool V → Prop
  | leave {caller : AccountId} {outcome : Outcome} {pool' : Pool V}
      (frozen : pool.book.mode.isEmergency = true)
      (withdrawn : emergencyWithdraw caller pool = .ok outcome pool')
    : Acts pool [] pool'
  | update {terms : Terms} {calls : List (Pool V × Pool V)} {pool' : Pool V}
      (regular : pool.book.mode.isEmergency = false) (now : terms.now = pool.now)
      (updates : Updates terms pool calls pool')
    : Acts pool calls pool'
  | operate {terms : Terms} {calls : List (Pool V × Pool V)} {middle pool' : Pool V} {call : Call}
      {outcome : Outcome} (regular : pool.book.mode.isEmergency = false)
      (now : terms.now = pool.now) (updates : Updates terms pool calls middle)
      (allowed : terms.caller = .feeHolder → call.allowedForFeeHolder)
      (operated : operate terms call middle = .ok outcome pool')
    : Acts pool calls pool'
  | freeze {terms : Terms} {asset : Asset} {calls : List (Pool V × Pool V)} {middle pool' : Pool V}
      (now : terms.now = pool.now) (updates : Updates terms pool calls middle)
      (froze : freeze terms asset middle = .ok () pool')
    : Acts pool calls pool'
  | parameters {price : Q96} {moved : Bool} {accrued : Book} {parameters : Parameters}
      {payload : EventPayload}
      (accrues : Book.accrue pool.now price pool.book = .ok moved accrued)
      (valid : parameters.violation? = none)
    : Acts pool [] ((pool.withBook { accrued with parameters }).recording payload)

/-- A chain of margin calls is a sequence of writes, by induction on the chain. -/
theorem Liquidation.writes {calls : List (Pool V × Pool V)}
    (chain : Liquidation terms pool calls pool')
    : Writes pool pool' := by
  induction chain with
  | done => exact .refl
  | call _ called _ ih => exact ((steps_marginCall ..).of_ok called).trans ih
  | @refresh pool _ _ _ refreshed _ ih =>
      exact (Writes.of_book pool ((Book.steps_refreshLeverage ..).of_ok refreshed)).trans ih

theorem Updates.writes {calls : List (Pool V × Pool V)} (updates : Updates terms pool calls pool')
    : Writes pool pool' := by
  cases updates with
  | current => exact .refl
  | accrued accrues chain =>
      have accrual := Writes.of_book pool ((Book.steps_accrue ..).of_ok accrues)
      exact (accrual.tail (.event _ _)).trans chain.writes

/-- What an entry point does is a sequence of writes. -/
theorem Acts.writes {calls : List (Pool V × Pool V)} (acts : Acts pool calls pool')
    : Writes pool pool' := by
  cases acts with
  | leave _ withdrawn => exact (steps_emergencyWithdraw ..).of_ok withdrawn
  | update _ _ updates => exact updates.writes
  | operate _ _ updates _ operated => exact updates.writes.trans ((steps_operate ..).of_ok operated)
  | freeze _ updates froze => exact updates.writes.trans ((steps_freeze ..).of_ok froze)
  | parameters accrues valid =>
      have accrual := Writes.of_book pool ((Book.steps_accrue ..).of_ok accrues)
      exact (accrual.tail (.book _ (.parameters _ valid))).tail (.event _ _)

/-- A call that goes through on a frozen pool is a way out. -/
theorem dispatch_frozen {caller : AccountId} {call : Call} {route : Nat} {outcome : Outcome}
    (frozen : pool.book.mode.isEmergency = true)
    (dispatched : dispatch caller call route pool = .ok outcome pool')
    : (∃ unwrap, call = .emergencyWithdraw unwrap)
      ∧ emergencyWithdraw caller pool = .ok outcome pool' := by
  simp only [dispatch] at dispatched
  split at dispatched
  · exact (EStateM.throw_eq_ok.mp dispatched).elim
  · simp only [EStateM.bind_eq_ok, readBook_eq_ok] at dispatched
    obtain ⟨_, _, ⟨rfl, rfl⟩, dispatched⟩ := dispatched
    rw [if_pos frozen] at dispatched
    cases call with
    | emergencyWithdraw unwrap => exact ⟨⟨unwrap, rfl⟩, dispatched⟩
    | _ => exact (EStateM.throw_eq_ok.mp dispatched).elim

/-- What a call on a pool that works does: it brings the pool up to date, and stops there if the
caller was margin called or the pool froze, else runs the operation.
-/
inductive Serves (caller : AccountId) (call : Call) (pool : Pool V) : Outcome → Pool V → Prop
  | stopped {terms : Terms} {marginCalled : Bool} {pool' : Pool V}
      (quoted : pool.price = .ok terms.price) (now : terms.now = pool.now)
      (updated : bringUpToDate terms pool = .ok marginCalled pool')
    : Serves caller call pool { Outcome.nothing with marginCalled } pool'
  | operated {terms : Terms} {middle pool' : Pool V} {outcome : Outcome}
      (quoted : pool.price = .ok terms.price) (now : terms.now = pool.now)
      (updated : bringUpToDate terms pool = .ok false middle)
      (regular : middle.book.mode.isEmergency = false)
      (allowed : terms.caller = .feeHolder → call.allowedForFeeHolder)
      (operated : operate terms call middle = .ok outcome pool')
    : Serves caller call pool outcome pool'

/-- A call on a pool that works is one that the caller may make, and runs regularly. -/
theorem dispatch_regular {caller : AccountId} {call : Call} {route : Nat} {outcome : Outcome}
    (regular : pool.book.mode.isEmergency = false)
    (dispatched : dispatch caller call route pool = .ok outcome pool')
    : (caller = .feeHolder → call.allowedForFeeHolder)
      ∧ runRegular caller call route pool = .ok outcome pool' := by
  simp only [dispatch] at dispatched
  split at dispatched
  · exact (EStateM.throw_eq_ok.mp dispatched).elim
  · next allowed =>
      simp only [EStateM.bind_eq_ok, readBook_eq_ok] at dispatched
      obtain ⟨_, _, ⟨rfl, rfl⟩, dispatched⟩ := dispatched
      rw [if_neg (by simp [regular])] at dispatched
      refine ⟨?_, dispatched⟩
      rintro rfl
      simpa [AccountId.isFeeHolder] using allowed

/-- A regular call is brought up to date on its own terms, and stops there or runs the operation. -/
theorem runRegular_ok {caller : AccountId} {call : Call} {route : Nat} {outcome : Outcome}
    (ran : runRegular caller call route pool = .ok outcome pool')
    : ∃ terms marginCalled middle, TermsOf pool caller route terms
        ∧ bringUpToDate terms pool = .ok marginCalled middle
        ∧ ((marginCalled = true ∨ middle.book.mode.isEmergency = true)
            ∧ outcome = { Outcome.nothing with marginCalled } ∧ pool' = middle
          ∨ marginCalled = false ∧ middle.book.mode.isEmergency = false
            ∧ operate terms call middle = .ok outcome pool') := by
  simp only [runRegular, EStateM.bind_eq_ok, readBook_eq_ok] at ran
  obtain ⟨terms, _, started, marginCalled, middle, updated, _, _, ⟨rfl, rfl⟩, ran⟩ := ran
  obtain ⟨rfl, fixed⟩ := startTerms_ok started
  refine ⟨terms, marginCalled, middle, fixed, updated, ?_⟩
  split at ran
  · next stops =>
      obtain ⟨rfl, rfl⟩ := EStateM.pure_eq_ok.mp ran
      exact .inl ⟨Bool.or_eq_true_iff.mp stops, rfl, rfl⟩
  · next goesOn =>
      rw [Bool.or_eq_true, not_or, Bool.not_eq_true] at goesOn
      exact .inr ⟨goesOn.1, isEmergency_of_not goesOn.2, ran⟩

theorem serves_dispatch {caller : AccountId} {call : Call} {route : Nat} {outcome : Outcome}
    (regular : pool.book.mode.isEmergency = false)
    (dispatched : dispatch caller call route pool = .ok outcome pool')
    : Serves caller call pool outcome pool' := by
  obtain ⟨allowed, ran⟩ := dispatch_regular regular dispatched
  obtain ⟨terms, marginCalled, middle, ⟨rfl, quoted, _, now⟩, updated, ending⟩ := runRegular_ok ran
  rcases ending with ⟨_, rfl, rfl⟩ | ⟨rfl, regularMiddle, operated⟩
  · exact .stopped quoted now updated
  · exact .operated quoted now updated regularMiddle allowed operated

/-- A call on a frozen pool is a way out. On any other one the book is brought up to date, and the
operation runs unless the caller was liquidated or the pool froze.
-/
theorem dispatch_acts {caller : AccountId} {call : Call} {route : Nat} {outcome : Outcome}
    (dispatched : dispatch caller call route pool = .ok outcome pool')
    : ∃ calls, Acts pool calls pool' := by
  cases mode : pool.book.mode.isEmergency with
  | true => exact ⟨[], .leave mode (dispatch_frozen mode dispatched).2⟩
  | false =>
      cases serves_dispatch mode dispatched with
      | stopped _ now updated =>
          obtain ⟨calls, updates⟩ := bringUpToDate_ok updated
          exact ⟨calls, .update mode now updates⟩
      | operated _ now updated _ allowed operated =>
          obtain ⟨calls, updates⟩ := bringUpToDate_ok updated
          exact ⟨calls, .operate mode now updates allowed operated⟩

-----
-- Entry points commit what they did
-----

theorem executeCall_ok {caller : AccountId} {call : Call} {outcome : Outcome}
    (executed : executeCall caller call pool = .ok outcome pool')
    : ∃ acted,
        dispatch caller call 0 (pool.withBook pool.book.openJournal) = .ok outcome acted
          ∧ pool' = acted.commit :=
  atomically_ok executed

/-- A request that went through was turned into a call first. -/
theorem execute_ok {caller : AccountId} {request : Request} {outcome : Outcome}
    (executed : execute caller request pool = .ok outcome pool')
    : ∃ call acted, Call.ofRequest request = .ok call
        ∧ dispatch caller call request.route (pool.withBook pool.book.openJournal)
          = .ok outcome acted
        ∧ pool' = acted.commit := by
  simp only [execute, EStateM.bind_eq_ok, EStateM.lift_eq_ok] at executed
  obtain ⟨call, _, ⟨turned, rfl⟩, executed⟩ := executed
  obtain ⟨acted, acts, rfl⟩ := atomically_ok executed
  exact ⟨call, acted, turned, acts, rfl⟩

/-- New parameters are valid, and come after the accrual by the old ones. -/
theorem setParameters_ok {caller : AccountId} {parameters : Parameters}
    (set : setParameters caller parameters pool = .ok () pool')
    : ∃ price moved accrued payload,
        Book.accrue pool.now price pool.book.openJournal = .ok moved accrued
          ∧ parameters.violation? = none
          ∧ pool' = (((pool.withBook pool.book.openJournal).withBook
              { accrued with parameters }).recording payload).commit := by
  simp only [setParameters, EStateM.bind_eq_ok, EStateM.get_eq_ok] at set
  obtain ⟨_, _, ⟨rfl, rfl⟩, set⟩ := set
  split at set
  · exact (EStateM.throw_eq_ok.mp set).elim
  · cases violated : parameters.violation? with
    | some error =>
        simp only [violated] at set
        exact (EStateM.throw_eq_ok.mp set).elim
    | none =>
        simp only [violated] at set
        obtain ⟨acted, acts, rfl⟩ := atomically_ok set
        simp only [EStateM.bind_eq_ok, readBook_eq_ok] at acts
        obtain ⟨_, _, ⟨rfl, rfl⟩, acts⟩ := acts
        split at acts
        · simp only [EStateM.bind_eq_ok, readPrice, EStateM.get_eq_ok, EStateM.lift_eq_ok,
            liftBook_eq_ok, record_eq_ok, EStateM.modify_eq_ok] at acts
          obtain ⟨price, _, ⟨_, _, ⟨rfl, rfl⟩, _, rfl⟩, acts⟩ := acts
          obtain ⟨_, _, ⟨rfl, rfl⟩, moved, _, ⟨accrued, accrues, rfl⟩, acts⟩ := acts
          obtain ⟨_, _, ⟨_, rfl, rfl⟩, rfl⟩ := acts
          exact ⟨price, moved, accrued, _, accrues, rfl, rfl⟩
        · next frozen =>
            simp only [EStateM.bind_eq_ok, liftBook_eq_ok, record_eq_ok, EStateM.modify_eq_ok]
              at acts
            obtain ⟨_, _, ⟨_, rfl, rfl⟩, rfl⟩ := acts
            have frozen : pool.book.openJournal.mode.isEmergency = true := by simpa using frozen
            exact ⟨.zero, false, _, _, Book.accrue_of_frozen frozen pool.now .zero, rfl, rfl⟩

/-- A pool that was shut down worked, was brought up to date, and froze, on the way or at the end.
-/
theorem shutDown_ok {caller : AccountId} {mode : Mode}
    (shut : shutDown caller pool = .ok mode pool')
    : pool.book.mode.isEmergency = false
      ∧ ∃ terms marginCalled middle acted, TermsOf pool caller 0 terms
          ∧ bringUpToDate terms (pool.withBook pool.book.openJournal) = .ok marginCalled middle
          ∧ (acted = middle
            ∨ middle.book.mode.isEmergency = false
              ∧ ∃ asset, freeze terms asset middle = .ok () acted)
          ∧ pool' = acted.commit := by
  obtain ⟨acted, acts, rfl⟩ := atomically_ok shut
  simp only [EStateM.bind_eq_ok, readBook_eq_ok] at acts
  obtain ⟨_, _, ⟨rfl, rfl⟩, acts⟩ := acts
  split at acts
  · exact (EStateM.throw_eq_ok.mp acts).elim
  · next regular =>
      refine ⟨isEmergency_of_not regular, ?_⟩
      simp only [EStateM.bind_eq_ok, readBook_eq_ok] at acts
      obtain ⟨terms, _, started, acts⟩ := acts
      obtain ⟨rfl, fixed⟩ := startTerms_ok started
      obtain ⟨marginCalled, middle, updated, acts⟩ := acts
      obtain ⟨_, _, ⟨rfl, rfl⟩, acts⟩ := acts
      refine ⟨terms, marginCalled, middle, acted, fixed.ofOpened, updated, ?_, rfl⟩
      split at acts
      · exact .inl (EStateM.pure_eq_ok.mp acts).2.symm
      · next regularMiddle =>
          simp only [EStateM.bind_eq_ok, EStateM.lift_eq_ok] at acts
          obtain ⟨side, _, ⟨_, rfl⟩, acts⟩ := acts
          cases side with
          | none => exact (EStateM.throw_eq_ok.mp acts).elim
          | some asset =>
              simp only [EStateM.bind_eq_ok, readBook_eq_ok, EStateM.pure_eq_ok] at acts
              obtain ⟨_, _, froze, _, _, ⟨rfl, rfl⟩, _, rfl⟩ := acts
              exact .inr ⟨isEmergency_of_not regularMiddle, asset, froze⟩

/-- A command that goes through commits what an entry point did, or it changes the clock or the
venue.
-/
theorem run_ok {command : Command V} (went : command.run pool = .ok () pool')
    : (∃ calls acted, Acts (pool.withBook pool.book.openJournal) calls acted
        ∧ pool' = acted.commit)
      ∨ (∃ time, pool' = pool.setTime time) ∨ ∃ venue, pool' = pool.withVenue venue := by
  cases command with
  | execute caller request =>
      obtain ⟨_, _, executed, finished⟩ := EStateM.bind_eq_ok.mp went
      obtain ⟨_, rfl⟩ := EStateM.pure_eq_ok.mp finished
      obtain ⟨_, acted, _, dispatched, rfl⟩ := execute_ok executed
      obtain ⟨calls, acts⟩ := dispatch_acts dispatched
      exact .inl ⟨calls, acted, acts, rfl⟩
  | executeCall caller call =>
      obtain ⟨_, _, executed, finished⟩ := EStateM.bind_eq_ok.mp went
      obtain ⟨_, rfl⟩ := EStateM.pure_eq_ok.mp finished
      obtain ⟨acted, dispatched, rfl⟩ := executeCall_ok executed
      obtain ⟨calls, acts⟩ := dispatch_acts dispatched
      exact .inl ⟨calls, acted, acts, rfl⟩
  | setParameters caller parameters =>
      obtain ⟨_, _, _, _, accrues, valid, rfl⟩ := setParameters_ok went
      exact .inl ⟨[], _, .parameters accrues valid, rfl⟩
  | shutDown caller =>
      obtain ⟨_, _, executed, finished⟩ := EStateM.bind_eq_ok.mp went
      obtain ⟨_, rfl⟩ := EStateM.pure_eq_ok.mp finished
      obtain ⟨regular, terms, _, _, acted, ⟨_, _, _, now⟩, updated, freezes, rfl⟩ :=
        shutDown_ok executed
      obtain ⟨calls, updates⟩ := bringUpToDate_ok updated
      refine .inl ⟨calls, acted, ?_, rfl⟩
      rcases freezes with rfl | ⟨_, _, froze⟩
      · exact .update regular now updates
      · exact .freeze now updates froze
  | setTime time => exact .inr (.inl ⟨time, (EStateM.modify_eq_ok.mp went).symm⟩)
  | changeVenue venue => exact .inr (.inr ⟨venue, (EStateM.modify_eq_ok.mp went).symm⟩)

end Calls

end Pool

end MarginLending
