import MarginLending.Pool.Execute
import MarginLending.Proofs.Book.Tokens
import MarginLending.Proofs.Pool.Atomicity
import MarginLending.Venue.Simulated

/-!
Writing down what a venue does. A recorder in front of a simulated venue changes nothing about a
call: it ends as it would without, and its log has every order of the call with its answer. Every
step of a call, seen this way, moves tokens by the fills on the log and by a net amount of its own.
-/

namespace MarginLending

/-- An offer of a simulated venue keeps to the order. -/
theorem SimulatedVenue.honours {venue : SimulatedVenue} {order : SwapOrder} {fill : Fill}
    (filled : (venue.swap order).1 = .ok fill)
    : order.isHonouredBy fill := by
  unfold swap at filled
  split at filled
  · cases filled
  · split at filled
    · next offered offers =>
        obtain rfl := Except.ok.inj filled
        simp only [offer] at offers
        unfold SwapOrder.isHonouredBy
        split at offers
        · next exact =>
            obtain ⟨out, _, offers⟩ := Except.bind_eq_ok.mp offers
            split at offers
            · cases offers
            · next enough =>
                cases offers
                simp [exact, Nat.not_lt.mp enough]
        · next bought =>
            obtain ⟨needed, _, offers⟩ := Except.bind_eq_ok.mp offers
            split at offers
            · cases offers
            · next enough =>
                cases offers
                simp [bought, Nat.not_lt.mp enough]
    all_goals cases filled

namespace SwapRecord

/-- What a filled order brought in, nothing for an unfilled one. -/
def received (record : SwapRecord) : PerAsset Nat :=
  match record.answer with
  | .ok fill => Pool.amountsIn record.order.tokenOut fill.amountOut
  | .error _ => .both 0

/-- What a filled order took, nothing for an unfilled one. -/
def spent (record : SwapRecord) : PerAsset Nat :=
  match record.answer with
  | .ok fill => Pool.amountsIn record.order.tokenIn fill.amountIn
  | .error _ => .both 0

/-- Whether an order was filled. -/
def isFilled (record : SwapRecord) : Bool := record.answer.isOk

/-- What the fills on a log brought in of an asset. -/
def totalReceived (log : List SwapRecord) (asset : Asset) : Nat :=
  (log.map fun record => record.received.get asset).sum

/-- What the fills on a log took of an asset. -/
def totalSpent (log : List SwapRecord) (asset : Asset) : Nat :=
  (log.map fun record => record.spent.get asset).sum

end SwapRecord

/-- The simulated venue counts the orders that it fills. -/
theorem SimulatedVenue.swapsExecuted_swap (venue : SimulatedVenue) (order : SwapOrder)
    : (Venue.swap venue order).2.swapsExecuted
      = venue.swapsExecuted
        + ([SwapRecord.mk order (Venue.swap venue order).1].filter SwapRecord.isFilled).length := by
  simp only [Venue.swap, swap]
  split
  · rfl
  · split <;> rfl

namespace ScriptedVenue

/-- A simulated venue with an empty log in front of it. -/
def recording (venue : SimulatedVenue) : ScriptedVenue := ⟨venue, false, [], []⟩

/-- The price feed works and no answer is prepared, so that the venue only writes down what the
simulated one does: as many fills as that one counts beyond some count.
-/
structure Plain (scripted : ScriptedVenue) (count : Nat) : Prop where
  quotes : scripted.oracleDown = false
  unprepared : scripted.prepared = []
  counted : scripted.venue.swapsExecuted = count + (scripted.log.filter SwapRecord.isFilled).length

variable {scripted : ScriptedVenue} {count : Nat}

theorem plain_recording (venue : SimulatedVenue) : (recording venue).Plain venue.swapsExecuted :=
  ⟨rfl, rfl, rfl⟩

/-- A plain venue answers as the simulated one does. -/
theorem Plain.swap_eq (plain : scripted.Plain count) (order : SwapOrder)
    : Venue.swap scripted order
      = ((Venue.swap scripted.venue order).1,
          { scripted with
            venue := (Venue.swap scripted.venue order).2
            log := scripted.log ++ [⟨order, (Venue.swap scripted.venue order).1⟩] }) := by
  simp only [Venue.swap, answer, plain.unprepared]

theorem Plain.swap (plain : scripted.Plain count) (order : SwapOrder)
    : (Venue.swap scripted order).2.Plain count := by
  have counted := plain.counted
  rw [plain.swap_eq]
  refine ⟨plain.quotes, plain.unprepared, ?_⟩
  rw [SimulatedVenue.swapsExecuted_swap scripted.venue order]
  simp only [List.filter_append, List.length_append, counted, Nat.add_assoc]

theorem Plain.basePrice_eq (plain : scripted.Plain count)
    : Venue.basePrice scripted = Venue.basePrice scripted.venue := by
  simp only [Venue.basePrice, plain.quotes]
  rfl

end ScriptedVenue

namespace Pool

/-- The pool with a recorder in front of its venue. -/
def withRecorder (pool : Pool SimulatedVenue) : Pool ScriptedVenue where
  options := pool.options
  book := pool.book
  venue := .recording pool.venue
  pending := pool.pending
  events := pool.events
  nextEventId := pool.nextEventId
  now := pool.now

/-- The pool without the recorder in front of its venue. -/
def withoutRecorder (pool : Pool ScriptedVenue) : Pool SimulatedVenue where
  options := pool.options
  book := pool.book
  venue := pool.venue.venue
  pending := pool.pending
  events := pool.events
  nextEventId := pool.nextEventId
  now := pool.now

/-- The tokens of an asset that the fills on the log do not account for. -/
def unswapped (pool : Pool ScriptedVenue) (asset : Asset) : Int :=
  (pool.book.ledger asset).balance + SwapRecord.totalSpent pool.venue.log asset
    - SwapRecord.totalReceived pool.venue.log asset

/-- On a pool whose venue only writes down, the first action ends as the second one does without the
recorder.
-/
structure Mirrors {α : Type} (x : PoolM ScriptedVenue α) (y : PoolM SimulatedVenue α) : Prop where
  ok : ∀ {count pool a pool'}, pool.venue.Plain count → x pool = .ok a pool' →
    pool'.venue.Plain count ∧ y pool.withoutRecorder = .ok a pool'.withoutRecorder
  error : ∀ {count pool e pool'}, pool.venue.Plain count → x pool = .error e pool' →
    pool'.venue.Plain count ∧ y pool.withoutRecorder = .error e pool'.withoutRecorder

/-- Besides, whenever the action goes through it has moved tokens by the fills on the log and by a
net amount.
-/
structure Recorded {α : Type} (x : PoolM ScriptedVenue α) (y : PoolM SimulatedVenue α)
    (net : α → Asset → Int) : Prop extends Mirrors x y where
  nets : ∀ {count pool a pool'}, pool.venue.Plain count → x pool = .ok a pool' →
    ∀ asset, pool'.unswapped asset = pool.unswapped asset + net a asset

section Mirroring

variable {α β : Type}

namespace Mirrors

theorem pure (a : α) : Mirrors (Pure.pure a) (Pure.pure a) := by
  constructor
  · rintro _ pool _ _ plain went
    obtain ⟨rfl, rfl⟩ := EStateM.pure_eq_ok.mp went
    exact ⟨plain, rfl⟩
  · rintro _ _ _ _ _ failed
    cases failed

theorem throw (e : PoolError)
    : Mirrors (MonadExcept.throw e : PoolM ScriptedVenue α) (MonadExcept.throw e) := by
  constructor
  · rintro _ _ _ _ _ went
    exact (EStateM.throw_eq_ok.mp went).elim
  · rintro _ pool _ _ plain failed
    cases failed
    exact ⟨plain, rfl⟩

theorem bind {x : PoolM ScriptedVenue α} {y : PoolM SimulatedVenue α}
    {f : α → PoolM ScriptedVenue β} {g : α → PoolM SimulatedVenue β} (first : Mirrors x y)
    (second : ∀ a, Mirrors (f a) (g a))
    : Mirrors (x >>= f) (y >>= g) := by
  constructor
  · intro _ pool b pool' plain went
    obtain ⟨a, middle, wentFirst, wentSecond⟩ := EStateM.bind_eq_ok.mp went
    obtain ⟨plainMiddle, sameFirst⟩ := first.ok plain wentFirst
    obtain ⟨plainLast, sameSecond⟩ := (second a).ok plainMiddle wentSecond
    exact ⟨plainLast, EStateM.bind_eq_ok.mpr ⟨a, _, sameFirst, sameSecond⟩⟩
  · intro _ pool e pool' plain failed
    rcases EStateM.bind_eq_error.mp failed with failed | ⟨a, middle, wentFirst, failed⟩
    · obtain ⟨plainLast, same⟩ := first.error plain failed
      exact ⟨plainLast, EStateM.bind_eq_error.mpr (.inl same)⟩
    · obtain ⟨plainMiddle, sameFirst⟩ := first.ok plain wentFirst
      obtain ⟨plainLast, same⟩ := (second a).error plainMiddle failed
      exact ⟨plainLast, EStateM.bind_eq_error.mpr (.inr ⟨a, _, sameFirst, same⟩)⟩

end Mirrors

end Mirroring

-----
-- Steps of a call
-----

section Steps

variable {α β : Type} {net : α → Asset → Int} {rest : β → Asset → Int}
  {f : α → PoolM ScriptedVenue β} {g : α → PoolM SimulatedVenue β}

theorem mirrors_lift (x : Except PoolError α)
    : Mirrors (liftM x : PoolM ScriptedVenue α) (liftM x) := by
  cases x with
  | ok a => exact .pure a
  | error e => exact .throw e

theorem mirrors_get_bind {f : Pool ScriptedVenue → PoolM ScriptedVenue β}
    {g : Pool SimulatedVenue → PoolM SimulatedVenue β}
    (second : ∀ pool, Mirrors (f pool) (g pool.withoutRecorder))
    : Mirrors (get >>= f) (get >>= g) :=
  ⟨fun {_ pool _ _} plain went => (second pool).ok plain went,
    fun {_ pool _ _} plain failed => (second pool).error plain failed⟩

theorem mirrors_readBook_bind {f : Book → PoolM ScriptedVenue β} {g : Book → PoolM SimulatedVenue β}
    (second : ∀ book, Mirrors (f book) (g book))
    : Mirrors (readBook >>= f) (readBook >>= g) :=
  mirrors_get_bind fun pool => second pool.book

theorem liftBook_eq_error {V : Type} {x : BookM α} {pool pool' : Pool V} {e : PoolError}
    : (liftM x : PoolM V α) pool = .error e pool'
      ↔ ∃ book, x pool.book = .error e book ∧ pool.withBook book = pool' := by
  simp only [liftM, monadLift, MonadLift.monadLift]
  cases x pool.book <;> simp [withBook, and_assoc]

theorem mirrors_liftBook (x : BookM α)
    : Mirrors (liftM x : PoolM ScriptedVenue α) (liftM x) := by
  constructor
  · intro _ pool a pool' plain lifted
    obtain ⟨book, went, rfl⟩ := liftBook_eq_ok.mp lifted
    exact ⟨plain, liftBook_eq_ok.mpr ⟨book, went, rfl⟩⟩
  · intro _ pool e pool' plain lifted
    obtain ⟨book, failed, rfl⟩ := liftBook_eq_error.mp lifted
    exact ⟨plain, liftBook_eq_error.mpr ⟨book, failed, rfl⟩⟩

/-- A recorder quotes the price that it finds. -/
theorem mirrors_readPrice : Mirrors readPrice readPrice := by
  have same : ∀ {count} {pool : Pool ScriptedVenue}, pool.venue.Plain count →
      pool.withoutRecorder.price = pool.price := by
    intro _ pool plain
    simp only [Pool.price, plain.basePrice_eq]
    rfl
  constructor
  · intro _ pool a pool' plain went
    have mirrored := (mirrors_lift pool.price).ok plain went
    exact ⟨mirrored.1, by rw [← same plain] at mirrored; exact mirrored.2⟩
  · intro _ pool e pool' plain failed
    have mirrored := (mirrors_lift pool.price).error plain failed
    exact ⟨mirrored.1, by rw [← same plain] at mirrored; exact mirrored.2⟩

/-- What the pool makes of an answer to an order. -/
def accept (order : SwapOrder) : Except SwapError Fill → Except PoolError Fill
  | .error (.insufficientOutput ..) | .error (.excessiveInput ..) => .error .slippageLimit
  | .error error => .error (.swap error)
  | .ok fill => if order.isHonouredBy fill then .ok fill else .error .slippageLimit

theorem swap_eq {V : Type} [Venue V] (order : SwapOrder) (pool : Pool V)
    : swap order pool
      = (liftM (accept order (Venue.swap pool.venue order).1) : PoolM V Fill)
          (pool.withVenue (Venue.swap pool.venue order).2) := by
  unfold swap
  rw [get_bind_apply]
  obtain ⟨answer, venue⟩ := Venue.swap pool.venue order
  cases answer with
  | error error => cases error <;> rfl
  | ok fill =>
      by_cases honoured : order.isHonouredBy fill
      · simp only [accept, honoured, if_true]
        rfl
      · simp only [accept, honoured]
        rfl

namespace Recorded

theorem pure {a : α} (settled : ∀ asset, net a asset = 0)
    : Recorded (Pure.pure a) (Pure.pure a) net where
  toMirrors := .pure a
  nets := by
    rintro _ pool _ _ _ went asset
    obtain ⟨rfl, rfl⟩ := EStateM.pure_eq_ok.mp went
    rw [settled, Int.add_zero]

theorem throw (e : PoolError) : Recorded (MonadExcept.throw e) (MonadExcept.throw e) net where
  toMirrors := .throw e
  nets := fun _ went => (EStateM.throw_eq_ok.mp went).elim

theorem congr {x : PoolM ScriptedVenue α} {y : PoolM SimulatedVenue α} {net' : α → Asset → Int}
    (recorded : Recorded x y net) (same : ∀ a asset, net' a asset = net a asset)
    : Recorded x y net' where
  toMirrors := recorded.toMirrors
  nets := fun plain went asset => same _ asset ▸ recorded.nets plain went asset

/-- A sequence has left to move what its first part has not moved. -/
theorem bind {x : PoolM ScriptedVenue α} {y : PoolM SimulatedVenue α} (first : Recorded x y net)
    (second : ∀ a, Recorded (f a) (g a) fun b asset => rest b asset - net a asset)
    : Recorded (x >>= f) (y >>= g) rest where
  toMirrors := first.toMirrors.bind fun a => (second a).toMirrors
  nets := by
    intro _ pool b pool' plain went asset
    obtain ⟨a, middle, wentFirst, wentSecond⟩ := EStateM.bind_eq_ok.mp went
    obtain ⟨plainMiddle, _⟩ := first.ok plain wentFirst
    have movedFirst := first.nets plain wentFirst asset
    have movedSecond := (second a).nets plainMiddle wentSecond asset
    omega

/-- A first part without tokens of its own leaves everything to the second one. -/
theorem step_bind {x : PoolM ScriptedVenue α} {y : PoolM SimulatedVenue α}
    (first : Recorded x y fun _ _ => 0) (second : ∀ a, Recorded (f a) (g a) rest)
    : Recorded (x >>= f) (y >>= g) rest :=
  first.bind fun a => (second a).congr fun _ _ => Int.sub_zero _

theorem lift_bind {x : Except PoolError α} (second : ∀ a, Recorded (f a) (g a) rest)
    : Recorded ((liftM x : PoolM ScriptedVenue α) >>= f) (liftM x >>= g) rest := by
  refine step_bind ⟨mirrors_lift x, ?_⟩ second
  intro _ pool a pool' _ went asset
  obtain ⟨_, rfl⟩ := EStateM.lift_eq_ok.mp went
  exact (Int.add_zero _).symm

theorem liftMath_bind {x : Except MathError α} (second : ∀ a, Recorded (f a) (g a) rest)
    : Recorded ((liftM x : PoolM ScriptedVenue α) >>= f) (liftM x >>= g) rest :=
  lift_bind second

theorem get_bind {f : Pool ScriptedVenue → PoolM ScriptedVenue β}
    {g : Pool SimulatedVenue → PoolM SimulatedVenue β}
    (second : ∀ pool, Recorded (f pool) (g pool.withoutRecorder) rest)
    : Recorded (get >>= f) (get >>= g) rest where
  toMirrors := mirrors_get_bind fun pool => (second pool).toMirrors
  nets := fun {_ pool _ _} plain went => (second pool).nets plain went

theorem readBook_bind {f : Book → PoolM ScriptedVenue β} {g : Book → PoolM SimulatedVenue β}
    (second : ∀ book, Recorded (f book) (g book) rest)
    : Recorded (readBook >>= f) (readBook >>= g) rest :=
  get_bind fun pool => second pool.book

theorem record (payload : EventPayload)
    : Recorded (Pool.record payload) (Pool.record payload) fun _ _ => 0 where
  ok := by
    intro _ pool _ pool' plain went
    obtain rfl := record_eq_ok.mp went
    exact ⟨plain, record_eq_ok.mpr rfl⟩
  error := by
    intro _ pool e pool' _ failed
    cases failed
  nets := by
    intro _ pool _ pool' _ went asset
    obtain rfl := record_eq_ok.mp went
    exact (Int.add_zero _).symm

theorem record_bind {payload : EventPayload} {f : Unit → PoolM ScriptedVenue β}
    {g : Unit → PoolM SimulatedVenue β} (second : Recorded (f ()) (g ()) rest)
    : Recorded (Pool.record payload >>= f) (Pool.record payload >>= g) rest :=
  step_bind (record payload) fun _ => second

/-- An action on the book moves the tokens that it moves there. -/
theorem liftBook {x : BookM α} {net : Asset → Int} (nets : Book.Nets x net)
    : Recorded (liftM x : PoolM ScriptedVenue α) (liftM x) fun _ => net where
  toMirrors := mirrors_liftBook x
  nets := by
    intro _ pool a pool' _ lifted asset
    obtain ⟨book, went, rfl⟩ := liftBook_eq_ok.mp lifted
    have moved := nets went asset
    simp only [unswapped, withBook]
    omega

theorem liftBook_bind {x : BookM α} (keeps : Book.KeepsBalances x)
    (second : ∀ a, Recorded (f a) (g a) rest)
    : Recorded ((liftM x : PoolM ScriptedVenue α) >>= f) (liftM x >>= g) rest :=
  step_bind (liftBook keeps.nets) second

theorem payIn_bind {asset : Asset} {amount : Nat} {f : Unit → PoolM ScriptedVenue β}
    {g : Unit → PoolM SimulatedVenue β}
    (second : Recorded (f ()) (g ()) fun b side => rest b side - (amountsIn asset amount).get side)
    : Recorded ((liftM (Book.payIn asset amount) : PoolM ScriptedVenue Unit) >>= f)
        (liftM (Book.payIn asset amount) >>= g) rest :=
  bind (liftBook (Book.nets_payIn asset amount)) fun _ => second

theorem payOut_bind {asset : Asset} {amount : Nat} {f : Unit → PoolM ScriptedVenue β}
    {g : Unit → PoolM SimulatedVenue β}
    (second : Recorded (f ()) (g ()) fun b side => rest b side + (amountsIn asset amount).get side)
    : Recorded ((liftM (Book.payOut asset amount) : PoolM ScriptedVenue Unit) >>= f)
        (liftM (Book.payOut asset amount) >>= g) rest :=
  bind (liftBook (Book.nets_payOut asset amount)) fun _ =>
    second.congr fun _ _ => Int.sub_neg _ _

-----
-- Orders
-----

end Recorded

section Orders

variable {count : Nat} {pool pool' : Pool ScriptedVenue} {order : SwapOrder} {fill : Fill}

/-- An order adds its answer to the log. -/
theorem unswapped_swap (plain : pool.venue.Plain count) (order : SwapOrder) (asset : Asset)
    : (pool.withVenue (Venue.swap pool.venue order).2).unswapped asset
      = pool.unswapped asset
        + (SwapRecord.mk order (Venue.swap pool.venue.venue order).1).spent.get asset
        - (SwapRecord.mk order (Venue.swap pool.venue.venue order).1).received.get asset := by
  simp only [unswapped, withVenue, plain.swap_eq, SwapRecord.totalSpent,
    SwapRecord.totalReceived, List.map_append, List.sum_append, List.map_cons, List.map_nil,
    List.sum_cons, List.sum_nil, Int.natCast_add]
  omega

/-- What the simulated venue fills, the pool accepts, and it accepts nothing else. -/
theorem accept_eq_ok {venue : SimulatedVenue}
    : accept order (Venue.swap venue order).1 = .ok fill
      ↔ (Venue.swap venue order).1 = .ok fill := by
  cases answered : (Venue.swap venue order).1 with
  | ok filled =>
      have honoured := SimulatedVenue.honours answered
      simp only [accept, honoured, if_true, Except.ok.injEq]
  | error error =>
      constructor
      · intro accepted
        cases error <;> cases accepted
      · rintro filled
        cases filled

theorem mirrors_swap (order : SwapOrder) : Mirrors (swap order) (swap order) := by
  have same : ∀ {count} {pool : Pool ScriptedVenue}, pool.venue.Plain count →
      swap order pool.withoutRecorder = (liftM (accept order (Venue.swap pool.venue order).1) :
        PoolM SimulatedVenue Fill)
          (pool.withVenue (Venue.swap pool.venue order).2).withoutRecorder := by
    intro _ pool plain
    rw [swap_eq, plain.swap_eq]
    rfl
  constructor
  · intro _ pool fill pool' plain went
    rw [swap_eq] at went
    rw [same plain]
    exact (mirrors_lift _).ok (plain.swap order) went
  · intro _ pool e pool' plain failed
    rw [swap_eq] at failed
    rw [same plain]
    exact (mirrors_lift _).error (plain.swap order) failed

/-- A fill on the log accounts in advance for what is settled after it. -/
theorem unswapped_fill (plain : pool.venue.Plain count) (went : swap order pool = .ok fill pool')
    (asset : Asset)
    : pool'.unswapped asset = pool.unswapped asset - order.gain fill asset := by
  rw [swap_eq] at went
  obtain ⟨accepted, rfl⟩ := EStateM.lift_eq_ok.mp went
  rw [plain.swap_eq] at accepted
  have filled := accept_eq_ok.mp accepted
  rw [unswapped_swap plain, filled]
  simp only [SwapRecord.spent, SwapRecord.received, SwapOrder.gain]
  omega

/-- An order that is not filled moves nothing. -/
theorem unswapped_unfilled (plain : pool.venue.Plain count) {e : PoolError}
    (failed : swap order pool = .error e pool') (asset : Asset)
    : pool'.unswapped asset = pool.unswapped asset := by
  rw [swap_eq] at failed
  cases answered : (Venue.swap pool.venue.venue order).1 with
  | ok filled =>
      have accepted := accept_eq_ok.mpr answered
      rw [plain.swap_eq, accepted] at failed
      cases failed
  | error error =>
      have ends : pool.withVenue (Venue.swap pool.venue order).2 = pool' := by
        cases accepted : accept order (Venue.swap pool.venue order).1 with
        | ok filled =>
            rw [accepted] at failed
            cases failed
        | error reason =>
            rw [accepted] at failed
            cases failed
            rfl
      rw [← ends, unswapped_swap plain, answered]
      simp [SwapRecord.spent, SwapRecord.received]

theorem recorded_swap (order : SwapOrder)
    : Recorded (swap order) (swap order) fun fill asset => -order.gain fill asset where
  toMirrors := mirrors_swap order
  nets := fun plain went asset => unswapped_fill plain went asset

/-- An attempt at an order moves what its fill moves, if it is filled. -/
def attemptGain (order : SwapOrder) (answer : Except PoolError Fill) (asset : Asset) : Int :=
  match answer with
  | .ok fill => order.gain fill asset
  | .error _ => 0

theorem recorded_attempt (order : SwapOrder)
    : Recorded (attempt (swap order)) (attempt (swap order)) fun answer asset =>
        -attemptGain order answer asset := by
  have mirrored := mirrors_swap order
  refine ⟨⟨?_, ?_⟩, ?_⟩
  · intro _ pool answer pool' plain went
    unfold attempt at went ⊢
    cases result : swap order pool with
    | ok fill next =>
        obtain ⟨plainNext, same⟩ := mirrored.ok plain result
        rw [result] at went
        cases went
        exact ⟨plainNext, by rw [same]⟩
    | error e next =>
        obtain ⟨plainNext, same⟩ := mirrored.error plain result
        rw [result] at went
        cases went
        exact ⟨plainNext, by rw [same]⟩
  · intro _ pool e pool' _ failed
    unfold attempt at failed
    cases result : swap order pool <;> rw [result] at failed <;> cases failed
  · intro _ pool answer pool' plain went asset
    unfold attempt at went
    cases result : swap order pool with
    | ok fill next =>
        rw [result] at went
        cases went
        exact unswapped_fill plain result asset
    | error e next =>
        rw [result] at went
        cases went
        exact (unswapped_unfilled plain result asset).trans (Int.add_zero _).symm

end Orders

theorem Recorded.swap_bind {order : SwapOrder} {f : Fill → PoolM ScriptedVenue β}
    {g : Fill → PoolM SimulatedVenue β}
    (second : ∀ fill, Recorded (f fill) (g fill) fun b asset =>
      rest b asset + order.gain fill asset)
    : Recorded (swap order >>= f) (swap order >>= g) rest :=
  .bind (recorded_swap order) fun fill => (second fill).congr fun _ _ => Int.sub_neg _ _

/-- Settling an order moves what its fill on the log accounts for. -/
theorem Recorded.settle_bind {order : SwapOrder} {fill : Fill} {f : Unit → PoolM ScriptedVenue β}
    {g : Unit → PoolM SimulatedVenue β} (second : Recorded (f ()) (g ()) rest)
    : Recorded ((liftM (Book.settle order fill) : PoolM ScriptedVenue Unit) >>= f)
        (liftM (Book.settle order fill) >>= g) fun b asset =>
          rest b asset + order.gain fill asset :=
  .bind (.liftBook (Book.nets_settle order fill)) fun _ =>
    second.congr fun _ _ => Int.add_sub_cancel _ _

end Steps

-----
-- Operations
-----

section Operations

variable (terms : Terms) (account : AccountId) (asset : Asset)

theorem recorded_finishTrade
    : Recorded (finishTrade terms account) (finishTrade terms account) fun _ _ => 0 := by
  unfold finishTrade
  exact .liftBook_bind Book.keepsBalances_reseatM fun _ =>
    .readBook_bind fun _ => .lift_bind fun _ =>
    .liftBook_bind Book.keepsBalances_dropIfEmpty fun _ =>
      .liftBook Book.keepsBalances_refreshLeverage.nets

theorem recorded_tradeOutcome (amounts : PerAsset Nat)
    : Recorded (tradeOutcome account amounts) (tradeOutcome account amounts) fun _ _ => 0 :=
  .readBook_bind fun _ => .pure fun _ => rfl

theorem recorded_tradeEnd (payload : Book → EventPayload) (amounts : PerAsset Nat)
    : Recorded (tradeEnd terms account payload amounts) (tradeEnd terms account payload amounts)
        fun _ _ => 0 :=
  .step_bind (recorded_finishTrade ..) fun _ => .readBook_bind fun _ =>
    .record_bind (recorded_tradeOutcome ..)

/-- A trade moves tokens by its fill alone. -/
theorem recorded_short (amount : Nat) (limitPrice : Q96)
    : Recorded (short terms account amount limitPrice) (short terms account amount limitPrice)
        fun _ _ => 0 := by
  unfold short shortBy
  refine .readBook_bind fun _ => .lift_bind fun _ => .lift_bind fun _ => .liftMath_bind fun _ => ?_
  refine .swap_bind fun fill => .readBook_bind fun _ => .lift_bind fun _ => .settle_bind ?_
  refine .liftMath_bind fun _ => .lift_bind fun _ => ?_
  refine .liftBook_bind Book.keepsBalances_credit fun _ => ?_
  refine .liftBook_bind Book.keepsBalances_credit fun _ => ?_
  refine .liftBook_bind Book.keepsBalances_debit fun _ => ?_
  exact recorded_tradeEnd ..

theorem recorded_long (amount : Nat) (limitPrice : Q96)
    : Recorded (long terms account amount limitPrice) (long terms account amount limitPrice)
        fun _ _ => 0 := by
  unfold long longBy
  refine .readBook_bind fun _ => .lift_bind fun _ => .lift_bind fun _ => .liftMath_bind fun _ => ?_
  refine .swap_bind fun fill => .readBook_bind fun _ => .lift_bind fun _ => .settle_bind ?_
  refine .lift_bind fun _ => .liftMath_bind fun _ => ?_
  refine .liftBook_bind Book.keepsBalances_credit fun _ => .lift_bind fun _ => ?_
  refine .liftBook_bind Book.keepsBalances_debit fun _ => ?_
  refine .liftBook_bind Book.keepsBalances_credit fun _ => ?_
  exact recorded_tradeEnd ..

/-- So does a repayment. -/
theorem recorded_repayment (order : SwapOrder) (repaidIn paidIn : Asset) (repaid paid : Fill → Nat)
    (payload : Fill → Book → EventPayload) (amounts : Fill → PerAsset Nat)
    : Recorded (repayment terms account order repaidIn paidIn repaid paid payload amounts)
        (repayment terms account order repaidIn paidIn repaid paid payload amounts)
        fun _ _ => 0 := by
  unfold repayment
  refine .swap_bind fun fill => .settle_bind ?_
  refine .liftBook_bind Book.keepsBalances_credit fun _ => ?_
  exact .liftBook_bind Book.keepsBalances_debit fun _ => recorded_tradeEnd ..

theorem recorded_closePosition (limitPrice : Q96)
    : Recorded (closePosition terms limitPrice) (closePosition terms limitPrice)
        fun _ _ => 0 := by
  unfold closePosition
  refine .readBook_bind fun _ => .lift_bind fun _ => .lift_bind fun _ => .lift_bind fun _ => ?_
  exact .liftMath_bind fun _ => recorded_repayment ..

theorem recorded_sellCollateral (amount : Nat) (limitPrice : Q96)
    : Recorded (sellCollateral terms amount limitPrice) (sellCollateral terms amount limitPrice)
        fun _ _ => 0 := by
  unfold sellCollateral
  simp only
  split
  · exact .throw _
  · refine .readBook_bind fun _ => .lift_bind fun _ => .lift_bind fun _ => ?_
    split
    · exact .throw _
    · exact .liftMath_bind fun _ => recorded_repayment ..

theorem recorded_bookDeposit (amount : Nat)
    : Recorded (bookDeposit terms asset amount account) (bookDeposit terms asset amount account)
        fun _ side => (amountsIn asset amount).get side := by
  unfold bookDeposit
  refine .readBook_bind fun _ => ?_
  simp only
  split
  · exact .throw _
  · refine .lift_bind fun _ => .lift_bind fun _ => .payIn_bind ?_
    refine .liftBook_bind Book.keepsBalances_credit fun _ => ?_
    refine .liftBook_bind Book.keepsBalances_reseatM fun _ => .readBook_bind fun _ => ?_
    exact (Recorded.record _).congr fun _ _ => Int.sub_self _

/-- A deposit brings in its amount; the trade behind it moves tokens by its fill alone. -/
theorem recorded_deposit (amount leveraged : Nat) (limitPrice : Q96) (owner : Option AccountId)
    : Recorded (deposit terms asset amount leveraged limitPrice owner)
        (deposit terms asset amount leveraged limitPrice owner)
        fun _ side => (amountsIn asset amount).get side := by
  unfold deposit depositBy
  simp only
  split
  · exact .throw _
  · refine .lift_bind fun account => .bind (recorded_bookDeposit ..) fun _ => ?_
    split
    · refine .step_bind ?_ fun _ => .lift_bind fun _ => .lift_bind fun _ =>
        .pure fun _ => Int.sub_self _
      cases asset with
      | base => exact recorded_long ..
      | quote => exact recorded_short ..
    · exact .readBook_bind fun _ => .pure fun _ => Int.sub_self _

/-- What a withdrawal pays out: the amount asked for, or the amount that it reports if everything
was asked for.
-/
def withdrawn (asset : Asset) (amount : Nat) (amounts : PerAsset Nat) : PerAsset Nat :=
  amountsIn asset (if amount = Amount.max then amounts.get asset else amount)

theorem recorded_withdraw (amount : Nat)
    : Recorded (withdraw terms asset amount) (withdraw terms asset amount)
        fun outcome side => -((withdrawn asset amount outcome.amounts).get side : Int) := by
  unfold withdraw withdrawBy
  simp only
  split
  · exact .throw _
  · refine .readBook_bind fun _ => .lift_bind fun _ => .lift_bind fun available => ?_
    split
    · exact .throw _
    · generalize isReal : (if amount = Amount.max then available else amount) = real
      refine .lift_bind fun _ => ?_
      split
      · exact .throw _
      · have paid : withdrawn asset amount (amountsIn asset real) = amountsIn asset real := by
          unfold withdrawn
          split
          · rw [get_amountsIn, if_pos rfl]
          · next part => rw [if_neg part] at isReal; rw [isReal]
        refine .liftBook_bind Book.keepsBalances_debit fun _ => .payOut_bind ?_
        refine .liftBook_bind Book.keepsBalances_reseatM fun _ => .readBook_bind fun _ => ?_
        refine .lift_bind fun _ => .liftBook_bind Book.keepsBalances_dropIfEmpty fun _ => ?_
        refine .lift_bind fun _ => .record_bind (.readBook_bind fun _ => .pure fun side => ?_)
        rw [paid]
        exact Int.add_left_neg _

theorem keepsBalances_handOver (bad : Position) (badAccount receiver : AccountId)
    : Book.KeepsBalances (modify fun book => book.handOver bad badAccount receiver : BookM Unit) :=
  Book.keepsBalances_modify fun _ _ => congrArg Ledger.balance (Book.ledger_handOver _)

/-- A takeover brings in both amounts. -/
theorem recorded_takeOver (badAccount : AccountId) (quoteAmount baseAmount : Nat)
    : Recorded (takeOver terms badAccount quoteAmount baseAmount)
        (takeOver terms badAccount quoteAmount baseAmount)
        fun _ side => (PerAsset.mk baseAmount quoteAmount).get side := by
  unfold takeOver
  refine .readBook_bind fun _ => ?_
  simp only
  split
  · exact .throw _
  · refine .lift_bind fun bad => .liftBook_bind (keepsBalances_handOver ..) fun _ => ?_
    refine .payIn_bind (.payIn_bind ?_)
    refine .liftBook_bind Book.keepsBalances_credit fun _ => ?_
    refine .liftBook_bind Book.keepsBalances_credit fun _ => ?_
    refine .liftBook_bind Book.keepsBalances_reseatM fun _ => .readBook_bind fun _ => ?_
    refine .lift_bind fun _ => .liftBook_bind Book.keepsBalances_refreshLeverage fun _ => ?_
    refine .readBook_bind fun _ => .record_bind (.readBook_bind fun _ => .pure fun side => ?_)
    simp only [get_amountsIn]
    cases side <;> simp only [PerAsset.get, reduceCtorEq, if_true, if_false] <;> omega

theorem recorded_freeze : Recorded (freeze terms asset) (freeze terms asset) fun _ _ => 0 := by
  unfold freeze
  refine .readBook_bind fun _ => .lift_bind fun _ => .record_bind (.liftBook ?_)
  exact Book.KeepsBalances.nets (Book.keepsBalances_modify fun _ _ => rfl)

/-- The way out of a frozen pool pays out both amounts that it reports. -/
theorem recorded_emergencyWithdraw
    : Recorded (emergencyWithdraw account) (emergencyWithdraw account)
        fun outcome side => -(outcome.amounts.get side : Int) := by
  unfold emergencyWithdraw
  refine .readBook_bind fun book => ?_
  cases book.snapshot with
  | none => exact .throw _
  | some snapshot =>
      cases book.position? account with
      | none => exact .throw _
      | some position =>
          refine .lift_bind fun _ => .liftMath_bind fun amounts => ?_
          refine .liftBook_bind Book.keepsBalances_removePosition fun _ => ?_
          refine .payOut_bind (.payOut_bind (.record_bind (.pure fun side => ?_)))
          simp only [get_amountsIn]
          cases side <;> simp only [PerAsset.get, reduceCtorEq, if_true, if_false] <;> omega

end Operations

-----
-- Liquidations
-----

section Liquidations

variable (terms : Terms) (asset : Asset) (shortfall kept : Nat)

theorem recorded_chargeCounterparties
    : Recorded (chargeCounterparties asset shortfall kept)
        (chargeCounterparties asset shortfall kept) fun _ _ => 0 := by
  unfold chargeCounterparties chargeCounterpartiesBy
  refine .readBook_bind fun _ => .liftBook_bind Book.keepsBalances_chargeBorrowers fun _ => ?_
  refine .readBook_bind fun _ => .lift_bind fun _ => ?_
  refine .liftBook_bind Book.keepsBalances_relieveDebt fun _ => .lift_bind fun _ => ?_
  exact .liftBook_bind Book.keepsBalances_shareAmongLenders fun _ => .record _

theorem recorded_chargeSameSide
    : Recorded (chargeSameSide terms asset shortfall kept)
        (chargeSameSide terms asset shortfall kept) fun _ _ => 0 := by
  unfold chargeSameSide
  refine .liftBook_bind Book.keepsBalances_shareAmongLenders fun _ => .readBook_bind fun _ => ?_
  simp only
  split
  · exact recorded_freeze ..
  · exact .liftBook_bind Book.keepsBalances_raiseDebt fun _ => .record _

theorem recorded_placeShortfall
    : Recorded (placeShortfall terms asset shortfall kept)
        (placeShortfall terms asset shortfall kept) fun _ _ => 0 := by
  unfold placeShortfall placeShortfallBy
  refine .readBook_bind fun _ => .lift_bind fun _ => ?_
  split
  · exact recorded_chargeCounterparties ..
  · exact recorded_chargeSameSide ..

/-- Seized collateral is sold by a fill or kept, and no token moves for what is kept. -/
theorem recorded_sellSeized (seized : Nat)
    : Recorded (sellSeized terms asset seized) (sellSeized terms asset seized) fun _ _ => 0 := by
  unfold sellSeized
  simp only
  split
  · exact .pure fun _ => rfl
  · refine .readBook_bind fun _ => ?_
    split
    · exact .pure fun _ => rfl
    · refine .liftMath_bind fun _ => .liftMath_bind fun _ => ?_
      refine .bind (recorded_attempt _) fun answer => ?_
      cases answer with
      | ok fill =>
          refine .bind (.liftBook (Book.nets_settle ..)) fun _ => .pure fun side => ?_
          simp only [attemptGain]
          omega
      | error error => exact .pure fun _ => rfl

theorem recorded_marginCall (account : AccountId)
    : Recorded (marginCall terms account) (marginCall terms account) fun _ _ => 0 := by
  have placing : ∀ debtAsset shortfall kept,
      Recorded (if 0 < shortfall then placeShortfall terms debtAsset shortfall kept else pure ())
        (if 0 < shortfall then placeShortfall terms debtAsset shortfall kept else pure ())
        fun _ _ => 0 := by
    intro debtAsset shortfall kept
    split
    · exact recorded_placeShortfall ..
    · exact .pure fun _ => rfl
  unfold marginCall marginCallBy
  refine .readBook_bind fun book => ?_
  cases book.position? account with
  | none => exact .throw _
  | some position =>
      simp only
      cases position.kind.debtAsset? with
      | none => exact .throw _
      | some debtAsset =>
          refine .lift_bind fun _ => .lift_bind fun _ => ?_
          refine .liftBook_bind Book.keepsBalances_removePosition fun _ => ?_
          refine .step_bind (recorded_sellSeized ..) fun _ => .lift_bind fun _ => ?_
          split
          · exact .liftBook_bind Book.keepsBalances_shareAmongLenders fun _ =>
              .record_bind (placing ..)
          · exact .record_bind (placing ..)

/-- Sweeping a heap moves tokens by fills alone, by induction on the fuel. -/
theorem recorded_sweepHeap (fuel : Nat) (liquidated : List AccountId)
    : Recorded (sweepHeap terms asset fuel liquidated) (sweepHeap terms asset fuel liquidated)
        fun _ _ => 0 := by
  induction fuel generalizing liquidated with
  | zero => exact .pure fun _ => rfl
  | succ fuel ih =>
      unfold sweepHeap
      refine .readBook_bind fun book => ?_
      split
      · exact .pure fun _ => rfl
      · cases (book.heap asset).peek? with
        | none => exact .pure fun _ => rfl
        | some root =>
            refine .lift_bind fun due => ?_
            split
            · exact .step_bind (recorded_marginCall ..) fun _ => ih _
            · exact .pure fun _ => rfl

theorem recorded_sweepSide (liquidated : List AccountId)
    : Recorded (sweepSide terms asset liquidated) (sweepSide terms asset liquidated)
        fun _ _ => 0 :=
  .readBook_bind fun _ => recorded_sweepHeap ..

/-- Sweeping both heaps moves tokens by fills alone, by induction on the fuel. -/
theorem recorded_sweepBoth (fuel : Nat) (liquidated : List AccountId)
    : Recorded (sweepBoth terms fuel liquidated) (sweepBoth terms fuel liquidated)
        fun _ _ => 0 := by
  induction fuel generalizing liquidated with
  | zero => exact .pure fun _ => rfl
  | succ fuel ih =>
      unfold sweepBoth
      refine .step_bind (recorded_sweepSide ..) fun _ => ?_
      refine .step_bind (recorded_sweepSide ..) fun _ => ?_
      refine .readBook_bind fun _ => ?_
      split
      · exact .pure fun _ => rfl
      · exact ih _

theorem recorded_liquidateDue
    : Recorded (liquidateDue terms) (liquidateDue terms) fun _ _ => 0 := by
  unfold liquidateDue
  refine .readBook_bind fun _ => .step_bind (recorded_sweepBoth ..) fun _ => ?_
  refine .readBook_bind fun _ => ?_
  split
  · exact .pure fun _ => rfl
  · exact .liftBook_bind Book.keepsBalances_refreshLeverage fun _ => .pure fun _ => rfl

theorem recorded_bringUpToDate
    : Recorded (bringUpToDate terms) (bringUpToDate terms) fun _ _ => 0 := by
  unfold bringUpToDate
  refine .readBook_bind fun _ => .liftBook_bind Book.keepsBalances_accrue fun _ => ?_
  split
  · exact .pure fun _ => rfl
  · refine .readBook_bind fun _ => .record_bind (.step_bind (recorded_liquidateDue _) fun _ => ?_)
    split
    · exact .pure fun _ => rfl
    · refine .readBook_bind fun _ => ?_
      split
      · exact .pure fun _ => rfl
      · refine .lift_bind fun due => ?_
        split
        · exact .step_bind (recorded_marginCall ..) fun _ =>
            .liftBook_bind Book.keepsBalances_refreshLeverage fun _ => .pure fun _ => rfl
        · exact .pure fun _ => rfl

end Liquidations

end Pool

end MarginLending
