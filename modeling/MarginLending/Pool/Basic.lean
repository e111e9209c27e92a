import MarginLending.Book.Accrual
import MarginLending.Book.Ranking
import MarginLending.Call
import MarginLending.Event

/-!
The pool: a book with its venue, its clock and the events of the calls that went through. Every
call runs atomically: it fails as if it had never touched the book, or its changes and its events
stay together. What a call made the venue do stays done either way.
-/

namespace MarginLending

/-- Settings of a pool that are not risk parameters. -/
structure PoolOptions where
  /-- How many events are kept, the latest ones. -/
  maxEvents : Nat
  /-- The account that may change the parameters. -/
  admin : AccountId

/-- The usual settings, with a given administrator. -/
def PoolOptions.withAdmin (admin : AccountId) : PoolOptions := ⟨100000, admin⟩

/-- The usual settings. -/
def PoolOptions.default : PoolOptions := .withAdmin ⟨1⟩

/-- A pool that swaps through a venue. Pending events belong to the call in progress. -/
structure Pool (V : Type) where
  options : PoolOptions
  book : Book
  venue : V
  pending : List EventPayload
  events : List Event
  nextEventId : Nat
  now : Timestamp

/-- Actions on a pool. -/
abbrev PoolM (V : Type) := EStateM PoolError (Pool V)

/-- What is fixed when a call starts: who calls, the price of base, the route of its swaps, and the
time.
-/
structure Terms where
  caller : AccountId
  price : Q96
  route : Nat
  now : Timestamp

/-- What a call reports: the real amounts it moved, the slot of the affected position, and whether
the caller's own position was liquidated instead.
-/
structure Outcome where
  amounts : PerAsset Nat
  heapIndex : Nat
  marginCalled : Bool
  deriving DecidableEq, Repr

/-- Nothing moved. -/
def Outcome.nothing : Outcome := ⟨.both 0, 0, false⟩

/-- An action on the book is an action on its pool. -/
instance {V : Type} : MonadLift BookM (PoolM V) where
  monadLift action := fun pool =>
    match action pool.book with
    | .ok value book => .ok value { pool with book }
    | .error error book => .error error { pool with book }

namespace Pool

variable {V : Type}

/-- A pool without positions that starts at a time, if the parameters are acceptable. -/
def new (options : PoolOptions) (parameters : Parameters) (venue : V) (start : Timestamp)
    : Except PoolError (Pool V) :=
  match parameters.validate with
  | .error error => .error (.parameters error)
  | .ok () =>
      .ok {
        options := options
        book := .new parameters start
        venue := venue
        pending := []
        events := []
        nextEventId := 1
        now := start }

/-- Sets the clock. -/
def setTime (pool : Pool V) (time : Timestamp) : Pool V := { pool with now := time }

/-- Moves the clock forward. -/
def advance (pool : Pool V) (seconds : Nat) : Pool V :=
  { pool with now := pool.now.plus seconds }

/-- The last events, at most a given number. -/
def recentEvents (pool : Pool V) (count : Nat) : List Event :=
  pool.events.drop (pool.events.length - count)

/-- Numbers an event and keeps it, dropping the oldest ones beyond the limit. -/
def emit (pool : Pool V) (payload : EventPayload) : Pool V :=
  let events := pool.events ++ [⟨pool.nextEventId, pool.now, payload⟩]
  { pool with
    events := events.drop (events.length - pool.options.maxEvents)
    nextEventId := pool.nextEventId + 1 }

/-- Keeps the book as it is and emits the pending events. -/
def commit (pool : Pool V) : Pool V :=
  pool.pending.foldl emit { pool with book := pool.book.commit, pending := [] }

/-- Puts the book back and forgets the pending events. -/
def rollback (pool : Pool V) : Pool V :=
  { pool with book := pool.book.rollback, pending := [] }

/-- Runs an action that either goes through as a whole or leaves no trace in the book. -/
def atomically {α : Type} (action : PoolM V α) : PoolM V α := fun pool =>
  match action { pool with book := pool.book.openJournal } with
  | .ok value pool => .ok value pool.commit
  | .error error pool => .error error pool.rollback

/-- Runs an action and answers its failure instead of failing. -/
def attempt {α : Type} (action : PoolM V α) : PoolM V (Except PoolError α) := fun pool =>
  match action pool with
  | .ok value pool => .ok (.ok value) pool
  | .error error pool => .ok (.error error) pool

/-- The book as it is now. -/
def readBook : PoolM V Book := do
  return (← get).book

/-- Adds an event to those of the call in progress. -/
def record (payload : EventPayload) : PoolM V Unit :=
  modify fun pool => { pool with pending := pool.pending ++ [payload] }

/-- The venue's price of base. -/
def price [Venue V] (pool : Pool V) : Except PoolError Q96 := do
  return ← Venue.basePrice pool.venue

/-- The venue's price of base, for a call. -/
def readPrice [Venue V] : PoolM V Q96 := do
  (← get).price

/-- Leverage of an account's position at the venue's price. -/
def positionLeverage [Venue V] (pool : Pool V) (account : AccountId) : Except PoolError Q96 :=
  match pool.book.position? account with
  | none => .error (.uninitializedPosition account)
  | some position => do
      pool.book.positionLeverage position (← pool.price)

/-- Uncapped leverage of the side that owes an asset, at the venue's price. -/
def systemLeverage [Venue V] (pool : Pool V) (debtAsset : Asset) : Except PoolError Q96 := do
  pool.book.systemLeverage debtAsset (← pool.price)

/-- Sends an order to the venue. An answer outside the order's limit fails like a refused limit,
whether the venue says so or gives such a fill. Balances are settled by the caller.
-/
def swap [Venue V] (order : SwapOrder) : PoolM V Fill := do
  let pool ← get
  let (answer, venue) := Venue.swap pool.venue order
  set { pool with venue }
  match answer with
  | .error (.insufficientOutput ..) | .error (.excessiveInput ..) => throw .slippageLimit
  | .error error => throw (.swap error)
  | .ok fill => if order.isHonouredBy fill then return fill else throw .slippageLimit

end Pool

end MarginLending
