import MarginLending.Pool.Execute
import MarginLending.Venue.Simulated

/-!
A walk through the life of a pool in five scenarios: lending, a change of sides, a liquidation, a
takeover and an emergency. Each scenario writes what it did line by line and stops at the first
call that is refused.
-/

namespace MarginLending.Simulation

/-- A scenario in progress: its pool and the lines written so far. -/
structure Session where
  pool : Pool SimulatedVenue
  lines : List String

/-- Steps of a scenario. -/
abbrev SessionM := EStateM PoolError Session

/-- An action on the pool is a step. -/
instance : MonadLift (PoolM SimulatedVenue) SessionM where
  monadLift action := fun session =>
    match action session.pool with
    | .ok value pool => .ok value { session with pool }
    | .error error pool => .error error { session with pool }

/-- A named walk on a pool of its own. -/
structure Scenario where
  name : String
  title : String
  parameters : Parameters
  script : SessionM Unit

/-- What a run wrote and, if a scenario was refused something, the complaint about it. -/
structure Report where
  lines : List String
  complaint : Option String

def administrator : AccountId := ⟨1⟩

def alice : AccountId := ⟨10⟩

def bob : AccountId := ⟨11⟩

def carol : AccountId := ⟨20⟩

def dave : AccountId := ⟨21⟩

def keeper : AccountId := ⟨99⟩

/-- The account's name in the report. -/
def nameOf (account : AccountId) : String :=
  if account = alice then "Alice"
  else if account = bob then "Bob"
  else if account = carol then "Carol"
  else if account = dave then "Dave"
  else account.label

-----
-- Steps
-----

/-- Writes a line. -/
def say (line : String) : SessionM Unit :=
  modify fun session => { session with lines := session.lines ++ [line] }

/-- Sends a request of a kind with two amounts. -/
def send (account : AccountId) (kind : CallKind) (amount1 amount2 : Nat) : SessionM Outcome :=
  (Pool.execute account { Request.ofKind kind with amount1, amount2 }
    : PoolM SimulatedVenue Outcome)

/-- Deposits collateral in both assets, where the amount is not zero. -/
def lend (account : AccountId) (base quote : Nat) : SessionM Unit := do
  if 0 < base then
    let _ ← send account .depositBase base 0
  if 0 < quote then
    let _ ← send account .depositQuote quote 0

/-- Moves the venue's price. -/
def setPrice (price : Decimal) : SessionM Unit := do
  let venue ← ((← get).pool.venue.setPrice price : Except MathError SimulatedVenue)
  modify fun session => { session with pool := { session.pool with venue } }

/-- Lets days pass. -/
def wait (days : Nat) : SessionM Unit :=
  modify fun session => { session with pool := session.pool.advance (days * secondsInDay) }

/-- Lets the keeper bring the books up to date. -/
def update : SessionM Unit := do
  let _ ← (Pool.executeCall keeper .reinit : PoolM SimulatedVenue Outcome)

/-- Leverage with two fraction digits; an account without a position has none. -/
def leverageText (pool : Pool SimulatedVenue) (account : AccountId) : Except PoolError String := do
  match pool.book.kindOf account with
  | .uninitialized => return Decimal.zero.text
  | _ => return ((← pool.positionLeverage account).toDecimal.roundTo 2).text

/-- Writes what an account holds. -/
def describe (account : AccountId) (label : String) : SessionM Unit := do
  let pool := (← get).pool
  let base ← pool.book.realAmount account .base
  let quote ← pool.book.realAmount account .quote
  let leverage ← leverageText pool account
  say ("  " ++ label ++ ": " ++ (pool.book.kindOf account).label ++ ", base " ++ toString base
    ++ ", quote " ++ toString quote ++ ", leverage " ++ leverage ++ "x")

/-- Writes an account's holdings under its name. -/
def describeNamed (account : AccountId) : SessionM Unit :=
  describe account (nameOf account)

-----
-- Scenarios
-----

/-- Lenders supply both assets, a trader goes short, and a month of interest accrues. -/
def lendingAndInterest : Scenario where
  name := "lending and interest"
  title := "Scenario 1: Lending and Interest"
  parameters := .default
  script := do
    lend alice 10000 0
    lend bob 0 10000
    say "  Alice lends 10,000 base, Bob lends 10,000 quote"
    let outcome ← send carol .depositQuote 1000 5000
    say ("  Carol deposits 1,000 quote and shorts 5,000 base for "
      ++ toString outcome.amounts.quote ++ " quote (heap slot " ++ toString outcome.heapIndex
      ++ ")")
    describeNamed carol
    wait 30
    update
    say ""
    say "  30 days later"
    describeNamed alice
    describeNamed carol
    let earned ← (← get).pool.book.realAmount .feeHolder .base
    say ("  Fee holder earned " ++ toString earned ++ " base")
    say ""

/-- A short buys back more than it owes and ends up long. -/
def changeOfSides : Scenario where
  name := "short to long flip"
  title := "Scenario 2: Short to Long Flip"
  parameters := .default
  script := do
    lend alice 10000 0
    lend bob 0 10000
    let _ ← send carol .depositQuote 1000 2000
    describe carol "Carol after short"
    let flip := { Request.ofKind .long with amount1 := 3000, priceLimit := .ofNat 2 }
    let _ ← (Pool.execute carol flip : PoolM SimulatedVenue Outcome)
    describe carol "Carol after long"
    let book := (← get).pool.book
    say ("  Short heap " ++ toString (book.heap .base).size ++ ", long heap "
      ++ toString (book.heap .quote).size)
    say ""

/-- The line about a margin call; other events have none. -/
def marginCallLine? (event : Event) : Option String :=
  match event.payload with
  | .marginCall call =>
      some ("  Margin call on " ++ call.account.label ++ ": seized "
        ++ toString call.collateralSeized ++ ", debt " ++ toString call.debtClosed ++ ", surplus "
        ++ toString call.surplus ++ ", shortfall " ++ toString call.shortfall)
  | _ => none

/-- A jump of the price puts the most leveraged short over the bound. -/
def liquidation : Scenario where
  name := "auto-liquidation"
  title := "Scenario 3: Auto-liquidation"
  parameters := .testnet
  script := do
    lend alice 10000 10000
    lend bob 10000 10000
    let _ ← send carol .depositQuote 500 7500
    let _ ← send dave .depositQuote 1000 7400
    describeNamed carol
    describeNamed dave
    setPrice (.ofDigits 103 2)
    wait 20
    say ""
    say "  Price moves to 1.03, 20 days pass, keeper calls reinit"
    update
    for line in (← get).pool.events.filterMap marginCallLine? do
      say line
    describeNamed carol
    describeNamed dave
    say ""

/-- A liquidator repays a bad short's debt and keeps what is left of the position. -/
def takeover : Scenario where
  name := "liquidation takeover"
  title := "Scenario 4: Liquidation Takeover"
  parameters := .testnet
  script := do
    lend alice 10000 0
    lend bob 0 10000
    let _ ← send carol .depositQuote 500 7500
    wait 20
    update
    setPrice (.ofDigits 103 2)
    describe carol "Carol at 1.03"
    let request :=
      { Request.ofKind .receivePosition with amount1 := 356, amount2 := 7700, owner := some carol }
    let _ ← (Pool.execute dave request : PoolM SimulatedVenue Outcome)
    say "  Dave receives Carol's position with 356 quote and 7,700 base"
    describeNamed dave
    say ""

/-- Writes what an account gets out of a frozen pool. -/
def leave (account : AccountId) : SessionM Unit := do
  let paid ←
    (Pool.executeCall account (.emergencyWithdraw false) : PoolM SimulatedVenue Outcome)
  say ("  " ++ account.label ++ " withdraws " ++ toString paid.amounts.base ++ " base and "
    ++ toString paid.amounts.quote ++ " quote")

/-- All base is lent out and the short side goes under. -/
def emergency : Scenario where
  name := "emergency shutdown"
  title := "Scenario 5: Emergency Shutdown"
  parameters := .testnet
  script := do
    lend alice 1000 0
    let _ ← send carol .depositQuote 100 1000
    setPrice (.ofDigits 15 1)
    let mode ← (Pool.shutDown keeper : PoolM SimulatedVenue Mode)
    say ("  Price moves to 1.5, pool enters " ++ mode.label)
    leave alice
    leave carol

/-- All scenarios in order. -/
def scenarios : List Scenario :=
  [lendingAndInterest, changeOfSides, liquidation, takeover, emergency]

-----
-- Running
-----

/-- A fresh pool for a scenario, at price one. -/
def Scenario.start (scenario : Scenario) (time : Timestamp)
    : Except PoolError (Pool SimulatedVenue) := do
  Pool.new (.withAdmin administrator) scenario.parameters (← SimulatedVenue.new .one) time

/-- Runs a scenario: its lines, and why it stopped early if it did. -/
def Scenario.run (scenario : Scenario) (time : Timestamp) : List String × Option PoolError :=
  let heading := [scenario.title, ""]
  match scenario.start time with
  | .error error => (heading, some error)
  | .ok pool =>
      match scenario.script ⟨pool, heading⟩ with
      | .ok _ session => (session.lines, none)
      | .error error session => (session.lines, some error)

/-- Runs scenarios in order and stops behind the first one that is refused something. -/
def runAll (time : Timestamp) : List Scenario → Report
  | [] => ⟨["", "All simulations completed successfully."], none⟩
  | scenario :: rest =>
      match scenario.run time with
      | (lines, some error) =>
          ⟨lines, some ("  scenario '" ++ scenario.name ++ "' failed: " ++ error.message)⟩
      | (lines, none) =>
          let report := runAll time rest
          { report with lines := lines ++ report.lines }

/-- Runs the whole simulation from a time on. -/
def report (time : Timestamp) : Report :=
  let heading := ["Margin Pool Simulation", "Two assets, leverage heaps, auto-liquidation", ""]
  let body := runAll time scenarios
  { body with lines := heading ++ body.lines }

/-- The exit code of a run. -/
def Report.exitCode (report : Report) : Nat :=
  if report.complaint.isSome then 1 else 0

end MarginLending.Simulation
