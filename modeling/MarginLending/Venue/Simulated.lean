import MarginLending.Fixed.Conversion
import MarginLending.Venue.Basic

/-!
A venue in memory that fills every order at its price made worse by a fixed slippage, and a variant
whose answers can be prepared and whose orders are written down.
-/

namespace MarginLending

/-- A venue at a set price. A halted one refuses to swap but keeps quoting. It crashes when a quote
leaves the range of decimals: that order has no answer, so nothing that rests on one counts. A crash
changes neither the price nor the count of swaps.
-/
structure SimulatedVenue where
  price : Q96
  slippage : Decimal
  halted : Bool
  swapsExecuted : Nat
  crashed : Bool

/-- Why a simulated venue cannot quote. -/
inductive QuoteError where
  | math (error : MathError)
  | crash
  deriving DecidableEq, Repr

namespace SimulatedVenue

/-- A venue at a price, without slippage. -/
def new (price : Decimal) : Except MathError SimulatedVenue := do
  return ⟨← Q96.ofDecimal price, .zero, false, 0, false⟩

/-- Moves the price. -/
def setPrice (venue : SimulatedVenue) (price : Decimal) : Except MathError SimulatedVenue := do
  return { venue with price := ← Q96.ofDecimal price }

/-- An exact result, or the venue's crash. -/
def orCrash {α : Type} : Option α → Except QuoteError α
  | some value => .ok value
  | none => .error .crash

/-- What an amount of one asset is worth in the other at the set price. -/
def worth (venue : SimulatedVenue) (asset : Asset) (amount : Nat) : Except QuoteError Nat :=
  let valued :=
    match asset with
    | .base => venue.price.scale amount
    | .quote => venue.price.unscale amount
  valued.mapError .math

/-- An amount as a decimal. -/
def asDecimal (amount : Nat) : Except QuoteError Decimal :=
  match Decimal.ofNat? amount with
  | some d => .ok d
  | none => .error (.math .overflow)

/-- A whole number as an amount. -/
def asAmount (n : Int) : Except QuoteError Nat :=
  if n < 0 then .error (.math .overflow) else .ok n.toNat

/-- What comes out for an input, rounded down. -/
def quoteOut (venue : SimulatedVenue) (tokenIn : Asset) (amountIn : Nat)
    : Except QuoteError Nat := do
  let atPrice ← asDecimal (← venue.worth tokenIn amountIn)
  let kept ← orCrash (Decimal.one.sub? venue.slippage)
  let out ← orCrash (atPrice.mul? kept)
  asAmount out.floor

/-- What must go in for an output, rounded up. -/
def quoteIn (venue : SimulatedVenue) (tokenIn : Asset) (amountOut : Nat)
    : Except QuoteError Nat := do
  let atPrice ← venue.worth tokenIn.other amountOut
  let kept ← orCrash (Decimal.one.sub? venue.slippage)
  if kept.mantissa ≤ 0 then throw (.math .divisionByZero)
  let needed ← orCrash ((← asDecimal atPrice).div? kept)
  asAmount needed.ceil

/-- The fill that the venue offers for an order, if it keeps to the limit. -/
def offer (venue : SimulatedVenue) (order : SwapOrder)
    : Except QuoteError (Except SwapError Fill) := do
  if order.exactInput then
    let out ← venue.quoteOut order.tokenIn order.amount
    if out < order.limit then return .error (.insufficientOutput order.limit out)
    return .ok ⟨order.amount, out⟩
  else
    let needed ← venue.quoteIn order.tokenIn order.amount
    if order.limit < needed then return .error (.excessiveInput order.limit needed)
    return .ok ⟨needed, order.amount⟩

/-- Fills an order at the price and the slippage, and counts it. -/
def swap (venue : SimulatedVenue) (order : SwapOrder) : Except SwapError Fill × SimulatedVenue :=
  if venue.halted then (.error (.unavailable "venue halted"), venue)
  else
    match venue.offer order with
    | .ok (.ok fill) => (.ok fill, { venue with swapsExecuted := venue.swapsExecuted + 1 })
    | .ok (.error error) => (.error error, venue)
    | .error (.math error) => (.error (.math error), venue)
    | .error .crash => (.error (.unavailable "venue crashed"), { venue with crashed := true })

instance : Venue SimulatedVenue where
  basePrice venue := if venue.price.isZero then .error .zeroPrice else .ok venue.price
  swap := swap

end SimulatedVenue

/-- An order with what the venue answered. -/
structure SwapRecord where
  order : SwapOrder
  answer : Except SwapError Fill

/-- A simulated venue whose price feed can go down, which answers with prepared fills as long as
there are any, and which writes down every order.
-/
structure ScriptedVenue where
  venue : SimulatedVenue
  oracleDown : Bool
  prepared : List Fill
  log : List SwapRecord

namespace ScriptedVenue

/-- A scripted venue at a price, with nothing prepared. -/
def new (price : Decimal) : Except MathError ScriptedVenue := do
  return ⟨← SimulatedVenue.new price, false, [], []⟩

/-- The answer to an order: the first prepared fill, or what the simulated venue says. -/
def answer (scripted : ScriptedVenue) (order : SwapOrder)
    : Except SwapError Fill × ScriptedVenue :=
  match scripted.prepared with
  | fill :: rest => (.ok fill, { scripted with prepared := rest })
  | [] =>
      let (answer, venue) := scripted.venue.swap order
      (answer, { scripted with venue })

instance : Venue ScriptedVenue where
  basePrice scripted :=
    if scripted.oracleDown then .error .unavailable else Venue.basePrice scripted.venue
  swap scripted order :=
    let (answer, next) := scripted.answer order
    (answer, { next with log := next.log ++ [⟨order, answer⟩] })

end ScriptedVenue

end MarginLending
