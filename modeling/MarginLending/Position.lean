import MarginLending.Asset
import MarginLending.Fixed.Amount
import MarginLending.Heap

/-!
Positions: one discounted balance per asset, each either collateral or debt. What kind of position
an account has follows from which side carries debt and is never stored.
-/

namespace MarginLending

/-- A discounted balance in one asset. -/
inductive Holding where
  | collateral (amount : Nat)
  | debt (amount : Nat)
  deriving DecidableEq, Repr

namespace Holding

/-- No balance at all. -/
def empty : Holding := .collateral 0

/-- The balance, whichever side it is on. -/
def amount : Holding → Nat
  | .collateral n => n
  | .debt n => n

/-- The balance if it is collateral, else zero. -/
def collateralAmount : Holding → Nat
  | .collateral n => n
  | .debt _ => 0

/-- The balance if it is debt, else zero. -/
def debtAmount : Holding → Nat
  | .collateral _ => 0
  | .debt n => n

def isZero (holding : Holding) : Bool := holding.amount == 0

/-- Whether the balance is debt, and not an empty one. -/
def isDebt (holding : Holding) : Bool := decide (0 < holding.debtAmount)

/-- Nothing owed is the same as nothing held; this keeps one spelling of it. -/
def normalized : Holding → Holding
  | .debt 0 => .collateral 0
  | other => other

@[simp] theorem collateralAmount_normalized (holding : Holding)
    : holding.normalized.collateralAmount = holding.collateralAmount := by
  unfold normalized
  split <;> simp [collateralAmount]

@[simp] theorem debtAmount_normalized (holding : Holding)
    : holding.normalized.debtAmount = holding.debtAmount := by
  unfold normalized
  split <;> simp [debtAmount]

end Holding

/-- What an account does in the pool. -/
inductive PositionKind where
  | uninitialized
  | lend
  | short
  | long
  deriving DecidableEq, Repr

namespace PositionKind

/-- The asset that a leveraged position owes: shorts owe base, longs owe quote. -/
def debtAsset? : PositionKind → Option Asset
  | .short => some .base
  | .long => some .quote
  | .lend | .uninitialized => none

/-- The leveraged position that owes an asset. -/
def ofDebt : Asset → PositionKind
  | .base => .short
  | .quote => .long

/-- The kind as it is written in reports. -/
def label : PositionKind → String
  | .uninitialized => "uninitialized"
  | .lend => "lend"
  | .short => "short"
  | .long => "long"

@[simp] theorem debtAsset?_ofDebt (asset : Asset) : (ofDebt asset).debtAsset? = some asset := by
  cases asset <;> rfl

end PositionKind

/-- An account's balances and its slot in the heap of its kind, zero when it is in none. -/
structure Position where
  holdings : PerAsset Holding
  heapIndex : Nat
  deriving DecidableEq, Repr

namespace Position

/-- A position that holds nothing. -/
def empty : Position := ⟨.both .empty, 0⟩

/-- A position of discounted collateral in both assets. -/
def lender (base quote : Nat) : Position :=
  ⟨⟨.collateral base, .collateral quote⟩, 0⟩

def holding (position : Position) (asset : Asset) : Holding :=
  position.holdings.get asset

def setHolding (position : Position) (asset : Asset) (holding : Holding) : Position :=
  { position with holdings := position.holdings.set asset holding }

/-- Base debt makes a short, quote debt alone a long. No booked position owes both. -/
def kind (position : Position) : PositionKind :=
  if position.holdings.base.isDebt then .short
  else if position.holdings.quote.isDebt then .long
  else if position.holdings.base.isZero && position.holdings.quote.isZero then .uninitialized
  else .lend

/-- Whether something is owed. -/
def isLeveraged (position : Position) : Bool := position.kind.debtAsset?.isSome

/-- Fraction bits of a rank. -/
def rankBits : Nat := 48

/-- The rank of a leveraged position: discounted debt over discounted collateral, held at the
largest amount. It orders heaps and nothing else.
-/
def sortKey (position : Position) : Nat :=
  match position.kind.debtAsset? with
  | none => 0
  | some asset =>
      let debt := (position.holding asset).debtAmount
      let collateral := (position.holding asset.other).collateralAmount
      if collateral = 0 then Amount.max
      else min (debt * Nat.pow 2 rankBits / collateral) Amount.max

/-- The node that ranks an account's position. -/
def heapNode (position : Position) (account : AccountId) : HeapNode :=
  ⟨position.sortKey, account⟩

end Position

end MarginLending
