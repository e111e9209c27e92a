import MarginLending.Json.Basic
import MarginLending.Position

/-!
The JSON form of positions.
-/

namespace MarginLending

/-- The name of a kind of position. -/
def PositionKind.toJson : PositionKind → Json
  | .uninitialized => .string "Uninitialized"
  | .lend => .string "Lend"
  | .short => .string "Short"
  | .long => .string "Long"

/-- The side of a balance with its amount. -/
def Holding.toJson : Holding → Json
  | .collateral amount => .record [("Collateral", .nat amount)]
  | .debt amount => .record [("Debt", .nat amount)]

namespace Position

/-- Both balances and the slot. -/
def toJson (position : Position) : Json :=
  .record
    [("base", position.holdings.base.toJson),
      ("quote", position.holdings.quote.toJson),
      ("heap_index", .nat position.heapIndex)]

/-- The compact JSON text. -/
def write (position : Position) : String := position.toJson.write

end Position

end MarginLending
