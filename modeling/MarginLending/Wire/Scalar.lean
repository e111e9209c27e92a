import MarginLending.Account
import MarginLending.Fixed.Q96
import MarginLending.Json.Fields
import MarginLending.Json.Numeral
import MarginLending.Text.HexWord

/-!
The JSON form of single values. Amounts and account numbers are bare numbers, decimals are texts
that keep their scale, and fixed-point numbers are their raw words in hexadecimal.
-/

namespace MarginLending

namespace Json

/-- A token amount. -/
def amount? : Json → Option Nat := natBelow? amountLimit

/-- A word of 32 bits. -/
def short? : Json → Option Nat := natBelow? (Nat.pow 2 32)

end Json

namespace AccountId

/-- The account number. -/
def toJson (account : AccountId) : Json := .nat account.number

/-- An account number of 64 bits. -/
def ofJson? (json : Json) : Option AccountId :=
  (json.natBelow? (Nat.pow 2 64)).map AccountId.mk

end AccountId

namespace Decimal

/-- The text with all fraction digits. -/
def toJson (d : Decimal) : Json := .string d.text

/-- A text in either notation, or a bare number. -/
def ofJson? : Json → Option Decimal
  | .text (some text) => readAny? text.toList
  | .number numeral => numeral.toDecimal?
  | _ => none

end Decimal

namespace Q96

/-- The raw word as a text. -/
def toJson (q : Q96) : Json := .string (String.ofList (HexWord.render q.raw))

/-- Any word that a text names. -/
def ofJson? (json : Json) : Option Q96 := do
  let text ← json.string?
  return ⟨← HexWord.read? text.toList⟩

end Q96

end MarginLending
