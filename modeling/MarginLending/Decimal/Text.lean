import MarginLending.Decimal.Arithmetic
import MarginLending.Text.Digits

/-!
Decimals as text. Writing keeps every fraction digit the scale asks for. Reading takes an optional
sign, digits with at most one point, and lets an underscore follow a digit; digits beyond the
range round the last one kept, a half up. A second form carries a power of ten after an e, and
rounds the same way where the power pushes digits out of range.
-/

namespace MarginLending.Decimal

/-- The sign, the whole part and, if the scale is not zero, a point and the fraction digits. -/
def render (d : Decimal) : List Char :=
  let sign := if d.negative then ['-'] else []
  let whole := Digits.decimal (d.digits / Nat.pow 10 d.scale)
  let fraction :=
    if d.scale = 0 then [] else '.' :: Digits.render (Digits.fixed 10 d.scale d.digits)
  sign ++ whole ++ fraction

/-- The written form as a string. -/
def text (d : Decimal) : String := String.ofList d.render

/-- What may stand behind the digit that decides the rounding: digits, which count for nothing, and
underscores.
-/
def isTail (text : List Char) : Bool :=
  text.all fun c => c == '_' || (Digits.value? c).isSome

/-- The first character that no longer fits: its digit decides whether the mantissa goes up. An
underscore decides as a zero does.
-/
def readLast (negative : Bool) (mantissa scale : Nat) (next : Char) (rest : List Char)
    : Option Decimal := do
  let digit ← if next = '_' then some 0 else Digits.value? next
  if !isTail rest then none
  else if digit < 5 then ofParts? (withSign negative mantissa) scale
  else if mantissa + 1 < mantissaLimit then
    ofParts? (withSign negative (mantissa + 1)) scale
  else if scale = 0 then none
  else ofParts? (withSign negative ((mantissa + 1 + 4) / 10)) (scale - 1)

/-- A mantissa from here on counts as a long one: it is about to outgrow one machine word. -/
def longMantissa : Nat := Nat.pow 2 64 / 10 - 255

/-- Finishes a number that has all its fraction digits. Behind a long mantissa underscores are
passed over in search of the digit that decides the rounding.
-/
def readBeyond (negative long : Bool) (mantissa : Nat) (text : List Char) : Option Decimal :=
  match if long then text.dropWhile (· == '_') else text with
  | [] => ofParts? (withSign negative mantissa) maxScale
  | next :: rest => readLast negative mantissa maxScale next rest

/-- Reads digits, underscores and the point; `fractional` is set behind the point, `started` once a
digit was seen.
-/
def readDigits (negative fractional started : Bool) (mantissa scale : Nat)
    : List Char → Option Decimal
  | [] => if started then ofParts? (withSign negative mantissa) scale else none
  | c :: rest =>
      match Digits.value? c with
      | some digit =>
          let grown := mantissa * 10 + digit
          if mantissaLimit ≤ grown then
            if fractional then readLast negative mantissa scale c rest else none
          else if fractional then
            if maxScale ≤ scale + 1 then
              readBeyond negative (decide (longMantissa ≤ mantissa)) grown rest
            else
              readDigits negative true true grown (scale + 1) rest
          else
            readDigits negative false true grown scale rest
      | none =>
          if c = '.' ∧ ¬fractional then
            readDigits negative true started mantissa scale rest
          else if c = '_' ∧ started then
            readDigits negative fractional started mantissa scale rest
          else
            none

/-- Reads positional notation. -/
def read? : List Char → Option Decimal
  | [] => none
  | '-' :: rest => readDigits true false false 0 0 rest
  | '+' :: rest => readDigits false false false 0 0 rest
  | text => readDigits false false false 0 0 text

/-- An exponent's digits, which may carry a plus sign. -/
def readExponent? : List Char → Option Nat
  | '+' :: rest => Digits.read? rest
  | text => Digits.read? text

/-- Moves the point to the right by multiplying, in steps of at most ten to the nineteenth. -/
def shiftUp? : Nat → Decimal → Nat → Option Decimal
  | 0, d, _ => some d
  | fuel + 1, d, exponent =>
      if exponent = 0 then some d
      else do
        let step := min exponent 19
        let power ← ofNat? (Nat.pow 10 step)
        shiftUp? fuel (← d.mul? power) (exponent - step)

/-- Moves the point to the left. Digits that the largest scale has no room for are rounded off, a
half up, and the sign stays even if nothing else does.
-/
def shiftDown? (d : Decimal) (places : Nat) : Option Decimal :=
  if places ≤ maxScale then
    let dropped := d.scale + places - maxScale
    some
      { negative := d.negative
        digits := roundHalfUp d.digits (Nat.pow 10 dropped)
        scale := d.scale + places - dropped
        digits_lt := Nat.lt_of_le_of_lt (roundHalfUp_le _ _) d.digits_lt
        scale_le := by omega }
  else
    none

/-- Reads positional notation followed by an e and a power of ten. -/
def readScientific? (text : List Char) : Option Decimal :=
  let isMark := fun c => c = 'e' ∨ c = 'E'
  match text.dropWhile (fun c => !decide (isMark c)) with
  | [] => none
  | _ :: exponent => do
      let d ← read? (text.takeWhile fun c => !decide (isMark c))
      match exponent with
      | '-' :: down => shiftDown? d (← readExponent? down)
      | up =>
          let places ← readExponent? up
          if places ≤ d.scale then ofParts? d.mantissa (d.scale - places)
          else if maxScale < places then none
          else return (← shiftUp? 2 d places).normalize

/-- Reads either form. -/
def readAny? (text : List Char) : Option Decimal :=
  (read? text).orElse fun _ => readScientific? text

end MarginLending.Decimal
