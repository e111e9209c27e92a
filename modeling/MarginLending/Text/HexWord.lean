import MarginLending.Text.Digits

/-!
Words in hexadecimal. They are written with a leading 0x, in lower case and without leading zeros.
Reading accepts either case, up to 64 characters, and a text without the 0x.
-/

namespace MarginLending.HexWord

/-- The longest text of a word behind the 0x. -/
def maxLength : Nat := 64

/-- The shortest text of a word behind the 0x. -/
def render (n : Nat) : List Char :=
  '0' :: 'x' :: Digits.render (Digits.ofNat 16 n)

/-- Whether a character is skipped between digits. -/
def isBlank (c : Char) : Bool :=
  c == ' ' || c == '\t' || c == '\n' || c == '\r'

/-- The digits of a text behind the 0x. Digits are read in pairs, and the length of the text says
whether the first one stands alone; so an odd number of blanks leaves the last digit unpaired, and
it does not count.
-/
def readDigits? (text : List Char) : Option (List Nat) := do
  let digits ← (text.filter fun c => !isBlank c).mapM Digits.hexValue?
  if digits.length % 2 = text.length % 2 then return digits
  else return digits.dropLast

/-- Reads a word. -/
def read? (text : List Char) : Option Nat := do
  let body :=
    match text with
    | '0' :: 'x' :: rest => rest
    | _ => text
  if body.isEmpty || maxLength < body.length then none
  else return Digits.toNat 16 (← readDigits? body)

end MarginLending.HexWord
