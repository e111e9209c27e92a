import MarginLending.Json.Basic

/-!
Reading JSON text. Blanks are space, tab, line feed and carriage return; nothing may follow the
value. What a text or a number means is left to whoever reads the field.
-/

namespace MarginLending.Json

/-- Whether a character may stand between the parts of a text. -/
def isBlank (c : Char) : Bool :=
  c == ' ' || c == '\t' || c == '\n' || c == '\r'

/-- The text behind its leading blanks. -/
def skipBlanks (chars : List Char) : List Char := chars.dropWhile isBlank

-----
-- Numbers
-----

/-- Reads at least one digit. -/
def readDigits? (chars : List Char) : Option (List Nat × List Char) :=
  match Digits.span chars with
  | ([], _) => none
  | (digits, rest) => some (digits, rest)

/-- Reads the digits in front of the point, which have no leading zero. -/
def readWhole? : List Char → Option (Nat × List Char)
  | '0' :: rest => some (0, rest)
  | chars => do
      let (digits, rest) ← readDigits? chars
      return (Digits.toNat 10 digits, rest)

/-- Reads the point and the digits behind it, if there is a point. -/
def readFraction? : List Char → Option (List Nat × List Char)
  | '.' :: rest => readDigits? rest
  | chars => some ([], chars)

/-- Reads the mark of an exponent, its sign and its digits, if there is a mark. -/
def readExponent? : List Char → Option (Option Int × List Char)
  | c :: rest =>
      if c = 'e' ∨ c = 'E' then
        let (negative, rest) : Bool × List Char :=
          match rest with
          | '-' :: rest => (true, rest)
          | '+' :: rest => (false, rest)
          | rest => (false, rest)
        do
          let (digits, rest) ← readDigits? rest
          let size : Int := Digits.toNat 10 digits
          return (some (if negative then -size else size), rest)
      else
        some (none, c :: rest)
  | [] => some (none, [])

/-- Reads a number behind its sign. -/
def readUnsigned? (negative : Bool) (chars : List Char) : Option (Numeral × List Char) := do
  let (whole, rest) ← readWhole? chars
  let (fraction, rest) ← readFraction? rest
  let (exponent, rest) ← readExponent? rest
  return (⟨negative, whole, fraction, exponent⟩, rest)

/-- Reads a number. -/
def readNumeral? : List Char → Option (Numeral × List Char)
  | '-' :: rest => readUnsigned? true rest
  | chars => readUnsigned? false chars

-----
-- Texts
-----

/-- The character that a letter behind a backslash stands for. -/
def escaped? (c : Char) : Option Char :=
  if c = '"' ∨ c = '\\' ∨ c = '/' then some c
  else if c = 'b' then some (Char.ofNat 8)
  else if c = 'f' then some (Char.ofNat 12)
  else if c = 'n' then some '\n'
  else if c = 'r' then some '\r'
  else if c = 't' then some '\t'
  else none

/-- The 16-bit unit that four hexadecimal digits name. -/
def unit? (a b c d : Char) : Option Nat := do
  let digits ← [a, b, c, d].mapM Digits.hexValue?
  return Digits.toNat 16 digits

/-- Whether a unit is the first half of a surrogate pair. -/
def isLead (unit : Nat) : Bool := decide (0xD800 ≤ unit ∧ unit < 0xDC00)

/-- Whether a unit is the second half of a surrogate pair. -/
def isTrail (unit : Nat) : Bool := decide (0xDC00 ≤ unit ∧ unit < 0xE000)

/-- The character of a surrogate pair. -/
def pairChar (lead trail : Nat) : Char :=
  Char.ofNat (0x10000 + (lead - 0xD800) * 0x400 + (trail - 0xDC00))

/-- Puts a character in front of a text that was read. -/
def pushChar (c : Char) (read : Option (Option (List Char) × List Char))
    : Option (Option (List Char) × List Char) :=
  read.map fun (chars, rest) => (chars.map (c :: ·), rest)

/-- Marks a text that was read as naming no characters. -/
def illFormed (read : Option (Option (List Char) × List Char))
    : Option (Option (List Char) × List Char) :=
  read.map fun (_, rest) => (none, rest)

/-- Reads a text behind its opening quote. -/
def readText? : List Char → Option (Option (List Char) × List Char)
  | [] => none
  | '"' :: rest => some (some [], rest)
  | '\\' :: 'u' :: a :: b :: c :: d :: rest =>
      match unit? a b c d with
      | none => none
      | some unit =>
          if isLead unit then
            match rest with
            | '\\' :: 'u' :: e :: f :: g :: h :: more =>
                match unit? e f g h with
                | some trail =>
                    if isTrail trail then pushChar (pairChar unit trail) (readText? more)
                    else illFormed (readText? ('\\' :: 'u' :: e :: f :: g :: h :: more))
                | none => none
            | other => illFormed (readText? other)
          else if isTrail unit then illFormed (readText? rest)
          else pushChar (Char.ofNat unit) (readText? rest)
  | '\\' :: c :: rest =>
      match escaped? c with
      | some c => pushChar c (readText? rest)
      | none => none
  | c :: rest => if c.toNat < 32 then none else pushChar c (readText? rest)

/-- Reads a quoted text. -/
def readQuoted? : List Char → Option (Option String × List Char)
  | '"' :: rest => do
      let (chars, rest) ← readText? rest
      return (chars.map String.ofList, rest)
  | _ => none

-----
-- Values
-----

mutual

/-- Reads a value. The fuel bounds how deep values are nested. -/
def readValue? : Nat → List Char → Option (Json × List Char)
  | 0, _ => none
  | fuel + 1, chars =>
      match skipBlanks chars with
      | 'n' :: 'u' :: 'l' :: 'l' :: rest => some (.null, rest)
      | 't' :: 'r' :: 'u' :: 'e' :: rest => some (.bool true, rest)
      | 'f' :: 'a' :: 'l' :: 's' :: 'e' :: rest => some (.bool false, rest)
      | '[' :: rest =>
          match skipBlanks rest with
          | ']' :: rest => some (.array [], rest)
          | rest => do
              let (items, rest) ← readItems? fuel rest
              return (.array items, rest)
      | '{' :: rest =>
          match skipBlanks rest with
          | '}' :: rest => some (.object [], rest)
          | rest => do
              let (fields, rest) ← readFields? fuel rest
              return (.object fields, rest)
      | '"' :: rest => do
          let (chars, rest) ← readQuoted? ('"' :: rest)
          return (.text chars, rest)
      | chars => do
          let (numeral, rest) ← readNumeral? chars
          return (.number numeral, rest)

/-- Reads one item and those behind it, up to the end of the array. -/
def readItems? : Nat → List Char → Option (List Json × List Char)
  | 0, _ => none
  | fuel + 1, chars => do
      let (item, rest) ← readValue? fuel chars
      match skipBlanks rest with
      | ']' :: rest => return ([item], rest)
      | ',' :: rest =>
          let (items, rest) ← readItems? fuel rest
          return (item :: items, rest)
      | _ => none

/-- Reads one field and those behind it, up to the end of the object. -/
def readFields? : Nat → List Char → Option (List (Option String × Json) × List Char)
  | 0, _ => none
  | fuel + 1, chars => do
      let (key, rest) ← readQuoted? (skipBlanks chars)
      match skipBlanks rest with
      | ':' :: rest =>
          let (value, rest) ← readValue? fuel rest
          match skipBlanks rest with
          | '}' :: rest => return ([(key, value)], rest)
          | ',' :: rest =>
              let (fields, rest) ← readFields? fuel rest
              return ((key, value) :: fields, rest)
          | _ => none
      | _ => none

end

/-- Reads a whole text as one value. Every level of nesting takes at least a character. -/
def read? (text : String) : Option Json := do
  let chars := text.toList
  let (value, rest) ← readValue? (2 * chars.length + 2) chars
  if skipBlanks rest = [] then return value else none

end MarginLending.Json
