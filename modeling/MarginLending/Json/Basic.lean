import MarginLending.Text.Digits

/-!
JSON values and how they are written: compactly, fields in the order they are listed. Numbers keep
their parts as they were read, so a reader of a field decides what they mean.
-/

namespace MarginLending

/-- A number's parts. Without fraction digits there is no point; the exponent is that of ten. -/
structure Numeral where
  negative : Bool
  whole : Nat
  fraction : List Nat
  exponent : Option Int
  deriving DecidableEq, Repr

/-- A JSON value. A text is none where an escape names half of a surrogate pair; only a field that
nobody reads may hold one.
-/
inductive Json where
  | null
  | bool (value : Bool)
  | number (numeral : Numeral)
  | text (value : Option String)
  | array (items : List Json)
  | object (fields : List (Option String × Json))
  deriving Repr

namespace Numeral

/-- A natural number. -/
def ofNat (n : Nat) : Numeral := ⟨false, n, [], none⟩

/-- Writes the parts back; an exponent follows a small e. -/
def render (numeral : Numeral) : List Char :=
  let sign := if numeral.negative then ['-'] else []
  let fraction :=
    if numeral.fraction = [] then [] else '.' :: Digits.render numeral.fraction
  let exponent :=
    match numeral.exponent with
    | none => []
    | some (.ofNat n) => 'e' :: Digits.decimal n
    | some (.negSucc n) => 'e' :: '-' :: Digits.decimal (n + 1)
  sign ++ Digits.decimal numeral.whole ++ fraction ++ exponent

end Numeral

namespace Json

/-- A natural number. -/
def nat (n : Nat) : Json := .number (.ofNat n)

/-- A text. -/
def string (s : String) : Json := .text (some s)

/-- An object with fields in the given order. -/
def record (fields : List (String × Json)) : Json :=
  .object (fields.map fun field => (some field.1, field.2))

/-- A character inside quotes: quotes, backslashes and control characters are escaped. -/
def renderChar (c : Char) : List Char :=
  if c = '"' then ['\\', '"']
  else if c = '\\' then ['\\', '\\']
  else if c = '\n' then ['\\', 'n']
  else if c = '\r' then ['\\', 'r']
  else if c = '\t' then ['\\', 't']
  else if c.toNat = 8 then ['\\', 'b']
  else if c.toNat = 12 then ['\\', 'f']
  else if c.toNat < 32 then
    '\\' :: 'u' :: Digits.render (Digits.fixed 16 4 c.toNat)
  else [c]

/-- A quoted text. -/
def renderText (text : List Char) : List Char :=
  '"' :: (text.flatMap renderChar ++ ['"'])

/-- A text that may be missing; half a surrogate pair is written as one. -/
def renderText? : Option String → List Char
  | some s => renderText s.toList
  | none => ['"', '\\', 'u', 'd', '8', '0', '0', '"']

mutual

/-- Writes a value. -/
def render : Json → List Char
  | .null => ['n', 'u', 'l', 'l']
  | .bool true => ['t', 'r', 'u', 'e']
  | .bool false => ['f', 'a', 'l', 's', 'e']
  | .number numeral => numeral.render
  | .text value => renderText? value
  | .array [] => ['[', ']']
  | .array (item :: items) => '[' :: (render item ++ renderItems items)
  | .object [] => ['{', '}']
  | .object ((key, value) :: fields) =>
      '{' :: (renderText? key ++ ':' :: (render value ++ renderFields fields))

/-- Writes the items behind the first one and closes the array. -/
def renderItems : List Json → List Char
  | [] => [']']
  | item :: items => ',' :: (render item ++ renderItems items)

/-- Writes the fields behind the first one and closes the object. -/
def renderFields : List (Option String × Json) → List Char
  | [] => ['}']
  | (key, value) :: fields =>
      ',' :: (renderText? key ++ ':' :: (render value ++ renderFields fields))

end

/-- The written form as a string. -/
def write (json : Json) : String := String.ofList json.render

end Json

end MarginLending
