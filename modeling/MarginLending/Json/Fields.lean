import MarginLending.Json.Basic

/-!
Taking records and variants out of JSON values. A record is an object or the array of all its
values in order. In an object, names that nobody asks for are skipped, and a known name may stand
there once.
-/

namespace MarginLending.Json

/-- The known fields of a record with their values. -/
structure Fields where
  entries : List (String × Json)

/-- The fields of a record with the given names. -/
def fields? (names : List String) : Json → Option Fields
  | .array items => if items.length = names.length then some ⟨names.zip items⟩ else none
  | .object fields => do
      let entries ← fields.mapM fun field => field.1.map fun key => (key, field.2)
      let known := entries.filter fun entry => names.contains entry.1
      if (known.map Prod.fst).Nodup then return ⟨known⟩ else none
  | _ => none

namespace Fields

variable {α : Type}

/-- The value of a field, read in a given way. -/
def get? (fields : Fields) (name : String) (read? : Json → Option α) : Option α :=
  (fields.entries.lookup name).bind read?

/-- The value of a field that may be left out or null. -/
def getOptional? (fields : Fields) (name : String) (read? : Json → Option α)
    : Option (Option α) :=
  match fields.entries.lookup name with
  | none | some .null => some none
  | some json => (read? json).map some

end Fields

/-- The name of a variant and what it holds. A bare text holds nothing. -/
def variant? : Json → Option (String × Option Json)
  | .text (some name) => some (name, none)
  | .object [(some name, content)] => some (name, some content)
  | _ => none

/-- A variant that holds nothing, or an explicit null. -/
def unitVariant? (json : Json) : Option String :=
  match json.variant? with
  | some (name, none) | some (name, some .null) => some name
  | _ => none

/-- A natural number below a bound, written without a point or an exponent. -/
def natBelow? (bound : Nat) : Json → Option Nat
  | .number ⟨false, n, [], none⟩ => if n < bound then some n else none
  | _ => none

/-- A truth value. -/
def bool? : Json → Option Bool
  | .bool value => some value
  | _ => none

/-- A text whose escapes all name characters. -/
def string? : Json → Option String
  | .text value => value
  | _ => none

end MarginLending.Json
