/-!
Positional digits: how a natural number is written in a base, and how digit characters are read
back. Numbers are written without leading zeros; a fixed width pads with zeros on the left.
-/

namespace MarginLending.Digits

/-- The digits of a number, most significant first, in at most one more step than the fuel. -/
def ofNatWithin (base : Nat) : Nat → Nat → List Nat
  | 0, n => [n]
  | fuel + 1, n =>
      if n < base then [n] else ofNatWithin base fuel (n / base) ++ [n % base]

/-- The digits of a number, most significant first and without leading zeros. A base of at least
two needs no more digits than base two does.
-/
def ofNat (base n : Nat) : List Nat :=
  ofNatWithin base n.log2 n

/-- The last digits of a number, exactly as many as the width says. -/
def fixed (base : Nat) : Nat → Nat → List Nat
  | 0, _ => []
  | width + 1, n => fixed base width (n / base) ++ [n % base]

/-- The number that a list of digits stands for. -/
def toNat (base : Nat) (digits : List Nat) : Nat :=
  digits.foldl (fun value digit => value * base + digit) 0

/-- Writes digits as characters, letters from ten on in lower case. -/
def render (digits : List Nat) : List Char :=
  digits.map Nat.digitChar

/-- A number in decimal notation. -/
def decimal (n : Nat) : List Char :=
  render (ofNat 10 n)

/-- The value of a decimal digit character. -/
def value? (c : Char) : Option Nat :=
  if '0' ≤ c ∧ c ≤ '9' then some (c.toNat - '0'.toNat) else none

/-- The value of a hexadecimal digit character of either case. -/
def hexValue? (c : Char) : Option Nat :=
  if '0' ≤ c ∧ c ≤ '9' then some (c.toNat - '0'.toNat)
  else if 'a' ≤ c ∧ c ≤ 'f' then some (c.toNat - 'a'.toNat + 10)
  else if 'A' ≤ c ∧ c ≤ 'F' then some (c.toNat - 'A'.toNat + 10)
  else none

/-- Splits off the decimal digits at the front of a text. -/
def span : List Char → List Nat × List Char
  | [] => ([], [])
  | c :: rest =>
      match value? c with
      | some digit => (digit :: (span rest).1, (span rest).2)
      | none => ([], c :: rest)

/-- Reads a whole text of decimal digits, at least one. -/
def read? (text : List Char) : Option Nat :=
  match span text with
  | ([], _) => none
  | (digits, []) => some (toNat 10 digits)
  | (_, _ :: _) => none

theorem toNat_append_singleton (base : Nat) (digits : List Nat) (digit : Nat)
    : toNat base (digits ++ [digit]) = toNat base digits * base + digit := by
  simp [toNat]

/-- Weighing the written digits gives the number back, by recursion on the fuel. -/
theorem toNat_ofNatWithin (base fuel n : Nat)
    : toNat base (ofNatWithin base fuel n) = n := by
  induction fuel generalizing n with
  | zero => simp [ofNatWithin, toNat]
  | succ fuel ih =>
      unfold ofNatWithin
      split
      · simp [toNat]
      · rw [toNat_append_singleton, ih, Nat.mul_comm]
        exact Nat.div_add_mod n base

/-- Weighing the written digits gives the number back. -/
theorem toNat_ofNat (base n : Nat) : toNat base (ofNat base n) = n :=
  toNat_ofNatWithin base n.log2 n

/-- A fixed width keeps the number's last digits, by recursion on the width. -/
theorem toNat_fixed (base width n : Nat)
    : toNat base (fixed base width n) = n % Nat.pow base width := by
  induction width generalizing n with
  | zero => simp [fixed, toNat, Nat.mod_one]
  | succ width ih =>
      have grown : Nat.pow base (width + 1) = base * Nat.pow base width :=
        Nat.mul_comm (Nat.pow base width) base
      rw [fixed, toNat_append_singleton, ih, grown, Nat.mod_mul, Nat.mul_comm, Nat.add_comm]

end MarginLending.Digits
