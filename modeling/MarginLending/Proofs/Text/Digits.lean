import MarginLending.Text.HexWord
import Mathlib.Data.List.Basic
import Mathlib.Tactic.Ring

/-!
Numbers in positional notation are read back as what was written. A number is written in digits
below the base, at least one of them and no leading zero, so a reader that takes as many digits as
there are takes just these and weighs them to the number again.
-/

namespace MarginLending

namespace Digits

-----
-- The digits of a number
-----

section Base

variable {base : Nat}

/-- By recursion on the fuel, which the number of digits does not exceed. -/
private theorem ofNatWithin_lt {fuel n : Nat} (enough : n < base ^ (fuel + 1))
    : ∀ digit ∈ ofNatWithin base fuel n, digit < base := by
  induction fuel generalizing n with
  | zero => simpa [ofNatWithin] using enough
  | succ fuel ih =>
      unfold ofNatWithin
      split
      · next single => simpa using single
      · intro digit member
        have positive : 0 < base := Nat.pos_of_ne_zero fun zero => by simp [zero] at enough
        rcases List.mem_append.mp member with higher | last
        · exact ih (Nat.div_lt_of_lt_mul (by rwa [Nat.pow_succ'] at enough)) digit higher
        · rw [List.mem_singleton.mp last]
          exact Nat.mod_lt n positive

/-- A number's digits lie below the base. -/
theorem ofNat_lt (two : 2 ≤ base) (n : Nat) : ∀ digit ∈ ofNat base n, digit < base :=
  ofNatWithin_lt (Nat.lt_of_lt_of_le Nat.lt_log2_self (Nat.pow_le_pow_left two _))

/-- And there is one of them at least. -/
private theorem ofNatWithin_ne_nil (fuel n : Nat) : ofNatWithin base fuel n ≠ [] := by
  cases fuel with
  | zero => simp [ofNatWithin]
  | succ fuel =>
      unfold ofNatWithin
      split <;> simp

theorem ofNat_ne_nil (base n : Nat) : ofNat base n ≠ [] :=
  ofNatWithin_ne_nil n.log2 n

/-- The first digit is not zero, by recursion on the fuel. -/
private theorem head?_ofNatWithin {fuel n : Nat} (nonzero : n ≠ 0) (positive : 0 < base)
    : (ofNatWithin base fuel n).head? ≠ some 0 := by
  induction fuel generalizing n with
  | zero => simpa [ofNatWithin] using nonzero
  | succ fuel ih =>
      unfold ofNatWithin
      split
      · simpa using nonzero
      · next several =>
          rw [List.head?_append_of_ne_nil _ (ofNatWithin_ne_nil fuel _)]
          exact ih (Nat.ne_of_gt (Nat.div_pos (Nat.le_of_not_lt several) positive))

/-- A number that is not zero has no leading zero. -/
theorem head?_ofNat {n : Nat} (nonzero : n ≠ 0) (positive : 0 < base)
    : (ofNat base n).head? ≠ some 0 :=
  head?_ofNatWithin nonzero positive

/-- A number below a power of the base has no more digits than the exponent, by recursion on the
fuel.
-/
private theorem length_ofNatWithin_le {fuel n width : Nat} (small : n < base ^ (width + 1))
    : (ofNatWithin base fuel n).length ≤ width + 1 := by
  induction fuel generalizing n width with
  | zero => simp [ofNatWithin]
  | succ fuel ih =>
      unfold ofNatWithin
      split
      · simp
      · next several =>
          cases width with
          | zero => exact absurd (by simpa using small) several
          | succ width =>
              have shorter := ih (Nat.div_lt_of_lt_mul (by rwa [Nat.pow_succ'] at small))
              simpa using shorter

theorem length_ofNat_le {n : Nat} (width : Nat) (small : n < base ^ (width + 1))
    : (ofNat base n).length ≤ width + 1 :=
  length_ofNatWithin_le small

/-- Digits of a fixed width lie below the base, by recursion on the width. -/
theorem fixed_lt (positive : 0 < base) (width n : Nat)
    : ∀ digit ∈ fixed base width n, digit < base := by
  induction width generalizing n with
  | zero => simp [fixed]
  | succ width ih =>
      intro digit member
      rcases List.mem_append.mp member with higher | last
      · exact ih _ digit higher
      · rw [List.mem_singleton.mp last]
        exact Nat.mod_lt n positive

@[simp] theorem length_fixed (width n : Nat) : (fixed base width n).length = width := by
  induction width generalizing n with
  | zero => rfl
  | succ width ih => simp [fixed, ih]

/-- Digits behind others weigh as much as on their own, by induction on them. -/
theorem foldl_eq_add (digits : List Nat) (value : Nat)
    : digits.foldl (fun value digit => value * base + digit) value
      = value * base ^ digits.length + toNat base digits := by
  induction digits generalizing value with
  | nil => simp [toNat]
  | cons digit rest ih =>
      rw [toNat, List.foldl_cons, List.foldl_cons, ih, ih (0 * base + digit), List.length_cons,
        Nat.pow_succ']
      ring

end Base

-----
-- Digit characters
-----

theorem value?_digitChar {digit : Nat} (small : digit < 10)
    : value? digit.digitChar = some digit := by
  have table : ∀ digit < 10, value? digit.digitChar = some digit := by decide
  exact table digit small

theorem hexValue?_digitChar {digit : Nat} (small : digit < 16)
    : hexValue? digit.digitChar = some digit := by
  have table : ∀ digit < 16, hexValue? digit.digitChar = some digit := by decide
  exact table digit small

/-- Nothing at the front of a text is a digit. -/
def Ended (text : List Char) : Prop := ∀ c ∈ text.head?, value? c = none

/-- Digits are taken up to where they end, by induction on them. -/
theorem span_render {digits : List Nat} (small : ∀ digit ∈ digits, digit < 10) {rest : List Char}
    (ended : Ended rest)
    : span (render digits ++ rest) = (digits, rest) := by
  induction digits with
  | nil =>
      cases rest with
      | nil => rfl
      | cons c rest => simp [render, span, ended c rfl]
  | cons digit digits ih =>
      have first := value?_digitChar (small digit List.mem_cons_self)
      have others := ih fun digit member => small digit (List.mem_cons_of_mem _ member)
      rw [render] at others
      simp [render, span, first, others]

theorem hexDigits_render {digits : List Nat} (small : ∀ digit ∈ digits, digit < 16)
    : (render digits).mapM hexValue? = some digits := by
  induction digits with
  | nil => rfl
  | cons digit digits ih =>
      have first := hexValue?_digitChar (small digit List.mem_cons_self)
      have others := ih fun digit member => small digit (List.mem_cons_of_mem _ member)
      rw [render] at others
      simp [render, first, others]

end Digits

end MarginLending
