import MarginLending.Decimal.Text
import MarginLending.Fixed.Amount
import MarginLending.Proofs.Text.Digits

/-!
Words and decimals are read back from their texts. A word has at most 64 hexadecimal digits and none
of its characters is skipped. A decimal's digits in front of and behind the point are, one after the
other, the digits of its mantissa, so that reading them never outgrows it and rounds nothing.
-/

namespace MarginLending

-----
-- Words
-----

namespace HexWord

theorem not_isBlank_digitChar {digit : Nat} (small : digit < 16)
    : isBlank digit.digitChar = false := by
  have table : ∀ digit < 16, isBlank digit.digitChar = false := by decide
  exact table digit small

/-- The digits of a text without blanks are all that it names. -/
theorem readDigits?_render {digits : List Nat} (small : ∀ digit ∈ digits, digit < 16)
    : readDigits? (Digits.render digits) = some digits := by
  have unskipped : (Digits.render digits).filter (fun c => !isBlank c) = Digits.render digits := by
    refine List.filter_eq_self.mpr fun c member => ?_
    obtain ⟨digit, isDigit, rfl⟩ := List.mem_map.mp member
    rw [not_isBlank_digitChar (small digit isDigit), Bool.not_false]
  have length : (Digits.render digits).length = digits.length := List.length_map _
  unfold readDigits?
  rw [unskipped, Digits.hexDigits_render small, length]
  simp

/-- A word is read back from its text. -/
theorem read?_render {n : Nat} (small : n < wordLimit) : read? (render n) = some n := by
  have digits := Digits.ofNat_lt (by decide : 2 ≤ 16) n
  have nonempty : (Digits.render (Digits.ofNat 16 n)).isEmpty = false := by
    simpa [Digits.render] using Digits.ofNat_ne_nil 16 n
  have short : (Digits.render (Digits.ofNat 16 n)).length ≤ maxLength := by
    rw [Digits.render, List.length_map]
    exact Digits.length_ofNat_le 63 (Nat.lt_of_lt_of_eq small (by decide))
  unfold read? render
  simp only [nonempty, Bool.false_or]
  rw [if_neg (by simpa using short), readDigits?_render digits]
  simp [Digits.toNat_ofNat]

end HexWord

-----
-- Decimals
-----

namespace Decimal

/-- The mantissa that a reader has come to behind further digits. -/
def grown (mantissa : Nat) (digits : List Nat) : Nat :=
  digits.foldl (fun value digit => value * 10 + digit) mantissa

@[simp] theorem grown_cons (mantissa digit : Nat) (digits : List Nat)
    : grown mantissa (digit :: digits) = grown (mantissa * 10 + digit) digits := rfl

theorem le_grown (mantissa : Nat) (digits : List Nat) : mantissa ≤ grown mantissa digits := by
  induction digits generalizing mantissa with
  | nil => exact Nat.le_refl _
  | cons digit rest ih => exact Nat.le_trans (by omega) (ih (mantissa * 10 + digit))

/-- Digits in front of the point are read one after the other, as long as the mantissa is in range.
-/
theorem readDigits_whole {digits : List Nat} (small : ∀ digit ∈ digits, digit < 10) {mantissa : Nat}
    (fits : grown mantissa digits < mantissaLimit) (negative started : Bool) (rest : List Char)
    : readDigits negative false started mantissa 0 (Digits.render digits ++ rest)
      = readDigits negative false (started || !digits.isEmpty) (grown mantissa digits) 0 rest := by
  induction digits generalizing mantissa started with
  | nil => simp [Digits.render, grown]
  | cons digit digits ih =>
      have first := Digits.value?_digitChar (small digit List.mem_cons_self)
      have others := ih (fun digit member => small digit (List.mem_cons_of_mem _ member)) fits true
      have inRange : ¬mantissaLimit ≤ mantissa * 10 + digit :=
        Nat.not_le.mpr (Nat.lt_of_le_of_lt (le_grown _ digits) fits)
      rw [Digits.render] at others
      simp only [Digits.render, List.map_cons, List.cons_append, readDigits, first]
      rw [if_neg inRange, if_neg Bool.false_ne_true, others]
      simp

/-- Digits behind the point are read one after the other and end the number, as long as the mantissa
and the scale are in range.
-/
theorem readDigits_fraction {digits : List Nat} (small : ∀ digit ∈ digits, digit < 10)
    {mantissa scale : Nat}
    (fits : grown mantissa digits < mantissaLimit) (places : scale + digits.length ≤ maxScale)
    (negative : Bool)
    : readDigits negative true true mantissa scale (Digits.render digits)
      = ofParts? (withSign negative (grown mantissa digits)) (scale + digits.length) := by
  induction digits generalizing mantissa scale with
  | nil => rfl
  | cons digit digits ih =>
      have first := Digits.value?_digitChar (small digit List.mem_cons_self)
      have inRange : ¬mantissaLimit ≤ mantissa * 10 + digit :=
        Nat.not_le.mpr (Nat.lt_of_le_of_lt (le_grown _ digits) fits)
      rw [List.length_cons] at places
      simp only [Digits.render, List.map_cons, readDigits, first]
      rw [if_neg inRange, if_true]
      split
      · next full =>
          obtain rfl : digits = [] := List.length_eq_zero_iff.mp (by omega)
          have last : scale + 1 = maxScale := by omega
          simp [readBeyond, grown, last]
      · have room : scale + 1 + digits.length ≤ maxScale := by omega
        have others :=
          ih (fun digit member => small digit (List.mem_cons_of_mem _ member)) fits room
        rw [Digits.render] at others
        rw [others, grown_cons, List.length_cons, Nat.add_right_comm, Nat.add_assoc]

/-- The digits in front of the point and those behind it are the digits of the mantissa. -/
theorem grown_fixed (digits scale : Nat)
    : grown (digits / Nat.pow 10 scale) (Digits.fixed 10 scale digits) = digits := by
  rw [grown, Digits.foldl_eq_add, Digits.length_fixed, Digits.toNat_fixed]
  exact Nat.div_add_mod' digits (10 ^ scale)

/-- A text without its sign is read as the decimal's digits and scale. -/
theorem readDigits_unsigned (d : Decimal) (negative : Bool)
    : readDigits negative false false 0 0
        (Digits.decimal (d.digits / Nat.pow 10 d.scale)
          ++ if d.scale = 0 then [] else '.' :: Digits.render (Digits.fixed 10 d.scale d.digits))
      = ofParts? (withSign negative d.digits) d.scale := by
  have whole : grown 0 (Digits.ofNat 10 (d.digits / Nat.pow 10 d.scale))
      = d.digits / Nat.pow 10 d.scale :=
    Digits.toNat_ofNat 10 _
  have inRange : d.digits / Nat.pow 10 d.scale < mantissaLimit :=
    Nat.lt_of_le_of_lt (Nat.div_le_self ..) d.digits_lt
  have nonempty : (Digits.ofNat 10 (d.digits / Nat.pow 10 d.scale)).isEmpty = false := by
    simpa using Digits.ofNat_ne_nil 10 _
  rw [Digits.decimal,
    readDigits_whole (Digits.ofNat_lt (by decide) _) (whole.symm ▸ inRange), whole, nonempty]
  split
  · next unscaled =>
      rw [unscaled, Nat.pow_eq, Nat.pow_zero, Nat.div_one]
      rfl
  · have fits : grown (d.digits / Nat.pow 10 d.scale) (Digits.fixed 10 d.scale d.digits)
        < mantissaLimit :=
      (grown_fixed d.digits d.scale).symm ▸ d.digits_lt
    have places : 0 + (Digits.fixed 10 d.scale d.digits).length ≤ maxScale := by
      rw [Digits.length_fixed, Nat.zero_add]
      exact d.scale_le
    have fraction :=
      readDigits_fraction (Digits.fixed_lt (by decide) d.scale d.digits) fits places negative
    rw [grown_fixed, Digits.length_fixed, Nat.zero_add] at fraction
    exact fraction

/-- A text that begins with a digit has no sign. -/
theorem read?_of_value? {c : Char} {digit : Nat} (isDigit : Digits.value? c = some digit)
    (rest : List Char)
    : read? (c :: rest) = readDigits false false false 0 0 (c :: rest) := by
  unfold read?
  split
  · next empty => cases empty
  · next signed =>
      obtain ⟨rfl, rfl⟩ := List.cons.inj signed
      cases isDigit
  · next signed =>
      obtain ⟨rfl, rfl⟩ := List.cons.inj signed
      cases isDigit
  · rfl

/-- A decimal that is not a zero under a minus sign is read back from its text. -/
theorem readAny?_render {d : Decimal} (plain : d.negative = true → d.digits ≠ 0)
    : readAny? d.render = some d := by
  have parts : ofParts? (withSign d.negative d.digits) d.scale = some d :=
    ofParts?_eq_some_iff.mpr ⟨rfl, rfl, plain⟩
  have unsigned := d.readDigits_unsigned d.negative
  have reads : read? d.render = some d := by
    unfold render
    cases sign : d.negative with
    | true =>
        rw [sign] at unsigned parts
        exact unsigned.trans parts
    | false =>
        rw [sign] at unsigned parts
        obtain ⟨first, others, digits⟩ := List.exists_cons_of_ne_nil
          (Digits.ofNat_ne_nil 10 (d.digits / Nat.pow 10 d.scale))
        have isDigit := Digits.value?_digitChar
          (Digits.ofNat_lt
            (by decide) (d.digits / Nat.pow 10 d.scale) first (digits ▸ List.mem_cons_self))
        simp only [Digits.decimal, Digits.render, digits, List.map_cons,
          List.cons_append] at unsigned ⊢
        exact (read?_of_value? isDigit _).trans (unsigned.trans parts)
  rw [readAny?, reads]
  rfl

end Decimal

end MarginLending
