import MarginLending.Json.Reader
import MarginLending.Proofs.Text.Digits
import Mathlib.Tactic.SplitIfs

/-!
JSON values are read back from their texts. A reader that meets what was written for a value takes
just that and leaves what follows, for any text that a number cannot go on with. The only values
that are not written as they are have fraction digits that are no digits.
-/

namespace MarginLending

namespace Json

-----
-- Texts
-----

/-- An escaped unit on its own is the character with its number. -/
theorem readText?_unit {a b c d : Char} {unit : Nat} (digits : unit? a b c d = some unit)
    (whole : isLead unit = false ∧ isTrail unit = false) (rest : List Char)
    : readText? ('\\' :: 'u' :: a :: b :: c :: d :: rest)
      = pushChar (Char.ofNat unit) (readText? rest) := by
  rw [readText?, digits]
  simp only [whole.1, whole.2, Bool.false_eq_true, if_false]

/-- A control character is read back from its number, which four digits are enough for and which is
no half of a pair.
-/
theorem readText?_control {c : Char} (control : c.toNat < 32) (rest : List Char)
    : readText? ('\\' :: 'u' :: (Digits.render (Digits.fixed 16 4 c.toNat) ++ rest))
      = pushChar c (readText? rest) := by
  have weight : Digits.toNat 16 (Digits.fixed 16 4 c.toNat) = c.toNat := by
    rw [Digits.toNat_fixed]
    exact Nat.mod_eq_of_lt (Nat.lt_trans control (by decide))
  have digits := Digits.hexDigits_render (Digits.fixed_lt (by decide : 0 < 16) 4 c.toNat)
  obtain ⟨w, x, y, z, units⟩
      : ∃ w x y z, Digits.render (Digits.fixed 16 4 c.toNat) = [w, x, y, z] :=
    ⟨_, _, _, _, rfl⟩
  rw [units] at digits ⊢
  have isUnit : unit? w x y z = some c.toNat := by
    rw [unit?, digits]
    exact congrArg some weight
  have whole : isLead c.toNat = false ∧ isTrail c.toNat = false := by
    simp only [isLead, isTrail, decide_eq_false_iff_not]
    omega
  have read := readText?_unit isUnit whole rest
  rw [c.ofNat_toNat] at read
  exact read

/-- A character that stands for itself. -/
theorem readText?_cons {c : Char} (notQuote : c ≠ '"') (notBackslash : c ≠ '\\')
    (notControl : ¬c.toNat < 32) (rest : List Char)
    : readText? (c :: rest) = pushChar c (readText? rest) := by
  rw [readText?.eq_def]
  split
  · next empty => cases empty
  · next same => exact absurd (List.cons.inj same).1 notQuote
  · next same => exact absurd (List.cons.inj same).1 notBackslash
  · next same => exact absurd (List.cons.inj same).1 notBackslash
  · next same =>
      obtain ⟨rfl, rfl⟩ := List.cons.inj same
      rw [if_neg notControl]

/-- A character is read back from what is written for it, escaped or not. -/
theorem readText?_renderChar (c : Char) (rest : List Char)
    : readText? (renderChar c ++ rest) = pushChar c (readText? rest) := by
  unfold renderChar
  split_ifs with quote backslash newline carriage tab backspace feed control
  · subst quote
    rfl
  · subst backslash
    rfl
  · subst newline
    rfl
  · subst carriage
    rfl
  · subst tab
    rfl
  · have isBackspace : Char.ofNat 8 = c := backspace ▸ c.ofNat_toNat
    subst isBackspace
    rfl
  · have isFeed : Char.ofNat 12 = c := feed ▸ c.ofNat_toNat
    subst isFeed
    rfl
  · exact readText?_control control rest
  · exact readText?_cons quote backslash control rest

/-- So is a text, up to its closing quote. -/
theorem readText?_flatMap (text rest : List Char)
    : readText? (text.flatMap renderChar ++ '"' :: rest) = some (some text, rest) := by
  induction text with
  | nil => rfl
  | cons c text ih =>
      rw [List.flatMap_cons, List.append_assoc, readText?_renderChar, ih]
      rfl

/-- And one that names no characters. -/
theorem readQuoted?_renderText? (text : Option String) (rest : List Char)
    : readQuoted? (renderText? text ++ rest) = some (text, rest) := by
  cases text with
  | none => rfl
  | some text =>
      have body : renderText? (some text) ++ rest
          = '"' :: (text.toList.flatMap renderChar ++ '"' :: rest) := by
        simp [renderText?, renderText]
      rw [body, readQuoted?, readText?_flatMap]
      simp

-----
-- Numbers
-----

/-- A number cannot go on with the text. -/
def EndsNumber (text : List Char) : Prop :=
  ∀ c ∈ text.head?, Digits.value? c = none ∧ c ≠ '.' ∧ c ≠ 'e' ∧ c ≠ 'E'

theorem endsNumber_nil : EndsNumber [] := nofun

theorem EndsNumber.ended {text : List Char} (ends : EndsNumber text) : Digits.Ended text :=
  fun c first => (ends c first).1

/-- At least one digit is read, and none that follows. -/
theorem readDigits?_render {digits : List Nat} (nonempty : digits ≠ [])
    (small : ∀ digit ∈ digits, digit < 10) {rest : List Char} (ended : Digits.Ended rest)
    : readDigits? (Digits.render digits ++ rest) = some (digits, rest) := by
  rw [readDigits?, Digits.span_render small ended]
  cases digits with
  | nil => exact absurd rfl nonempty
  | cons => rfl

theorem readDigits?_decimal (n : Nat) {rest : List Char} (ended : Digits.Ended rest)
    : readDigits? (Digits.decimal n ++ rest) = some (Digits.ofNat 10 n, rest) :=
  readDigits?_render (Digits.ofNat_ne_nil 10 n) (Digits.ofNat_lt (by decide) n) ended

/-- A digit is none of the characters that are no digits. -/
theorem digitChar_ne {digit : Nat} (small : digit < 10) {c : Char}
    (notDigit : Digits.value? c = none)
    : Nat.digitChar digit ≠ c := by
  rintro rfl
  rw [Digits.value?_digitChar small] at notDigit
  cases notDigit

/-- What is written for a natural number begins with a digit, and not with a zero unless it is zero.
-/
theorem decimal_eq_cons (n : Nat)
    : ∃ digit digits, Digits.decimal n = Nat.digitChar digit :: Digits.render digits ∧ digit < 10
        ∧ (n ≠ 0 → digit ≠ 0) := by
  obtain ⟨digit, digits, same⟩ := List.exists_cons_of_ne_nil (Digits.ofNat_ne_nil 10 n)
  refine ⟨digit, digits, ?_, Digits.ofNat_lt (by decide) n digit (same ▸ List.mem_cons_self), ?_⟩
  · rw [Digits.decimal, same]
    rfl
  · rintro nonzero rfl
    have headed : (Digits.ofNat 10 n).head? = some 0 := by rw [same]; rfl
    exact Digits.head?_ofNat nonzero (by decide) headed

/-- The digits in front of the point are read as the number that they are written for. -/
theorem readWhole?_decimal (n : Nat) {rest : List Char} (ended : Digits.Ended rest)
    : readWhole? (Digits.decimal n ++ rest) = some (n, rest) := by
  have digits := readDigits?_decimal n ended
  rcases Nat.eq_zero_or_pos n with rfl | positive
  · rfl
  · obtain ⟨digit, others, text, small, noZero⟩ := decimal_eq_cons n
    have notZero : Nat.digitChar digit ≠ '0' := by
      have table : ∀ digit < 10, digit ≠ 0 → Nat.digitChar digit ≠ '0' := by decide
      exact table digit small (noZero (Nat.ne_of_gt positive))
    rw [text] at digits
    rw [text, List.cons_append, readWhole?.eq_def]
    split
    · next same => exact absurd (List.cons.inj same).1 notZero
    · rw [← List.cons_append, digits]
      exact congrArg (fun whole => some (whole, rest)) (Digits.toNat_ofNat 10 n)

/-- What is written behind the mark of an exponent. -/
def exponentText : Int → List Char
  | .ofNat n => Digits.decimal n
  | .negSucc n => '-' :: Digits.decimal (n + 1)

theorem readExponent?_exponentText (exponent : Int) {rest : List Char} (ended : Digits.Ended rest)
    : readExponent? ('e' :: (exponentText exponent ++ rest)) = some (some exponent, rest) := by
  cases exponent with
  | ofNat n =>
      obtain ⟨digit, others, text, small, _⟩ := decimal_eq_cons n
      have read := readDigits?_decimal n ended
      -- The reader looks for a sign before the digits; the first digit is none.
      simp only [exponentText, text, List.cons_append] at read ⊢
      simp only [readExponent?]
      rw [if_pos (.inl trivial)]
      split
      · next signed => exact absurd (List.cons.inj signed).1 (digitChar_ne small rfl)
      · next signed => exact absurd (List.cons.inj signed).1 (digitChar_ne small rfl)
      · simp [read, Digits.toNat_ofNat]
  | negSucc n =>
      simp only [exponentText, List.cons_append, readExponent?]
      rw [if_pos (.inl trivial)]
      simp only [readDigits?_decimal _ ended, Option.bind_eq_bind, Option.bind_some,
        Digits.toNat_ofNat, if_true]
      rfl

/-- What is written for the digits behind the point, with the point. -/
def fractionText (fraction : List Nat) : List Char :=
  if fraction = [] then [] else '.' :: Digits.render fraction

/-- What is written for an exponent, with its mark. -/
def markedText : Option Int → List Char
  | none => []
  | some exponent => 'e' :: exponentText exponent

theorem render_numeral (numeral : Numeral)
    : numeral.render
      = (if numeral.negative then ['-'] else []) ++ Digits.decimal numeral.whole
        ++ fractionText numeral.fraction ++ markedText numeral.exponent := by
  obtain ⟨negative, whole, fraction, exponent⟩ := numeral
  rcases exponent with _ | ⟨n | n⟩ <;> rfl

theorem readFraction?_fractionText {fraction : List Nat} (small : ∀ digit ∈ fraction, digit < 10)
    {rest : List Char} (ended : Digits.Ended rest) (noPoint : ∀ c ∈ rest.head?, c ≠ '.')
    : readFraction? (fractionText fraction ++ rest) = some (fraction, rest) := by
  unfold fractionText
  split
  · next none =>
      rw [none, List.nil_append, readFraction?.eq_def]
      split
      · exact absurd rfl (noPoint '.' rfl)
      · rfl
  · next some => exact readDigits?_render some small ended

theorem readExponent?_markedText (exponent : Option Int) {rest : List Char} (ends : EndsNumber rest)
    : readExponent? (markedText exponent ++ rest) = some (exponent, rest) := by
  cases exponent with
  | some exponent => exact readExponent?_exponentText exponent ends.ended
  | none =>
      cases rest with
      | nil => rfl
      | cons c rest =>
          obtain ⟨_, _, notSmall, notLarge⟩ := ends c rfl
          exact if_neg (not_or.mpr ⟨notSmall, notLarge⟩)

/-- A number whose fraction digits are digits is read back from its text. -/
theorem readNumeral?_render {numeral : Numeral} (small : ∀ digit ∈ numeral.fraction, digit < 10)
    {rest : List Char} (ends : EndsNumber rest)
    : readNumeral? (numeral.render ++ rest) = some (numeral, rest) := by
  have marked : ∀ c ∈ (markedText numeral.exponent ++ rest).head?, Digits.value? c = none
      ∧ c ≠ '.' := by
    cases numeral.exponent with
    | none => exact fun c first => ⟨(ends c first).1, (ends c first).2.1⟩
    | some exponent =>
        rintro c ⟨⟩
        decide
  have pointed : Digits.Ended
      (fractionText numeral.fraction ++ (markedText numeral.exponent ++ rest)) := by
    unfold fractionText
    split
    · exact fun c first => (marked c first).1
    · rintro c ⟨⟩
      rfl
  have whole := readWhole?_decimal numeral.whole pointed
  have fraction := readFraction?_fractionText small (fun c first => (marked c first).1)
    (fun c first => (marked c first).2)
  have exponent := readExponent?_markedText numeral.exponent ends
  have unsigned
      : readUnsigned? numeral.negative (Digits.decimal numeral.whole
          ++ (fractionText numeral.fraction ++ (markedText numeral.exponent ++ rest)))
        = some (numeral, rest) := by
    rw [readUnsigned?, whole]
    simp only [Option.bind_eq_bind, Option.bind_some, fraction, exponent]
    rfl
  rw [render_numeral, List.append_assoc, List.append_assoc, List.append_assoc]
  cases sign : numeral.negative with
  | true =>
      rw [sign] at unsigned
      exact unsigned
  | false =>
      rw [sign] at unsigned
      obtain ⟨digit, digits, text, digitSmall, _⟩ := decimal_eq_cons numeral.whole
      rw [text, List.cons_append] at unsigned ⊢
      rw [if_neg Bool.false_ne_true, List.nil_append, readNumeral?.eq_def]
      split
      · next signed => exact absurd (List.cons.inj signed).1 (digitChar_ne digitSmall rfl)
      · exact unsigned

-----
-- Values
-----

mutual

/-- Every fraction digit is a digit. -/
def WellFormed : Json → Prop
  | .null | .bool _ | .text _ => True
  | .number numeral => ∀ digit ∈ numeral.fraction, digit < 10
  | .array items => ItemsWellFormed items
  | .object fields => FieldsWellFormed fields

/-- Those of all items are. -/
def ItemsWellFormed : List Json → Prop
  | [] => True
  | item :: items => item.WellFormed ∧ ItemsWellFormed items

/-- Those of all fields are. -/
def FieldsWellFormed : List (Option String × Json) → Prop
  | [] => True
  | (_, value) :: fields => value.WellFormed ∧ FieldsWellFormed fields

end

/-- A record is well-formed if the values of its fields are. -/
theorem wellFormed_record {fields : List (String × Json)}
    (formed : ∀ field ∈ fields, field.2.WellFormed) : (record fields).WellFormed := by
  change FieldsWellFormed _
  induction fields with
  | nil => trivial
  | cons field fields ih =>
      exact ⟨formed field List.mem_cons_self,
        ih fun other member => formed other (List.mem_cons_of_mem field member)⟩

@[simp] theorem wellFormed_nat (n : Nat) : (nat n).WellFormed := fun _ absent =>
  absurd absent List.not_mem_nil

@[simp] theorem wellFormed_string (s : String) : (string s).WellFormed := trivial

@[simp] theorem wellFormed_bool (value : Bool) : (bool value).WellFormed := trivial

/-- The characters that a number may begin with. -/
def numeralStarts : List Char := ['-', '0', '1', '2', '3', '4', '5', '6', '7', '8', '9']

theorem render_numeral_eq_cons (numeral : Numeral)
    : ∃ c rest, numeral.render = c :: rest ∧ c ∈ numeralStarts := by
  obtain ⟨digit, digits, text, small, _⟩ := decimal_eq_cons numeral.whole
  rw [render_numeral, text]
  cases numeral.negative with
  | true => exact ⟨_, _, rfl, by decide⟩
  | false =>
      have table : ∀ digit < 10, Nat.digitChar digit ∈ numeralStarts := by decide
      exact ⟨_, _, rfl, table digit small⟩

/-- The characters that other values begin with, and the end of an array. -/
def otherMarks : List Char := ['n', 't', 'f', '[', ']', '{', '"']

/-- No number begins with a blank or in the way of another value. -/
theorem mark_of_numeralStarts {c : Char} (starts : c ∈ numeralStarts)
    : isBlank c = false ∧ ∀ mark ∈ otherMarks, c ≠ mark := by
  have table : (numeralStarts.all fun c => !isBlank c && !otherMarks.contains c) = true := by decide
  have apart : isBlank c = false ∧ c ∉ otherMarks := by
    simpa using List.all_eq_true.mp table c starts
  exact ⟨apart.1, fun mark member same => apart.2 (same ▸ member)⟩

/-- A written value begins with a mark: neither a blank nor the end of an array. -/
theorem render_eq_cons (json : Json)
    : ∃ c rest, json.render = c :: rest ∧ isBlank c = false ∧ c ≠ ']' := by
  cases json with
  | null => exact ⟨_, _, rfl, by decide⟩
  | bool value => cases value <;> exact ⟨_, _, rfl, by decide⟩
  | number numeral =>
      obtain ⟨c, rest, text, starts⟩ := render_numeral_eq_cons numeral
      obtain ⟨mark, other⟩ := mark_of_numeralStarts starts
      exact ⟨c, rest, text, mark, other ']' (by decide)⟩
  | text value => cases value <;> exact ⟨_, _, rfl, by decide⟩
  | array items => cases items <;> exact ⟨_, _, rfl, by decide⟩
  | object fields => cases fields <;> exact ⟨_, _, rfl, by decide⟩

theorem skipBlanks_cons {c : Char} (mark : isBlank c = false) (rest : List Char)
    : skipBlanks (c :: rest) = c :: rest :=
  List.dropWhile_cons_of_neg (by rw [mark]; exact Bool.false_ne_true)

theorem skipBlanks_render (json : Json) (rest : List Char)
    : skipBlanks (json.render ++ rest) = json.render ++ rest := by
  obtain ⟨c, tail, text, mark, _⟩ := json.render_eq_cons
  rw [text, List.cons_append, skipBlanks_cons mark]

theorem skipBlanks_renderText? (text : Option String) (rest : List Char)
    : skipBlanks (renderText? text ++ rest) = renderText? text ++ rest :=
  skipBlanks_render (.text text) rest

/-- Behind an item stands a comma or the end of its array. -/
theorem renderItems_eq_cons (items : List Json)
    : ∃ c rest, renderItems items = c :: rest ∧ (c = ',' ∨ c = ']') := by
  cases items with
  | nil => exact ⟨_, _, rfl, .inr rfl⟩
  | cons => exact ⟨_, _, rfl, .inl rfl⟩

/-- Behind a field stands a comma or the end of its object. -/
theorem renderFields_eq_cons (fields : List (Option String × Json))
    : ∃ c rest, renderFields fields = c :: rest ∧ (c = ',' ∨ c = '}') := by
  cases fields with
  | nil => exact ⟨_, _, rfl, .inr rfl⟩
  | cons => exact ⟨_, _, rfl, .inl rfl⟩

theorem endsNumber_renderItems (items : List Json) (rest : List Char)
    : EndsNumber (renderItems items ++ rest) := by
  obtain ⟨c, tail, text, rfl | rfl⟩ := renderItems_eq_cons items <;>
  · rw [text]
    rintro c ⟨⟩
    decide

theorem endsNumber_renderFields (fields : List (Option String × Json)) (rest : List Char)
    : EndsNumber (renderFields fields ++ rest) := by
  obtain ⟨c, tail, text, rfl | rfl⟩ := renderFields_eq_cons fields <;>
  · rw [text]
    rintro c ⟨⟩
    decide

/-- Where a number begins, a number is read. -/
theorem readValue?_number {c : Char} (starts : c ∈ numeralStarts) (fuel : Nat) (rest : List Char)
    : readValue? (fuel + 1) (c :: rest)
      = (readNumeral? (c :: rest)).map fun read => (.number read.1, read.2) := by
  obtain ⟨mark, other⟩ := mark_of_numeralStarts starts
  rw [readValue?, skipBlanks_cons mark]
  split
  · next same => exact absurd (List.cons.inj same).1 (other _ (by decide))
  · next same => exact absurd (List.cons.inj same).1 (other _ (by decide))
  · next same => exact absurd (List.cons.inj same).1 (other _ (by decide))
  · next same => exact absurd (List.cons.inj same).1 (other _ (by decide))
  · next same => exact absurd (List.cons.inj same).1 (other _ (by decide))
  · next same => exact absurd (List.cons.inj same).1 (other _ (by decide))
  · cases readNumeral? (c :: rest) <;> rfl

theorem renderText?_eq_cons (text : Option String) : ∃ rest, renderText? text = '"' :: rest := by
  cases text <;> exact ⟨_, rfl⟩

/-- A quoted text is read as a text. -/
theorem readValue?_renderText? (value : Option String) (fuel : Nat) (rest : List Char)
    : readValue? (fuel + 1) (renderText? value ++ rest) = some (.text value, rest) := by
  have read := readQuoted?_renderText? value rest
  obtain ⟨tail, quoted⟩ := renderText?_eq_cons value
  rw [quoted, List.cons_append] at read ⊢
  rw [readValue?, skipBlanks_cons (by decide)]
  simp only [read]
  rfl

/-- Behind an opening bracket, unless it is closed at once, items are read. -/
theorem readValue?_array {c : Char} (mark : isBlank c = false) (notEnd : c ≠ ']') (fuel : Nat)
    (rest : List Char)
    : readValue? (fuel + 1) ('[' :: c :: rest)
      = (readItems? fuel (c :: rest)).map fun read => (.array read.1, read.2) := by
  rw [readValue?, skipBlanks_cons (by decide)]
  simp only [skipBlanks_cons mark]
  split
  · next ended => exact absurd (List.cons.inj ended).1 notEnd
  · cases readItems? fuel (c :: rest) <;> rfl

/-- Behind an opening brace and a quote, fields are read. -/
theorem readValue?_object (fuel : Nat) (rest : List Char)
    : readValue? (fuel + 1) ('{' :: '"' :: rest)
      = (readFields? fuel ('"' :: rest)).map fun read => (.object read.1, read.2) := by
  rw [readValue?, skipBlanks_cons (by decide)]
  simp only [skipBlanks_cons (by decide : isBlank '"' = false)]
  split
  · next ended => exact absurd (List.cons.inj ended).1 (by decide)
  · cases readFields? fuel ('"' :: rest) <;> rfl

theorem render_length_pos (json : Json) : 0 < json.render.length := by
  obtain ⟨c, rest, text, _, _⟩ := json.render_eq_cons
  rw [text]
  exact Nat.succ_pos _

mutual

/-- A value is read back from its text, with what follows left over, by recursion on the fuel. Each
level of nesting and each item takes a character, so the length of the text is fuel enough.
-/
theorem readValue?_render (fuel : Nat) (json : Json) (formed : json.WellFormed)
    (enough : json.render.length ≤ fuel) {rest : List Char} (ends : EndsNumber rest)
    : readValue? fuel (json.render ++ rest) = some (json, rest) := by
  match fuel, json with
  | 0, json => exact absurd json.render_length_pos (Nat.not_lt.mpr enough)
  | fuel + 1, .null => rfl
  | fuel + 1, .bool true => rfl
  | fuel + 1, .bool false => rfl
  | fuel + 1, .number numeral =>
      obtain ⟨c, tail, text, starts⟩ := render_numeral_eq_cons numeral
      have read := readNumeral?_render formed ends
      rw [text, List.cons_append] at read
      rw [render, text, List.cons_append, readValue?_number starts, read]
      rfl
  | fuel + 1, .text value => exact readValue?_renderText? value fuel rest
  | fuel + 1, .array [] => rfl
  | fuel + 1, .array (item :: items) =>
      have read :=
        readItems?_render fuel item items formed.1 formed.2 (Nat.le_of_succ_le_succ enough) rest
      obtain ⟨c, tail, text, mark, notEnd⟩ := item.render_eq_cons
      simp only [render, List.cons_append, List.append_assoc, text] at read ⊢
      rw [readValue?_array mark notEnd, read]
      rfl
  | fuel + 1, .object [] => rfl
  | fuel + 1, .object ((key, value) :: fields) =>
      have room : (value.render ++ renderFields fields).length ≤ fuel := by
        rw [render, List.length_cons, List.length_append, List.length_cons] at enough
        omega
      have read := readFields?_render fuel key value fields formed.1 formed.2 room rest
      obtain ⟨tail, quoted⟩ := renderText?_eq_cons key
      simp only [render, List.cons_append, List.append_assoc, quoted] at read ⊢
      rw [readValue?_object, read]
      rfl

/-- So are the items of an array, up to its end. -/
theorem readItems?_render (fuel : Nat) (item : Json) (items : List Json) (formed : item.WellFormed)
    (others : ItemsWellFormed items) (enough : (item.render ++ renderItems items).length ≤ fuel)
    (rest : List Char)
    : readItems? fuel (item.render ++ (renderItems items ++ rest))
      = some (item :: items, rest) := by
  have itemText := item.render_length_pos
  rw [List.length_append] at enough
  match fuel, items with
  | 0, items => omega
  | fuel + 1, [] =>
      have room : item.render.length ≤ fuel := Nat.le_of_succ_le_succ enough
      rw [readItems?, readValue?_render fuel item formed room (endsNumber_renderItems [] rest)]
      rfl
  | fuel + 1, next :: items =>
      have room : item.render.length ≤ fuel ∧ (next.render ++ renderItems items).length ≤ fuel := by
        rw [renderItems, List.length_cons] at enough
        omega
      have read := readItems?_render fuel next items others.1 others.2 room.2 rest
      rw [readItems?,
        readValue?_render fuel item formed room.1 (endsNumber_renderItems (next :: items) rest)]
      simp only [renderItems, List.cons_append, List.append_assoc, Option.bind_eq_bind,
        Option.bind_some,
        skipBlanks_cons (by decide : isBlank ',' = false), read]
      rfl

/-- So are the fields of an object. -/
theorem readFields?_render (fuel : Nat) (key : Option String) (value : Json)
    (fields : List (Option String × Json)) (formed : value.WellFormed)
    (others : FieldsWellFormed fields)
    (enough : (value.render ++ renderFields fields).length ≤ fuel) (rest : List Char)
    : readFields? fuel (renderText? key ++ ':' :: (value.render ++ (renderFields fields ++ rest)))
      = some ((key, value) :: fields, rest) := by
  have valueText := value.render_length_pos
  rw [List.length_append] at enough
  match fuel, fields with
  | 0, fields => omega
  | fuel + 1, [] =>
      have room : value.render.length ≤ fuel := Nat.le_of_succ_le_succ enough
      rw [readFields?, skipBlanks_renderText?, readQuoted?_renderText?]
      simp only [Option.bind_eq_bind, Option.bind_some,
        skipBlanks_cons (by decide : isBlank ':' = false),
        readValue?_render fuel value formed room (endsNumber_renderFields [] rest)]
      rfl
  | fuel + 1, (name, next) :: fields =>
      have room : value.render.length ≤ fuel
          ∧ (next.render ++ renderFields fields).length ≤ fuel := by
        rw [renderFields, List.length_cons, List.length_append, List.length_cons] at enough
        omega
      have read := readFields?_render fuel name next fields others.1 others.2 room.2 rest
      rw [readFields?, skipBlanks_renderText?, readQuoted?_renderText?]
      simp only [Option.bind_eq_bind, Option.bind_some,
        skipBlanks_cons (by decide : isBlank ':' = false),
        readValue?_render fuel value formed room.1
          (endsNumber_renderFields ((name, next) :: fields) rest)]
      simp only [renderFields, List.cons_append, List.append_assoc,
        skipBlanks_cons (by decide : isBlank ',' = false), read]
      rfl

end

/-- The reader gives back what was written. -/
theorem read?_write {json : Json} (formed : json.WellFormed) : read? json.write = some json := by
  have read := readValue?_render (2 * json.render.length + 2) json formed (by omega) endsNumber_nil
  rw [List.append_nil] at read
  rw [read?, write, String.toList_ofList, read]
  rfl

end Json

end MarginLending
