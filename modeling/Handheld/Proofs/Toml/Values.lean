import Handheld.Proofs.Text.Written
import Handheld.Proofs.Toml.Quoting
import Handheld.Toml.Document

/-! Plain values, as they are read back: texts, truth values and numbers. Main statement: each
is read from the way in which it is written.
-/

namespace Handheld

namespace Toml

open Numeral

-----------------------------------------------------------------------------------------
-- Numbers
-----------------------------------------------------------------------------------------

/-- A text of digits that a line feed follows. -/
def DigitLine (text : List Char) : Prop :=
  ∃ digits rest, (∀ c ∈ digits, isDecimal c) ∧ text = digits ++ '\n' :: rest

/-- Such a text begins with a digit or the line feed, and with no other character. -/
theorem DigitLine.head {text : List Char} (line : DigitLine text)
    : ∃ first rest, text = first :: rest
      ∧ ∀ c, isDecimal c = false → c ≠ '\n' → first ≠ c := by
  obtain ⟨digits, rest, decimal, rfl⟩ := line
  cases digits with
  | nil => exact ⟨'\n', rest, rfl, fun c _ unfed => unfed.symm⟩
  | cons digit digits =>
      refine ⟨digit, _, rfl, fun c other _ same => ?_⟩
      rw [← same, decimal digit (by simp)] at other
      contradiction

theorem DigitLine.literal_none {text : List Char} (line : DigitLine text) {c : Char}
    (other : isDecimal c = false) (unfed : c ≠ '\n')
    : literal [c] text = none := by
  obtain ⟨first, rest, rfl, front⟩ := line.head
  simp [literal, List.isPrefixOf, (front c other unfed).symm]

/-- What follows some of its digits is again such a text. -/
theorem DigitLine.fixedNumber {text rest : List Char} (line : DigitLine text)
    {count least most value : Nat}
    (read : fixedNumber count least most text = some (value, rest))
    : DigitLine rest := by
  obtain ⟨digits, more, decimal, rfl⟩ := line
  simp only [Toml.fixedNumber] at read
  split at read
  · next run =>
      split at read
      · obtain ⟨-, rfl⟩ := Prod.mk.inj (Option.some.inj read)
        by_cases within : count ≤ digits.length
        · exact ⟨digits.drop count, more, fun c member => decimal c (List.mem_of_mem_drop member),
            List.drop_append_of_le_length within⟩
        · -- A run beyond the digits would have the line feed in it.
          obtain ⟨beyond, rfl⟩ := Nat.exists_eq_add_of_lt (Nat.not_le.mp within)
          have decimalFeed := List.all_eq_true.mp run.2 '\n'
            (by simp [List.take_append, Nat.add_assoc])
          exact absurd decimalFeed (by decide)
      · contradiction
  · contradiction

theorem DigitLine.date_none {text : List Char} (line : DigitLine text) : date text = none := by
  cases year : Toml.fixedNumber 4 0 9999 text with
  | none => simp [date, year]
  | some read =>
      obtain ⟨value, rest⟩ := read
      have behind : literal ['-'] rest = none :=
        (line.fixedNumber year).literal_none (by decide) (by decide)
      simp [date, year, behind]

theorem DigitLine.timeOfDay_none {text : List Char} (line : DigitLine text)
    : timeOfDay text = none := by
  cases hour : Toml.fixedNumber 2 0 23 text with
  | none => simp [timeOfDay, hour]
  | some read =>
      obtain ⟨value, rest⟩ := read
      have behind : literal [':'] rest = none :=
        (line.fixedNumber hour).literal_none (by decide) (by decide)
      simp [timeOfDay, hour, behind]

theorem DigitLine.dateTime_none {text : List Char} (line : DigitLine text)
    : dateTime text = none := by
  simp [dateTime, line.date_none, line.timeOfDay_none]

theorem DigitLine.sign_eq {text : List Char} (line : DigitLine text)
    : sign text = (none, text) := by
  obtain ⟨first, rest, rfl, front⟩ := line.head
  have plus : first ≠ '+' := front '+' (by decide) (by decide)
  have minus : first ≠ '-' := front '-' (by decide) (by decide)
  simp [sign, plus, minus]

theorem DigitLine.specialFloat_none {text : List Char} (line : DigitLine text)
    : specialFloat text = none := by
  have signless := line.sign_eq
  obtain ⟨first, rest, rfl, front⟩ := line.head
  have infinite : first ≠ 'i' := front 'i' (by decide) (by decide)
  have nan : first ≠ 'n' := front 'n' (by decide) (by decide)
  simp [specialFloat, signless, infinite, nan]

/-- Digits are read in a run up to the line feed, digit by digit. -/
theorem grouped_go (fuel : Nat) (digits rest : List Char) (decimal : ∀ c ∈ digits, isDecimal c)
    (enough : digits.length ≤ fuel)
    : grouped.go isDecimal fuel (digits ++ '\n' :: rest) = (digits, '\n' :: rest) := by
  have feed : isDecimal '\n' = false := by decide
  induction fuel generalizing digits with
  | zero =>
      obtain rfl : digits = [] := List.eq_nil_of_length_eq_zero (Nat.le_zero.mp enough)
      rfl
  | succ fuel ih =>
      cases digits with
      | nil => simp [grouped.go, feed]
      | cons c digits =>
          have digit : isDecimal c := decimal c (by simp)
          have plain : c ≠ '_' := by
            rintro rfl
            exact absurd digit (by decide)
          have more := ih digits (fun other member => decimal other (by simp [member]))
            (by simpa using enough)
          simp [grouped.go, plain, digit, more]

/-- The digits of a number are read up to the line feed. -/
theorem decimalDigits_toDigits (number : Nat) (rest : List Char)
    : decimalDigits (Nat.toDigits 10 number ++ '\n' :: rest)
      = some (Nat.toDigits 10 number, '\n' :: rest) := by
  by_cases zero : number = 0
  · subst zero
    rfl
  · have decimal := isDigit_of_mem (by decide : 1 < 10) (by decide) number
    have front := head?_toDigits (by decide : 1 < 10) number zero
    cases digits : Nat.toDigits 10 number with
    | nil => exact absurd digits Nat.toDigits_ne_nil
    | cons c more =>
        rw [digits] at decimal front
        have first : (isDecimal c && c != '0') = true := by
          simpa [isDecimal, decimal c (by simp)] using front
        have run := grouped_go (more ++ '\n' :: rest).length more rest
          (fun other member => decimal other (by simp [member])) (by simp)
        simp only [decimalDigits, grouped, List.cons_append, first, if_true, run]

/-- A number of another base would have its mark for a second digit. -/
theorem DigitLine.unmarked {text : List Char} (line : DigitLine text) {mark : Char}
    (other : isDecimal mark = false) (unfed : mark ≠ '\n') (rest : List Char)
    : text ≠ '0' :: mark :: rest := by
  rintro rfl
  obtain ⟨digits, more, decimal, split⟩ := line
  match digits, split with
  | [], split => exact absurd (List.cons.inj split).1 (by decide)
  | [_], split => exact unfed (List.cons.inj (List.cons.inj split).2).1
  | _ :: digit :: _, split =>
      obtain rfl := (List.cons.inj (List.cons.inj split).2).1
      rw [decimal mark (by simp)] at other
      contradiction

theorem DigitLine.integer_eq {text : List Char} (line : DigitLine text)
    : integer text = (decimalDigits text).bind fun (digits, rest) =>
        (integerOf? 10 false digits).map fun number => (number, rest) := by
  unfold integer
  split
  · exact absurd rfl (line.unmarked (by decide) (by decide) _)
  · exact absurd rfl (line.unmarked (by decide) (by decide) _)
  · exact absurd rfl (line.unmarked (by decide) (by decide) _)
  · rw [line.sign_eq]
    simp only [Option.map_eq_bind]
    rfl

theorem DigitLine.toDigits (number : Nat) (rest : List Char)
    : DigitLine (Nat.toDigits 10 number ++ '\n' :: rest) :=
  ⟨_, rest, isDigit_of_mem (by decide) (by decide) number, rfl⟩

/-- A number is read as itself: it is no date, and has neither fraction nor exponent. -/
theorem scalar_toDigits (number : Nat) (fits : (number : Int) ≤ Document.greatestInteger)
    (rest : List Char)
    : scalar (Nat.toDigits 10 number ++ '\n' :: rest)
      = some (.integer number, '\n' :: rest) := by
  have line := DigitLine.toDigits number rest
  have notFloat : plainFloat (Nat.toDigits 10 number ++ '\n' :: rest) = none := by
    have noPower : exponent ('\n' :: rest) = none := rfl
    simp [plainFloat, line.sign_eq, decimalDigits_toDigits, fraction, noPower, guard]
  have read : integer (Nat.toDigits 10 number ++ '\n' :: rest)
      = some (.integer number, '\n' :: rest) := by
    have least : Document.leastInteger ≤ number := by simp [Document.leastInteger]
    simp [line.integer_eq, decimalDigits_toDigits, integerOf?, value_toDigits, least, fits]
  cases digits : Nat.toDigits 10 number with
  | nil => exact absurd digits Nat.toDigits_ne_nil
  | cons c more =>
      have decimal : isDecimal c :=
        isDigit_of_mem (by decide : 1 < 10) (by decide) number c (by simp [digits])
      have unquoted : ¬(c = '\"' ∨ c = '\'') := by
        rintro (rfl | rfl) <;> exact absurd decimal (by decide)
      rw [digits] at line notFloat read
      simp only [List.cons_append] at line notFloat read ⊢
      simp [scalar, unquoted, decimal, line.dateTime_none, notFloat, line.specialFloat_none,
        read]

-----------------------------------------------------------------------------------------
-- Values
-----------------------------------------------------------------------------------------

/-- The values of plain documents: texts, truth values, and numbers that a document can hold. -/
inductive Value.Plain : Value → Prop
  | text (text : String) : Plain (.text text)
  | natural (number : Nat) (fits : (number : Int) ≤ Document.greatestInteger)
      : Plain (.integer number)
  | boolean (value : Bool) : Plain (.boolean value)

/-- A quoted text begins with a quote. -/
theorem quoted_front {text : List Char} {read : String × List Char}
    (found : quoted text = some read)
    : ∃ c rest, text = c :: rest ∧ (c = '\"' ∨ c = '\'') := by
  unfold quoted at found
  split at found
  · exact ⟨_, _, rfl, .inl rfl⟩
  · exact ⟨_, _, rfl, .inr rfl⟩
  · unfold quotedLine at found
    split at found
    · exact ⟨_, _, rfl, .inl rfl⟩
    · exact ⟨_, _, rfl, .inr rfl⟩
    · contradiction

theorem toList_renderScalar (number : Nat)
    : (renderScalar (.integer number)).toList = Nat.toDigits 10 number := by
  exact Nat.toList_repr

/-- A plain value is read from the way in which it is written. -/
theorem scalar_renderScalar {value : Value} (plain : value.Plain) (rest : List Char)
    : scalar ((renderScalar value).toList ++ '\n' :: rest) = some (value, '\n' :: rest) := by
  cases plain with
  | text text =>
      have read := quoted_renderText text rest
      obtain ⟨c, more, front, quote⟩ := quoted_front read
      simp only [renderScalar, front] at read ⊢
      simp [scalar, quote, read]
  | natural number fits =>
      rw [toList_renderScalar]
      exact scalar_toDigits number fits rest
  | boolean value => cases value <;> rfl

/-- A plain value is written on the line of its key, and is no list and no table. -/
theorem renderScalar_front {value : Value} (plain : value.Plain)
    : ∃ c more, (renderScalar value).toList = c :: more ∧ c ≠ '[' ∧ c ≠ '\x7b'
      ∧ isBlank c = false := by
  cases plain with
  | text text =>
      obtain ⟨c, more, front, quote⟩ := quoted_front (quoted_renderText text [])
      cases written : (renderText text).toList with
      | nil =>
          obtain rfl : '\n' = c := (List.cons.inj (written ▸ front)).1
          simp at quote
      | cons first others =>
          obtain rfl : first = c := (List.cons.inj (written ▸ front)).1
          refine ⟨first, others, written, ?_⟩
          rcases quote with rfl | rfl <;> decide
  | natural number fits =>
      rw [toList_renderScalar]
      cases digits : Nat.toDigits 10 number with
      | nil => exact absurd digits Nat.toDigits_ne_nil
      | cons c more =>
          have decimal : isDecimal c :=
            isDigit_of_mem (by decide : 1 < 10) (by decide) number c (by simp [digits])
          have other {d : Char} (text : isDecimal d = false) : c ≠ d := by
            rintro rfl
            simp [decimal] at text
          exact ⟨c, more, rfl, other (by decide), other (by decide),
            by simp [isBlank, other (show isDecimal ' ' = false by decide),
              other (show isDecimal '\t' = false by decide)]⟩
  | boolean value => cases value <;> exact ⟨_, _, rfl, by decide, by decide, by decide⟩

/-- A plain value stands alone. -/
theorem value_renderScalar {written : Value} (plain : written.Plain) (fuel depth : Nat)
    (rest : List Char)
    : value (fuel + 1) depth ((renderScalar written).toList ++ '\n' :: rest)
      = some (written, '\n' :: rest) := by
  have read := scalar_renderScalar plain rest
  obtain ⟨c, more, front, noList, noTable, -⟩ := renderScalar_front plain
  rw [front] at read ⊢
  simpa [value, noList, noTable] using read

end Toml

end Handheld
