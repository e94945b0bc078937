import Mathlib.Data.List.TakeDrop
import Handheld.Text.Numeral

/-! Written texts, as they are read back: runs of a class, pieces between separators, and the
digits of numbers. Main statement: the run of digits at the front of a text that begins with a
number are those of the number, and they are worth it.
-/

namespace Handheld

/-- A run of a class is split off when what follows does not go on with it. -/
theorem span_append {α : Type} {belongs : α → Bool} {front rest : List α}
    (inside : ∀ a ∈ front, belongs a) (stops : ∀ a ∈ rest.head?, belongs a = false)
    : (front ++ rest).span belongs = (front, rest) := by
  rw [List.span_eq_takeWhile_dropWhile, List.takeWhile_append_of_pos inside,
    List.dropWhile_append_of_pos inside]
  cases rest with
  | nil => simp
  | cons a more => simp [stops a (by simp)]

/-- Pieces between separators: the first one, and each other one behind its separator. -/
theorem toList_intercalate_cons (separator first : String) (more : List String)
    : (separator.intercalate (first :: more)).toList
      = first.toList ++ more.flatMap fun piece => separator.toList ++ piece.toList := by
  induction more generalizing first with
  | nil => simp
  | cons next more ih =>
      rw [String.intercalate_cons_cons, String.toList_append, String.toList_append, ih]
      simp

namespace Numeral

-----------------------------------------------------------------------------------------
-- One digit
-----------------------------------------------------------------------------------------

/-- A digit of a base stands for its number. -/
theorem digit?_digitChar {base digit : Nat} (small : digit < base) (known : base ≤ 16)
    : digit? base digit.digitChar = some digit := by
  have among : ∀ other < 16, digit? 16 other.digitChar = some other := by decide
  have common := (Option.filter_eq_some_iff.mp (among digit (by omega))).1
  exact Option.filter_eq_some_iff.mpr ⟨common, by simpa using small⟩

theorem isDigit_digitChar {base digit : Nat} (small : digit < base) (known : base ≤ 16)
    : isDigit base digit.digitChar := by
  rw [isDigit, digit?_digitChar small known, Option.isSome_some]

-----------------------------------------------------------------------------------------
-- All digits
-----------------------------------------------------------------------------------------

/-- What holds of one digit, and with a number also of the number with one digit more, holds
of every number.
-/
theorem digits_induction {base : Nat} (several : 1 < base) {motive : Nat → Prop}
    (single : ∀ number < base, motive number)
    (more : ∀ number, base ≤ number → motive (number / base) → motive number)
    (number : Nat)
    : motive number := by
  induction number using Nat.strongRecOn with
  | ind number ih =>
      by_cases small : number < base
      · exact single number small
      · exact more number (by omega) (ih _ (Nat.div_lt_self (by omega) several))

variable {base : Nat} (several : 1 < base)

/-- What digits are worth with one more behind them. -/
theorem value_concat (digits : List Char) (c : Char)
    : value base (digits ++ [c]) = base * value base digits + (digit? base c).getD 0 := by
  simp [value]

include several in
/-- The digits of a number are worth the number, digit by digit. -/
theorem value_toDigits (known : base ≤ 16) (number : Nat)
    : value base (Nat.toDigits base number) = number := by
  induction number using digits_induction several with
  | single number small =>
      rw [Nat.toDigits_of_lt_base small, ← List.nil_append [_], value_concat,
        digit?_digitChar small known]
      simp [value]
  | more number large ih =>
      have last : number % base < base := Nat.mod_lt _ (by omega)
      rw [Nat.toDigits_of_base_le several large, value_concat, ih,
        digit?_digitChar last known, Option.getD_some, Nat.div_add_mod]

include several in
/-- All digits of a number are digits of its base, digit by digit. -/
theorem isDigit_of_mem (known : base ≤ 16) (number : Nat)
    : ∀ c ∈ Nat.toDigits base number, isDigit base c := by
  induction number using digits_induction several with
  | single number small =>
      rw [Nat.toDigits_of_lt_base small]
      intro c member
      rw [List.mem_singleton.mp member]
      exact isDigit_digitChar small known
  | more number large ih =>
      rw [Nat.toDigits_of_base_le several large]
      intro c member
      rcases List.mem_append.mp member with before | last
      · exact ih c before
      · rw [List.mem_singleton.mp last]
        exact isDigit_digitChar (Nat.mod_lt _ (by omega)) known

include several in
/-- A number other than 0 does not begin with a zero, digit by digit. -/
theorem head?_toDigits (number : Nat) (positive : number ≠ 0)
    : (Nat.toDigits base number).head? ≠ some '0' := by
  induction number using digits_induction several with
  | single number small =>
      rw [Nat.toDigits_of_lt_base small]
      simpa using positive
  | more number large ih =>
      have shorter : number / base ≠ 0 := by
        have := Nat.div_pos large (by omega)
        omega
      have nonempty : Nat.toDigits base (number / base) ≠ [] := Nat.toDigits_ne_nil
      rw [Nat.toDigits_of_base_le several large, List.head?_append,
        List.head?_eq_some_head nonempty, Option.some_or, ← List.head?_eq_some_head nonempty]
      exact ih shorter

-----------------------------------------------------------------------------------------
-- Numbers in texts
-----------------------------------------------------------------------------------------

/-- A text that does not go on with a number. -/
def Ends (base : Nat) (rest : List Char) : Prop := ∀ c ∈ rest.head?, isDigit base c = false

@[simp]
theorem ends_nil : Ends base [] := fun c member => by simp at member

@[simp]
theorem ends_cons {c : Char} {rest : List Char}
    : Ends base (c :: rest) ↔ isDigit base c = false := by
  simp [Ends]

include several in
/-- The run of digits at the front of a text is that of the number it begins with. -/
theorem run_toDigits (known : base ≤ 16) (number : Nat) {rest : List Char}
    (ends : Ends base rest)
    : run base (Nat.toDigits base number ++ rest) = (Nat.toDigits base number, rest) :=
  span_append (isDigit_of_mem several known number) ends

end Numeral

end Handheld
