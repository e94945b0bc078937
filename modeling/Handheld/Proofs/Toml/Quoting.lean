import Mathlib.Tactic.SplitIfs
import Handheld.Toml.Quoted
import Handheld.Toml.Writer

/-! Texts between quotes, as they are read back. Main statement: every text is read from the
way in which it is written.
-/

namespace Handheld

namespace Toml

-----------------------------------------------------------------------------------------
-- Characters
-----------------------------------------------------------------------------------------

/-- A character is written so that the body of a quoted text goes on with it: not with a bare
quote, and with a line end only for a line feed.
-/
structure Reads (style : QuoteStyle) (c : Char) (written : List Char) : Prop where
  plain : ∃ first more, written = first :: more ∧ first ≠ style.quote ∧ first ≠ '\r'
    ∧ (first = '\n' → c = '\n')
  read : ∀ fuel found rest, quotedBody style (fuel + 1) found (written ++ rest)
    = quotedBody style fuel (c :: found) rest

/-- A character that is none of those with a meaning of their own is written as it is. -/
theorem reads_self {style : QuoteStyle} {c : Char} (unquoted : c ≠ style.quote)
    (unescaped : style.escapes → c ≠ '\\') (visible : isControl c = false)
    : Reads style c [c] := by
  have notFeed : c ≠ '\n' := by
    rintro rfl
    exact absurd visible (by decide)
  have notReturn : c ≠ '\r' := by
    rintro rfl
    exact absurd visible (by decide)
  have plain : ¬(c = '\\' ∧ style.escapes) := fun both => unescaped both.2 both.1
  refine ⟨⟨c, [], rfl, unquoted, notReturn, fun feed => absurd feed notFeed⟩,
    fun fuel found rest => ?_⟩
  simp [quotedBody, notReturn, unquoted, plain, visible]

/-- A line feed is written as it is on several lines. -/
theorem reads_feed {style : QuoteStyle} (unquoted : '\n' ≠ style.quote) (lines : style.lines)
    : Reads style '\n' ['\n'] :=
  ⟨⟨'\n', [], rfl, unquoted, by decide, fun _ => rfl⟩, fun fuel found rest => by
    simp [quotedBody, lines]⟩

/-- An escape is written for the character that it stands for. -/
theorem reads_escape {style : QuoteStyle} (escapes : style.escapes)
    (unquoted : '\\' ≠ style.quote) {c : Char} {code : List Char}
    (stands : ∀ rest, escaped (code ++ rest) = some (c, rest))
    : Reads style c ('\\' :: code) :=
  ⟨⟨'\\', code, rfl, unquoted, by decide, fun feed => absurd feed (by decide)⟩,
    fun fuel found rest => by simp [quotedBody, unquoted, escapes, stands]⟩

/-- A number of four digits is read as the character with this number. -/
theorem escapedCode_digits {digits : List Char} {c : Char} (four : digits.length = 4)
    (hexadecimal : digits.all (Numeral.isDigit 16)) (number : Numeral.value 16 digits = c.toNat)
    (rest : List Char)
    : escapedCode 4 (digits ++ rest) = some (c, rest) := by
  have front : (digits ++ rest).take 4 = digits := List.take_left' four
  have behind : (digits ++ rest).drop 4 = rest := List.drop_left' four
  have found (code : Nat) (same : code = c.toNat)
      : (if valid : code.isValidChar then some (Char.ofNatAux code valid, rest) else none)
        = some (c, rest) := by
    subst same
    have valid : c.toNat.isValidChar := c.valid
    have numbered := Char.ofNat_toNat c
    rw [Char.ofNat, dif_pos valid] at numbered
    rw [dif_pos valid, numbered]
  rw [escapedCode, behind, if_pos (by rw [front]; exact ⟨four, hexadecimal⟩)]
  exact found _ (by rw [front]; exact number)

/-- A control character is written by its number. -/
theorem escaped_control {c : Char} (control : c < ' ' ∨ c = '\x7f') (rest : List Char)
    : escaped ('u' :: ((Hex.padded 4 c.toNat).toUpper.toList ++ rest)) = some (c, rest) := by
  have small : c.toNat < 128 := by
    rcases control with below | rfl
    · have : c.toNat < 32 := below
      omega
    · decide
  have among : ∀ number < 128,
      (Hex.padded 4 number).toUpper.toList.length = 4
      ∧ (Hex.padded 4 number).toUpper.toList.all (Numeral.isDigit 16)
      ∧ Numeral.value 16 (Hex.padded 4 number).toUpper.toList = number := by decide +kernel
  obtain ⟨four, digits, number⟩ := among c.toNat small
  exact escapedCode_digits four digits number rest

-----------------------------------------------------------------------------------------
-- Texts
-----------------------------------------------------------------------------------------

/-- The letters of a text and how they are written, behind `quotes` bare quotes. Only a text
on several lines has bare quotes, at most two in a row.
-/
inductive Written (style : QuoteStyle) : (quotes : Nat) → (letters written : List Char) → Prop
  | nothing (quotes : Nat) : Written style quotes [] []
  | letter {quotes : Nat} {c : Char} {letters front rest : List Char}
      (reads : Reads style c front) (more : Written style 0 letters rest)
      : Written style quotes (c :: letters) (front ++ rest)
  | quote {quotes : Nat} {letters rest : List Char} (lines : style.lines)
      (room : quotes < 2) (more : Written style (quotes + 1) letters rest)
      : Written style quotes (style.quote :: letters) (style.quote :: rest)

variable {style : QuoteStyle} {letters written : List Char}
  (unfed : style.quote ≠ '\n') (unreturned : style.quote ≠ '\r')

include unfed unreturned in
/-- A bare quote ends a text on one line. -/
theorem quotedBody_ended (line : style.lines = false) (fuel : Nat) (found rest : List Char)
    : quotedBody style (fuel + 1) found (style.quote :: rest)
      = some (String.ofList found.reverse, rest) := by
  simp [quotedBody, unreturned, line]

include unfed unreturned in
/-- Closing quotes end a text on several lines. -/
theorem quotedBody_closed (lines : style.lines) (fuel : Nat) (found : List Char)
    {rest behind : List Char} {inner : Nat}
    (closing : closingQuotes style.quote (style.quote :: rest) = some (inner, behind))
    : quotedBody style (fuel + 1) found (style.quote :: rest)
      = some (String.ofList (found.reverse ++ List.replicate inner style.quote), behind) := by
  simp [quotedBody, unreturned, lines, closing]

include unfed unreturned in
/-- A bare quote that closes nothing belongs to a text on several lines. -/
theorem quotedBody_opened (lines : style.lines) (fuel : Nat) (found : List Char)
    {rest : List Char} (closing : closingQuotes style.quote (style.quote :: rest) = none)
    : quotedBody style (fuel + 1) found (style.quote :: rest)
      = quotedBody style fuel (style.quote :: found) rest := by
  simp [quotedBody, unreturned, lines, closing]

include unfed unreturned in
/-- A text on one line is read up to its closing quote, letter by letter. -/
theorem quotedBody_line (line : style.lines = false) {quotes : Nat}
    (text : Written style quotes letters written) (fuel : Nat) (found rest : List Char)
    (enough : written.length < fuel)
    : quotedBody style fuel found (written ++ style.quote :: rest)
      = some (String.ofList (found.reverse ++ letters), rest) := by
  induction text generalizing fuel found with
  | nothing quotes =>
      obtain ⟨fuel, rfl⟩ := Nat.exists_eq_add_of_lt enough
      rw [List.append_nil]
      exact quotedBody_ended unfed unreturned line _ found rest
  | letter reads more ih =>
      obtain ⟨fuel, rfl⟩ := Nat.exists_eq_add_of_lt enough
      obtain ⟨first, others, rfl, -⟩ := reads.plain
      rw [List.append_assoc, reads.read, ih _ _ (by simp at enough ⊢; omega)]
      simp
  | quote lines room more ih => simp [line] at lines

/-- A written text is all bare quotes, or they are followed by something else. -/
theorem Written.leading {quotes : Nat} (text : Written style quotes letters written)
    (few : quotes ≤ 2)
    : (∃ run, letters = List.replicate run style.quote
        ∧ written = List.replicate run style.quote ∧ quotes + run ≤ 2)
      ∨ ∃ run c behind, written = List.replicate run style.quote ++ c :: behind
        ∧ c ≠ style.quote ∧ quotes + run ≤ 2 := by
  induction text with
  | nothing quotes => exact .inl ⟨0, rfl, rfl, few⟩
  | letter reads more ih =>
      obtain ⟨first, others, rfl, unquoted, -⟩ := reads.plain
      exact .inr ⟨0, first, others ++ _, rfl, unquoted, few⟩
  | quote lines room more ih =>
      rcases ih room with ⟨run, rfl, rfl, bound⟩ | ⟨run, c, behind, rfl, unquoted, bound⟩
      · exact .inl ⟨run + 1, rfl, rfl, by omega⟩
      · exact .inr ⟨run + 1, c, behind, rfl, unquoted, by omega⟩

/-- The run of quotes at the front of a text. -/
theorem takeWhile_replicate (quote : Char) (run : Nat) {rest : List Char}
    (stops : rest.head? ≠ some quote)
    : ((List.replicate run quote ++ rest).takeWhile (· == quote)).length = run := by
  rw [List.takeWhile_append_of_pos (by simp)]
  cases rest with
  | nil => simp
  | cons c more => simp [show c ≠ quote by simpa using stops]

/-- Three closing quotes behind up to two that belong to the text. -/
theorem closingQuotes_replicate (quote : Char) {run : Nat} (few : run ≤ 2) {rest : List Char}
    (stops : rest.head? ≠ some quote)
    : closingQuotes quote (List.replicate (run + 3) quote ++ rest) = some (run, rest) := by
  simp only [closingQuotes, takeWhile_replicate quote _ stops]
  rw [if_neg (by omega), show min (run + 3 - 3) 2 = run by omega,
    List.drop_left' List.length_replicate]

/-- One or two quotes do not close a text. -/
theorem closingQuotes_none (quote : Char) {run : Nat} (few : run ≤ 2) {rest : List Char}
    (stops : rest.head? ≠ some quote)
    : closingQuotes quote (List.replicate run quote ++ rest) = none := by
  simp only [closingQuotes, takeWhile_replicate quote _ stops]
  rw [if_pos (by omega)]

include unfed unreturned in
/-- A text on several lines is read up to its closing quotes, letter by letter. -/
theorem quotedBody_lines (lines : style.lines) {quotes : Nat} (few : quotes ≤ 2)
    (text : Written style quotes letters written) (fuel : Nat) (found : List Char)
    {rest : List Char} (stops : rest.head? ≠ some style.quote)
    (enough : written.length < fuel)
    : quotedBody style fuel found
        (written ++ (List.replicate 3 style.quote ++ rest))
      = some (String.ofList (found.reverse ++ letters), rest) := by
  induction text generalizing fuel found with
  | nothing quotes =>
      obtain ⟨fuel, rfl⟩ := Nat.exists_eq_add_of_lt enough
      have closing := closingQuotes_replicate style.quote (Nat.zero_le 2) stops
      exact quotedBody_closed unfed unreturned lines _ found closing
  | letter reads more ih =>
      obtain ⟨fuel, rfl⟩ := Nat.exists_eq_add_of_lt enough
      obtain ⟨first, others, rfl, -⟩ := reads.plain
      rw [List.append_assoc, reads.read, ih (by omega) _ _ (by simp at enough ⊢; omega)]
      simp
  | @quote quotes letters written _ room more ih =>
      obtain ⟨fuel, rfl⟩ := Nat.exists_eq_add_of_lt enough
      rcases more.leading room with
        ⟨run, rfl, rfl, bound⟩ | ⟨run, c, behind, rfl, other, bound⟩
      · -- The quotes of the text run into those that close it.
        have closing := closingQuotes_replicate style.quote (show run + 1 ≤ 2 by omega) stops
        have run_on : style.quote :: (List.replicate run style.quote
            ++ (List.replicate 3 style.quote ++ rest))
            = List.replicate (run + 1 + 3) style.quote ++ rest := by
          rw [← List.append_assoc, List.replicate_append_replicate, ← List.cons_append,
            ← List.replicate_succ, Nat.add_right_comm]
        rw [← run_on] at closing
        exact quotedBody_closed unfed unreturned lines _ found closing
      · -- Something else follows before the text closes.
        have opened : closingQuotes style.quote (style.quote :: (List.replicate run style.quote
            ++ (c :: behind ++ (List.replicate 3 style.quote ++ rest)))) = none := by
          rw [← List.cons_append, ← List.replicate_succ]
          exact closingQuotes_none style.quote (by omega) (by simpa using other)
        rw [← List.append_assoc] at opened
        rw [List.cons_append, quotedBody_opened unfed unreturned lines _ found opened,
          ih room _ (style.quote :: found) (by simp at enough ⊢; omega)]
        simp

-----------------------------------------------------------------------------------------
-- The styles of writing
-----------------------------------------------------------------------------------------

/-- The style of double quotes, which have escapes, or of single ones, which have none. -/
def QuoteStyle.of (escapes lines : Bool) : QuoteStyle :=
  ⟨if escapes then '\"' else '\'', escapes, lines⟩

theorem QuoteStyle.of_quote (escapes lines : Bool)
    : (of escapes lines).quote ≠ '\n' ∧ (of escapes lines).quote ≠ '\r' := by
  cases escapes <;> simp [of]

/-- A short escape stands for its character. -/
theorem escaped_shortEscape {c letter : Char} (short : shortEscape? c = some letter)
    (rest : List Char)
    : escaped (letter :: rest) = some (c, rest) := by
  unfold shortEscape? at short
  split at short <;> cases short <;> rfl

/-- How double quotes are written between letters: bare ones behind too few others, and every
other one with a backslash.
-/
theorem written_quote {lines : Bool} {quotes : Nat} {letters : List Char}
    (more : ∀ quotes ≤ 2, Written (.of true lines) quotes letters
      (escapeText lines quotes letters).toList)
    : Written (.of true lines) quotes ('\"' :: letters)
        (escapeText lines quotes ('\"' :: letters)).toList := by
  have backslash : '\\' ≠ '\"' := by decide
  by_cases full : (if lines then 2 else 0) < quotes + 1
  · rw [escapeText, if_pos rfl, if_pos full, String.toList_append]
    exact .letter (reads_escape rfl backslash fun rest => rfl) (more 0 (by decide))
  · rw [escapeText, if_pos rfl, if_neg full, String.toList_append]
    cases lines with
    | false => exact absurd (Nat.succ_pos quotes) full
    | true =>
        have room : quotes + 1 ≤ 2 := Nat.not_lt.mp full
        exact .quote rfl room (more (quotes + 1) room)

/-- The characters between double quotes are written with escapes, letter by letter. -/
theorem written_escapeText (lines : Bool) (letters : List Char) (quotes : Nat)
    (few : quotes ≤ 2)
    : Written (.of true lines) quotes letters (escapeText lines quotes letters).toList := by
  have backslash : '\\' ≠ '\"' := by decide
  induction letters generalizing quotes with
  | nil => exact .nothing quotes
  | cons c letters ih =>
      by_cases quote : c = '\"'
      · exact quote ▸ written_quote ih
      have more := ih 0 (by decide)
      by_cases feed : c = '\n' ∧ lines
      · obtain ⟨rfl, several⟩ := feed
        have reads : Reads (.of true lines) '\n' ['\n'] :=
          reads_feed (QuoteStyle.of_quote true lines).1.symm several
        simpa [escapeText, several] using Written.letter reads more
      cases short : shortEscape? c with
      | some letter =>
          have reads : Reads (.of true lines) c ['\\', letter] :=
            reads_escape rfl backslash (escaped_shortEscape short)
          simpa [escapeText, quote, feed, short] using Written.letter reads more
      | none =>
          by_cases control : c < ' ' ∨ c = '\x7f'
          · have reads : Reads (.of true lines) c
                ('\\' :: 'u' :: (Hex.padded 4 c.toNat).toUpper.toList) :=
              reads_escape rfl backslash (escaped_control control)
            simpa [escapeText, quote, feed, short, control] using Written.letter reads more
          · have visible : isControl c = false := by
              simp only [not_or] at control
              simp [isControl, control]
            have unescaped : c ≠ '\\' := by
              rintro rfl
              simp [shortEscape?] at short
            have reads : Reads (.of true lines) c [c] :=
              reads_self quote (fun _ => unescaped) visible
            simpa [escapeText, quote, feed, short, control] using Written.letter reads more

/-- Counts one more character: the longest run so far, and the one that goes on. -/
def countRun (sought : Char) (counts : Nat × Nat) (c : Char) : Nat × Nat :=
  (max counts.1 (if c = sought then counts.2 + 1 else 0), if c = sought then counts.2 + 1 else 0)

theorem longestRun_eq (sought : Char) (letters : List Char)
    : longestRun sought letters = (letters.foldl (countRun sought) (0, 0)).1 := rfl

/-- A longest run stays one, character by character. -/
theorem le_foldl_countRun (sought : Char) (letters : List Char) (counts : Nat × Nat)
    : counts.1 ≤ (letters.foldl (countRun sought) counts).1 := by
  induction letters generalizing counts with
  | nil => exact Nat.le_refl _
  | cons c letters ih => exact Nat.le_trans (Nat.le_max_left ..) (ih (countRun sought counts c))

/-- A literal text is written as it is, letter by letter, if it has no controls, line feeds
only on several lines, and no more quotes in a row than these allow.
-/
theorem written_literal (lines : Bool) (letters : List Char) (counts : Nat × Nat)
    (visible : ∀ c ∈ letters, isControl c = false ∨ c = '\n' ∧ lines)
    (short : (letters.foldl (countRun '\'') counts).1 ≤ if lines then 2 else 0)
    : Written (.of false lines) counts.2 letters letters := by
  induction letters generalizing counts with
  | nil => exact .nothing _
  | cons c letters ih =>
      have more := ih (countRun '\'' counts c)
        (fun other member => visible other (by simp [member])) short
      have longest := Nat.le_trans (le_foldl_countRun '\'' letters (countRun '\'' counts c)) short
      by_cases quote : c = '\''
      · subst quote
        simp only [countRun, if_true] at more longest
        cases lines with
        | false => simp at longest
        | true => exact .quote rfl (by simp at longest; omega) more
      · simp only [countRun, if_neg quote] at more
        have reads : Reads (.of false lines) c [c] := by
          rcases visible c (by simp) with plain | ⟨rfl, several⟩
          · exact reads_self quote (by simp [QuoteStyle.of]) plain
          · exact reads_feed (QuoteStyle.of_quote false lines).1.symm several
        exact .letter reads more

-----------------------------------------------------------------------------------------
-- Quoted texts
-----------------------------------------------------------------------------------------

theorem lineEnd_cons {c : Char} (unfed : c ≠ '\n') (unreturned : c ≠ '\r')
    (rest : List Char)
    : lineEnd (c :: rest) = none := by
  unfold lineEnd
  split <;> simp_all

include unfed unreturned in
/-- What is written of a text without line feeds does not begin with a line end. -/
theorem lineEnd_written {quotes : Nat} (text : Written style quotes letters written)
    (flat : '\n' ∉ letters) (rest : List Char)
    : lineEnd (written ++ style.quote :: rest) = none := by
  cases text with
  | nothing => exact lineEnd_cons unfed unreturned rest
  | @letter _ c letters _ _ reads more =>
      obtain ⟨first, others, rfl, -, returnless, feeds⟩ := reads.plain
      have feedless : first ≠ '\n' := fun feed => flat (by simp [feeds feed])
      exact lineEnd_cons feedless returnless _
  | quote lines room more => exact lineEnd_cons unfed unreturned _

/-- A quote that two others do not follow opens a text on one line. -/
theorem quoted_one {escapes : Bool} {body : List Char}
    (untripled : ∀ more, body
      ≠ (QuoteStyle.of escapes false).quote :: (QuoteStyle.of escapes false).quote :: more)
    : quoted ((QuoteStyle.of escapes false).quote :: body)
      = quotedBody (.of escapes false) (body.length + 1) [] body := by
  cases escapes with
  | false =>
      unfold quoted
      split
      · next same => exact absurd (List.cons.inj same).1 (by decide)
      · next more same => exact absurd (List.cons.inj same).2 (untripled more)
      · rfl
  | true =>
      unfold quoted
      split
      · next more same => exact absurd (List.cons.inj same).2 (untripled more)
      · next same => exact absurd (List.cons.inj same).1 (by decide)
      · rfl

/-- A text on one line is read from between its quotes. -/
theorem quoted_line {escapes : Bool} (text : Written (.of escapes false) 0 letters written)
    {rest : List Char} (stops : rest.head? ≠ some (QuoteStyle.of escapes false).quote)
    : quoted ((QuoteStyle.of escapes false).quote
        :: (written ++ (QuoteStyle.of escapes false).quote :: rest))
      = some (String.ofList letters, rest) := by
  obtain ⟨unfed, unreturned⟩ := QuoteStyle.of_quote escapes false
  rw [quoted_one, quotedBody_line unfed unreturned rfl text _ [] rest
    (by simp only [List.length_append]; omega)]
  · rfl
  -- A second quote would close the text, and a third one does not follow it.
  intro more same
  cases text with
  | nothing => exact stops (by simpa using congrArg List.head? (List.cons.inj same).2)
  | letter reads others =>
      obtain ⟨first, others, rfl, unquoted, -⟩ := reads.plain
      exact unquoted (List.cons.inj same).1
  | quote lines => exact absurd lines (by simp [QuoteStyle.of])

/-- Three quotes open a text on several lines. -/
theorem quoted_three (escapes : Bool) (body : List Char)
    : quoted (List.replicate 3 (QuoteStyle.of escapes true).quote ++ body)
      = quotedLines (.of escapes true) body := by
  cases escapes <;> rfl

/-- A text on several lines is read from between its quotes, behind the line feed that stands
before it if it has line feeds itself.
-/
theorem quoted_lines {escapes : Bool} (text : Written (.of escapes true) 0 letters written)
    {rest : List Char} (stops : rest.head? ≠ some (QuoteStyle.of escapes true).quote)
    : quoted (List.replicate 3 (QuoteStyle.of escapes true).quote
        ++ ((if '\n' ∈ letters then ['\n'] else [])
          ++ (written ++ (List.replicate 3 (QuoteStyle.of escapes true).quote ++ rest))))
      = some (String.ofList letters, rest) := by
  obtain ⟨unfed, unreturned⟩ := QuoteStyle.of_quote escapes true
  have body (fuel : Nat) (enough : written.length < fuel) :=
    quotedBody_lines unfed unreturned rfl (Nat.zero_le 2) text fuel [] stops enough
  rw [quoted_three]
  by_cases feeds : '\n' ∈ letters
  · simp only [feeds, if_true, quotedLines, List.cons_append, List.nil_append, lineEnd]
    rw [body _ (by simp only [List.length_append]; omega)]
    rfl
  · have flat := lineEnd_written unfed unreturned text feeds
      (List.replicate 2 (QuoteStyle.of escapes true).quote ++ rest)
    have bare : lineEnd (written
        ++ (List.replicate 3 (QuoteStyle.of escapes true).quote ++ rest)) = none := flat
    simp only [feeds, if_false, quotedLines, List.nil_append, bare]
    rw [body _ (by simp only [List.length_append]; omega)]
    rfl

/-- Opening quotes, with a line feed behind them if the text has line feeds. -/
theorem toList_opening (letters : List Char) (quotes : String)
    : (if letters.contains '\n' then quotes ++ "\n" else quotes).toList
      = quotes.toList ++ if '\n' ∈ letters then ['\n'] else [] := by
  by_cases feeds : '\n' ∈ letters <;> simp [feeds]

/-- A text without controls other than tabs and line feeds stands between single quotes as it
is, if it has fewer quotes in a row than close it.
-/
theorem written_of_longestRun (lines : Bool) {letters : List Char}
    (plain : ¬letters.any fun c => (c < ' ' && c != '\t' && c != '\n') || c == '\x7f')
    (flat : lines = false → '\n' ∉ letters)
    (short : longestRun '\'' letters ≤ if lines then 2 else 0)
    : Written (.of false lines) 0 letters letters := by
  refine written_literal lines letters (0, 0) (fun c member => ?_)
    (longestRun_eq '\'' letters ▸ short)
  by_cases feed : c = '\n'
  · refine .inr ⟨feed, ?_⟩
    cases lines with
    | false => exact absurd (feed ▸ member) (flat rfl)
    | true => rfl
  · have ordinary := fun control => plain (List.any_eq_true.mpr ⟨c, member, control⟩)
    exact .inl (by simpa [isControl, feed] using ordinary)

/-- A text is read from the way in which it is written, whichever of its styles this is. -/
theorem quoted_renderText (text : String) (rest : List Char)
    : quoted ((renderText text).toList ++ '\n' :: rest) = some (text, '\n' :: rest) := by
  have stops (escapes lines : Bool)
      : ('\n' :: rest).head? ≠ some (QuoteStyle.of escapes lines).quote := by
    simpa using (QuoteStyle.of_quote escapes lines).1.symm
  have onLine := quoted_line (written_escapeText false text.toList 0 (by decide)) (stops _ _)
  have onLines := quoted_lines (written_escapeText true text.toList 0 (by decide)) (stops _ _)
  simp only [String.ofList_toList] at onLine onLines
  simp only [renderText]
  split
  · simpa [QuoteStyle.of] using onLine
  split
  · next literal =>
      obtain ⟨plain, short, flat⟩ := literal
      have between := quoted_line
        (written_of_longestRun false plain (by simpa using flat) (Nat.le_of_eq short))
        (stops _ _)
      simpa [QuoteStyle.of] using between
  split
  · rw [String.toList_append, String.toList_append, toList_opening]
    simpa [QuoteStyle.of] using onLines
  split
  · next literal =>
      obtain ⟨plain, short⟩ := literal
      have between := quoted_lines (written_of_longestRun true plain (by simp) short) (stops _ _)
      rw [String.toList_append, String.toList_append, toList_opening]
      simpa [QuoteStyle.of] using between
  split
  · next feeds => simpa [QuoteStyle.of, List.contains_iff_mem.mp feeds] using onLines
  · simpa [QuoteStyle.of] using onLine

end Toml

end Handheld
