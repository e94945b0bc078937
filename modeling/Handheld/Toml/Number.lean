import Handheld.Document
import Handheld.Text.Numeral
import Handheld.Toml.Value
import Handheld.Toml.Scan

/-! Integers and floating-point numbers. -/

namespace Handheld

namespace Toml

def isDecimal : Char → Bool := Numeral.isDigit 10

/-- An optional sign. -/
def sign (text : List Char) : Option Char × List Char :=
  match text with
  | '+' :: rest => (some '+', rest)
  | '-' :: rest => (some '-', rest)
  | _ => (none, text)

/-- The digits of a decimal integer: no leading zeros, underscores between digits. -/
def decimalDigits : Scan (List Char) := fun text =>
  match grouped (fun c => isDecimal c && c != '0') isDecimal text with
  | some read => some read
  | none =>
      match text with
      | '0' :: rest => some (['0'], rest)
      | _ => none

/-- Digits that may begin with zeros. -/
def digits : Scan (List Char) := grouped isDecimal isDecimal

/-- The integer in digits of a base, if a document can hold it. -/
def integerOf? (base : Nat) (negative : Bool) (digits : List Char) : Option Value :=
  let size : Int := Numeral.value base digits
  let number := if negative then -size else size
  if Document.leastInteger ≤ number ∧ number ≤ Document.greatestInteger then
    some (.integer number)
  else none

/-- An integer of another base than ten, behind its mark. -/
def basedInteger (base : Nat) : Scan Value := fun text => do
  let (digits, rest) ← grouped (Numeral.isDigit base) (Numeral.isDigit base) text
  return (← integerOf? base false digits, rest)

def integer : Scan Value
  | '0' :: 'x' :: rest => basedInteger 16 rest
  | '0' :: 'o' :: rest => basedInteger 8 rest
  | '0' :: 'b' :: rest => basedInteger 2 rest
  | text => do
      let (mark, rest) := sign text
      let (digits, rest) ← decimalDigits rest
      return (← integerOf? 10 (mark == some '-') digits, rest)

/-- The fraction behind an integer. -/
def fraction : Scan (List Char)
  | '.' :: rest => digits rest
  | _ => none

/-- The exponent behind an integer or a fraction, with its sign. -/
def exponent (text : List Char) : Option ((Bool × List Char) × List Char) :=
  match text with
  | [] => none
  | mark :: rest => do
      guard (mark == 'e' || mark == 'E')
      let (signMark, rest) := sign rest
      let (run, rest) ← digits rest
      return ((signMark == some '-', run), rest)

/-- Tells whether `mantissa · 10 ^ exponent` is too large for a 64-bit binary number: halfway
from the greatest one to 2 ^ 1024, or beyond.
-/
def overflows (mantissa : Nat) (exponent : Int) : Bool :=
  let size := (Nat.toDigits 10 mantissa).length + exponent
  if mantissa = 0 ∨ size < 300 then false
  else if 320 < size then true
  else
    let limit := Nat.pow 2 1024 - Nat.pow 2 970
    if 0 ≤ exponent then limit ≤ mantissa * Nat.pow 10 exponent.toNat
    else limit * Nat.pow 10 (-exponent).toNat ≤ mantissa

/-- A number with a fraction or an exponent or both, unless it is too large. -/
def plainFloat : Scan Value := fun text => do
  let (mark, rest) := sign text
  let (whole, rest) ← decimalDigits rest
  let part := fraction rest
  let (places, rest) := part.getD ([], rest)
  let power := exponent rest
  guard (part.isSome || power.isSome)
  let ((negative, powerDigits), rest) := power.getD ((false, []), rest)
  let size : Int := Numeral.value 10 powerDigits
  let shift := (if negative then -size else size) - places.length
  guard (mark == some '-' || !overflows (Numeral.value 10 (whole ++ places)) shift)
  let taken := text.take (text.length - rest.length)
  return (.float (String.ofList (taken.filter (· != '_'))), rest)

/-- Infinity or a value that is no number. -/
def specialFloat : Scan Value := fun text =>
  let (_, rest) := sign text
  match rest with
  | 'i' :: 'n' :: 'f' :: rest =>
      some (.float (String.ofList (text.take (text.length - rest.length))), rest)
  | 'n' :: 'a' :: 'n' :: rest =>
      some (.float (String.ofList (text.take (text.length - rest.length))), rest)
  | _ => none

end Toml

end Handheld
