import Handheld.Text.Numeral

/-! Decimal texts as 32-bit binary floating-point numbers, rounded to the nearest one. -/

namespace Handheld

namespace Single

/-- A number that is written in decimal: `digits` times ten to the power of `exponent`. -/
structure Decimal where
  digits : Nat
  exponent : Int
  deriving DecidableEq, Inhabited

/-- A sign at the front, and whether it is a minus. -/
def sign : List Char → Bool × List Char
  | '-' :: rest => (true, rest)
  | '+' :: rest => (false, rest)
  | text => (false, text)

/-- What follows the digits of a number: nothing, or an `e` and a whole number. -/
def exponent? : List Char → Option Int
  | [] => some 0
  | c :: rest =>
      let (negative, digits) := sign rest
      if (c == 'e' || c == 'E') && !digits.isEmpty && digits.all (Numeral.isDigit 10) then
        let size : Int := Numeral.value 10 digits
        some (if negative then -size else size)
      else none

/-- A number with digits before or behind its point, or on both sides. -/
def Decimal.ofText? (text : List Char) : Option Decimal := do
  let (whole, rest) := Numeral.run 10 text
  let (parts, rest) :=
    match rest with
    | '.' :: rest => Numeral.run 10 rest
    | _ => ([], rest)
  if whole.isEmpty && parts.isEmpty then none
  let exponent ← exponent? rest
  return ⟨Numeral.value 10 (whole ++ parts), exponent - parts.length⟩

def infinity : Float32 := Float32.ofBits 0x7f800000

def notANumber : Float32 := Float32.ofBits 0x7fc00000

/-- The nearest number; beyond forty places before the point all is infinite, and behind
sixty zeros after it all is zero.
-/
def Decimal.nearest (decimal : Decimal) : Float32 :=
  if decimal.digits = 0 then 0
  else
    let places := (Nat.toDigits 10 decimal.digits).length + decimal.exponent
    if 40 < places then infinity
    else if places < -60 then 0
    else .ofScientific decimal.digits (decimal.exponent < 0) decimal.exponent.natAbs

/-- The number that a text writes: a decimal, `inf`, `infinity` or `nan`, the words in any
case, each with an optional sign.
-/
def ofText? (text : List Char) : Option Float32 :=
  let (negative, body) := sign text
  let size? :=
    match Decimal.ofText? body with
    | some decimal => some decimal.nearest
    | none =>
        let word := String.ofList (body.map Char.toLower)
        if word = "inf" ∨ word = "infinity" then some infinity
        else if word = "nan" then some notANumber
        else none
  size?.map fun size => if negative then -size else size

end Single

end Handheld
