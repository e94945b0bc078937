/-! Digits at the front of a text, in any base up to sixteen. -/

namespace Handheld

namespace Numeral

/-- The value of an ASCII digit or letter as a digit of `base`. -/
def digit? (base : Nat) (c : Char) : Option Nat :=
  let value? :=
    if '0' ≤ c ∧ c ≤ '9' then some (c.toNat - '0'.toNat)
    else if 'a' ≤ c ∧ c ≤ 'f' then some (c.toNat - 'a'.toNat + 10)
    else if 'A' ≤ c ∧ c ≤ 'F' then some (c.toNat - 'A'.toNat + 10)
    else none
  value?.filter (· < base)

def isDigit (base : Nat) (c : Char) : Bool := (digit? base c).isSome

/-- The number that a run of digits writes, most significant first. -/
def value (base : Nat) (digits : List Char) : Nat :=
  digits.foldl (fun total c => base * total + (digit? base c).getD 0) 0

/-- The longest run of digits at the front, and what follows it. -/
def run (base : Nat) (text : List Char) : List Char × List Char :=
  text.span (isDigit base)

/-- A whole number without sign or blanks that is at most `most`; leading zeros are allowed. -/
def natural? (most : Nat) (text : List Char) : Option Nat :=
  if text.isEmpty ∨ ¬text.all (isDigit 10) then none
  else (some (value 10 text)).filter (· ≤ most)

/-- A whole number between two bounds, with an optional sign. -/
def integer? (least most : Int) (text : List Char) : Option Int :=
  let signed? :=
    match text with
    | '-' :: digits => (natural? (least.natAbs) digits).map fun n => -(n : Int)
    | '+' :: digits => (natural? (most.natAbs) digits).map Int.ofNat
    | digits => (natural? (most.natAbs) digits).map Int.ofNat
  signed?.filter fun n => least ≤ n ∧ n ≤ most

end Numeral

end Handheld
