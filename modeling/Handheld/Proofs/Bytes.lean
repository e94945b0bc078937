import Mathlib.Algebra.Group.Nat.Defs
import Handheld.Bytes

/-! Little-endian numbers and their bytes. Main statements: a number that fits its width is
read back, and a byte string is the only spelling of its number.
-/

namespace Handheld

namespace Bytes

/-- Writing keeps the part of a number that fits the width. -/
theorem toNat_ofNat (width value : Nat)
    : toNat (ofNat width value) = value % 256 ^ width := by
  induction width generalizing value with
  | zero => simp [ofNat, toNat, Nat.mod_one]
  | succ width ih =>
      rw [ofNat, toNat, ih, Nat.pow_succ', Nat.mod_mul]
      simp [UInt8.toNat_ofNat']

theorem toNat_ofNat_of_lt {width value : Nat} (fits : value < 256 ^ width)
    : toNat (ofNat width value) = value := by
  rw [toNat_ofNat, Nat.mod_eq_of_lt fits]

/-- Bytes are the one spelling of their number at their width. -/
theorem ofNat_toNat (bytes : Bytes) : ofNat bytes.length (toNat bytes) = bytes := by
  induction bytes with
  | nil => rfl
  | cons byte rest ih =>
      have small := byte.toNat_lt
      have tail : (byte.toNat + 256 * toNat rest) / 256 = toNat rest := by omega
      simp only [toNat, List.length_cons, ofNat, tail, ih, List.cons.injEq, and_true]
      apply UInt8.toNat_inj.mp
      rw [UInt8.toNat_ofNat']
      omega

theorem toNat_lt (bytes : Bytes) : toNat bytes < 256 ^ bytes.length := by
  induction bytes with
  | nil => simp [toNat]
  | cons byte rest ih =>
      have small := byte.toNat_lt
      simp only [toNat, List.length_cons, Nat.pow_succ']
      omega

end Bytes

end Handheld
