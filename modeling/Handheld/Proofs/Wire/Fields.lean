import Handheld.Proofs.Bytes
import Handheld.Wire.Body
import Handheld.Wire.Encoding

/-! Fields of a fixed width. The reader of a field takes back the value whose spelling stands
in front, and every byte string of the width spells a value, so reader and spelling are two
directions of one bijection. Touch reports and motion axes are put together from such fields.
-/

namespace Handheld

namespace Wire

namespace Reader

/-- A reader that succeeds hands its value and the unread bytes to the next one. -/
theorem bind_apply {α β : Type} (read : Reader α) (next : α → Reader β) (unread : Bytes)
    : (read >>= next) unread
      = match read unread with
        | .ok (value, rest) => next value rest
        | .error fault => .error fault := by
  cases result : read unread with
  | error fault => simp [bind, StateT.bind, Except.bind, result]
  | ok pair => simp [bind, StateT.bind, Except.bind, result]

theorem pure_apply {α : Type} (value : α) (unread : Bytes)
    : (pure value : Reader α) unread = .ok (value, unread) :=
  rfl

theorem map_apply {α β : Type} (change : α → β) (read : Reader α) (unread : Bytes)
    : (change <$> read) unread
      = match read unread with
        | .ok (value, rest) => .ok (change value, rest)
        | .error fault => .error fault := by
  cases result : read unread with
  | error fault => simp [Functor.map, StateT.map, bind, Except.bind, result]
  | ok pair => simp [Functor.map, StateT.map, bind, Except.bind, pure, Except.pure, result]

/-- A number comes back up to the part that fits its width. -/
theorem number_append (width value : Nat) (rest : Bytes)
    : number width (Bytes.ofNat width value ++ rest)
      = .ok (value % 256 ^ width, rest) := by
  have enough : ¬(Bytes.ofNat width value ++ rest).length < width := by simp
  have front : (Bytes.ofNat width value ++ rest).take width = Bytes.ofNat width value :=
    List.take_left' (Bytes.length_ofNat width value)
  have behind : (Bytes.ofNat width value ++ rest).drop width = rest :=
    List.drop_left' (Bytes.length_ofNat width value)
  simp only [number, if_neg enough, front, behind, Bytes.toNat_ofNat]

end Reader

/-- A field of `width` bytes: each value has one spelling, which the reader takes back, and
no byte string of the width is left without a value.
-/
structure Field {α : Type} (read : Reader α) (width : Nat) (spell : α → Bytes) : Prop where
  length_spell : ∀ value, (spell value).length = width
  read_spell : ∀ value rest, read (spell value ++ rest) = .ok (value, rest)
  exists_spell : ∀ bytes : Bytes, bytes.length = width → ∃ value, spell value = bytes

namespace Field

variable {α β : Type} {read : Reader α} {width : Nat} {spell : α → Bytes}

/-- Bytes that are enough for a field start with the spelling of a value. -/
theorem split (field : Field read width spell) (bytes : Bytes)
    (enough : width ≤ bytes.length)
    : ∃ value rest, bytes = spell value ++ rest ∧ bytes.length = width + rest.length := by
  obtain ⟨value, spelled⟩ :=
    field.exists_spell (bytes.take width) (List.length_take_of_le enough)
  refine ⟨value, bytes.drop width, ?_, ?_⟩
  · rw [spelled, List.take_append_drop]
  · rw [List.length_drop]
    omega

/-- A word that fits its width, held by the numbers below `256 ^ width`. -/
theorem ofNumber {ofNat : Nat → α} {toNat : α → Nat}
    (fits : ∀ value, toNat value < 256 ^ width)
    (ofNat_toNat : ∀ value, ofNat (toNat value) = value)
    (toNat_ofNat : ∀ number < 256 ^ width, toNat (ofNat number) = number)
    : Field (ofNat <$> Reader.number width) width
        (fun value => Bytes.ofNat width (toNat value)) where
  length_spell value := Bytes.length_ofNat width (toNat value)
  read_spell value rest := by
    simp only [Reader.map_apply, Reader.number_append, Nat.mod_eq_of_lt (fits value),
      ofNat_toNat]
  exists_spell bytes length := by
    refine ⟨ofNat bytes.toNat, ?_⟩
    have small := Bytes.toNat_lt bytes
    rw [length] at small
    rw [toNat_ofNat _ small, ← length, Bytes.ofNat_toNat]

/-- Another view of the values of a field is a field of the same bytes. -/
theorem map (field : Field read width spell) {view : α → β} {back : β → α}
    (view_back : ∀ value, view (back value) = value)
    (back_view : ∀ value, back (view value) = value)
    : Field (view <$> read) width (fun value => spell (back value)) where
  length_spell value := field.length_spell (back value)
  read_spell value rest := by simp only [Reader.map_apply, field.read_spell, view_back]
  exists_spell bytes length := by
    obtain ⟨value, spelled⟩ := field.exists_spell bytes length
    exact ⟨view value, by rw [back_view, spelled]⟩

end Field

theorem byte_field : Field Reader.byte 1 (fun byte => [byte]) := by
  have spelled : (fun byte : UInt8 => Bytes.ofNat 1 byte.toNat) = fun byte => [byte] := by
    funext byte
    simp [Bytes.ofNat]
  rw [← spelled]
  exact .ofNumber (fun byte => byte.toNat_lt) (fun _ => UInt8.ofNat_toNat)
    (fun _ small => UInt8.toNat_ofNat_of_lt' small)

theorem Reader.byte_cons (value : UInt8) (rest : Bytes)
    : byte (value :: rest) = .ok (value, rest) :=
  byte_field.read_spell value rest

theorem toNat_ofNat_word16 (word : UInt16)
    : Bytes.toNat (Bytes.ofNat 2 word.toNat) = word.toNat :=
  Bytes.toNat_ofNat_of_lt word.toNat_lt

theorem toNat_ofNat_word32 (word : UInt32)
    : Bytes.toNat (Bytes.ofNat 4 word.toNat) = word.toNat :=
  Bytes.toNat_ofNat_of_lt word.toNat_lt

theorem word16_field : Field Reader.word16 2 (fun word => Bytes.ofNat 2 word.toNat) :=
  .ofNumber (fun word => word.toNat_lt) (fun _ => UInt16.ofNat_toNat)
    (fun _ small => UInt16.toNat_ofNat_of_lt' small)

theorem word32_field : Field Reader.word32 4 (fun word => Bytes.ofNat 4 word.toNat) :=
  .ofNumber (fun word => word.toNat_lt) (fun _ => UInt32.ofNat_toNat)
    (fun _ small => UInt32.toNat_ofNat_of_lt' small)

theorem word64_field : Field Reader.word64 8 (fun word => Bytes.ofNat 8 word.toNat) :=
  .ofNumber (fun word => word.toNat_lt) (fun _ => UInt64.ofNat_toNat)
    (fun _ small => UInt64.toNat_ofNat_of_lt' small)

theorem signed16_field
    : Field Reader.signed16 2 (fun word => Bytes.ofNat 2 word.toUInt16.toNat) :=
  word16_field.map (fun _ => rfl) (fun _ => rfl)

theorem signed32_field
    : Field Reader.signed32 4 (fun word => Bytes.ofNat 4 word.toUInt32.toNat) :=
  word32_field.map (fun _ => rfl) (fun _ => rfl)

theorem touch_field : Field Reader.touch touchSize encodeTouch where
  length_spell report := by simp [encodeTouch, touchSize]
  read_spell report rest := by
    simp only [Reader.touch, encodeTouch, List.append_assoc, List.cons_append,
      List.nil_append, Reader.bind_apply, Reader.pure_apply, Reader.byte_cons,
      signed16_field.read_spell]
  exists_spell bytes length := by
    simp only [touchSize] at length
    obtain ⟨force, bytes, rfl, behindForce⟩ := byte_field.split bytes (by omega)
    obtain ⟨id, bytes, rfl, behindId⟩ := byte_field.split bytes (by omega)
    obtain ⟨x, bytes, rfl, behindX⟩ := signed16_field.split bytes (by omega)
    obtain ⟨y, spelled⟩ := signed16_field.exists_spell bytes (by omega)
    exact ⟨⟨force, id, x, y⟩, by simp [encodeTouch, spelled]⟩

theorem axes_field : Field Reader.axes 12 encodeAxes where
  length_spell axes := by simp [encodeAxes]
  read_spell axes rest := by
    simp only [Reader.axes, encodeAxes, List.append_assoc, Reader.bind_apply,
      Reader.pure_apply, word32_field.read_spell]
  exists_spell bytes length := by
    obtain ⟨x, bytes, rfl, behindX⟩ := word32_field.split bytes (by omega)
    obtain ⟨y, bytes, rfl, behindY⟩ := word32_field.split bytes (by omega)
    obtain ⟨z, spelled⟩ := word32_field.exists_spell bytes (by omega)
    exact ⟨⟨x, y, z⟩, by simp [encodeAxes, spelled]⟩

/-- Touch reports come back one by one, by induction on the list. -/
theorem Reader.touchList_flatMap (reports : List TouchReport) (rest : Bytes)
    : touchList reports.length (reports.flatMap encodeTouch ++ rest)
      = .ok (reports, rest) := by
  induction reports with
  | nil => rfl
  | cons report reports ih =>
      simp only [List.length_cons, List.flatMap_cons, List.append_assoc, touchList,
        bind_apply, pure_apply, touch_field.read_spell, ih]

theorem length_flatMap_encodeTouch (reports : List TouchReport)
    : (reports.flatMap encodeTouch).length = reports.length * touchSize := by
  induction reports with
  | nil => rfl
  | cons report reports ih =>
      simp only [List.flatMap_cons, List.length_append, touch_field.length_spell, ih,
        List.length_cons, Nat.succ_mul, Nat.add_comm]

/-- Bytes that are enough for some reports start with them, by induction on their number. -/
theorem splitTouches (count : Nat) (bytes : Bytes) (enough : count * touchSize ≤ bytes.length)
    : ∃ (reports : List TouchReport) (rest : Bytes),
        bytes = reports.flatMap encodeTouch ++ rest
        ∧ reports.length = count
        ∧ bytes.length = count * touchSize + rest.length := by
  induction count generalizing bytes with
  | zero => exact ⟨[], bytes, rfl, rfl, by simp⟩
  | succ count ih =>
      rw [Nat.succ_mul] at enough
      obtain ⟨report, bytes, rfl, behind⟩ := touch_field.split bytes (by omega)
      obtain ⟨reports, rest, rfl, counted, length⟩ := ih bytes (by omega)
      refine ⟨report :: reports, rest, ?_, ?_, ?_⟩
      · rw [List.flatMap_cons, List.append_assoc]
      · rw [List.length_cons, counted]
      · rw [Nat.succ_mul]
        omega

end Wire

end Handheld
