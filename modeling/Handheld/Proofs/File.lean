import Handheld.File

/-! Texts in files. Main statement: a file that was written with a text is read as this text. -/

namespace Handheld

/-- A byte array is listed from the place that has been reached, by the turns of the listing. -/
theorem byteArray_toList_loop (bytes : ByteArray) (place : Nat) (found : List UInt8)
    : ByteArray.toList.loop bytes place found
      = found.reverse ++ bytes.data.toList.drop place := by
  fun_induction ByteArray.toList.loop bytes place found with
  | case1 place found inside ih =>
      have within : place < bytes.data.toList.length := by simpa using inside
      have byte : bytes.get! place = bytes.data.toList[place] :=
        (getElem!_pos bytes.data place within).trans (Array.getElem_toList _).symm
      rw [ih, List.drop_eq_getElem_cons within, List.reverse_cons, byte]
      simp
  | case2 place found outside =>
      rw [List.drop_eq_nil_of_le (by simpa using outside), List.append_nil]

theorem byteArray_toList (bytes : ByteArray) : bytes.toList = bytes.data.toList :=
  byteArray_toList_loop bytes 0 []

/-- Texts with the same bytes are the same. -/
theorem toUTF8_toList_inj {left right : String}
    : left.toUTF8.toList = right.toUTF8.toList ↔ left = right := by
  rw [byteArray_toList, byteArray_toList, Array.toList_inj, ← ByteArray.ext_iff]
  exact String.toByteArray_inj

theorem File.readText_ofText (text : String) : (ofText text).readText = .ok text := by
  have whole : text? text.toUTF8.toList = some text := by
    rw [text?, byteArray_toList, String.fromUTF8?]
    exact dif_pos text.isValidUTF8
  simp only [readText, ofText, whole]

end Handheld
