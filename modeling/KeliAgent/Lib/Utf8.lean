import Mathlib

/-!
# The bytes of a string

A `String` is its UTF-8 bytes; `s.toUTF8.toList` is their list.

* **`fromUTF8?_eq_some_iff`**: a byte list is decoded to the string whose bytes it is.
* `utf8EncodeChar_of_lt`, `le_of_mem_utf8EncodeChar`: an ASCII character is one byte below 128, any
  other character is bytes from 128 on.
-/

namespace Text

theorem toList_loop_eq (bs : ByteArray) (i : ℕ) (r : List UInt8) :
    ByteArray.toList.loop bs i r = r.reverse ++ bs.data.toList.drop i := by
  fun_induction ByteArray.toList.loop bs i r with
  | case1 i r hlt ih =>
    have hlt' : i < bs.data.toList.length := by rwa [Array.length_toList, ByteArray.size_data]
    have hget : bs.get! i = bs.data.toList[i] := by
      rw [ByteArray.get!, Array.getElem_toList, getElem!_pos bs.data i (by simpa using hlt)]
    rw [ih, List.drop_eq_getElem_cons hlt', hget, List.reverse_cons, List.append_assoc,
      List.singleton_append]
  | case2 i r hge =>
    have hlen : bs.data.toList.length ≤ i := by
      rw [Array.length_toList, ByteArray.size_data]
      omega
    rw [List.drop_of_length_le hlen, List.append_nil]

/-- The bytes of a byte array, in order. -/
theorem toList_eq_data (bs : ByteArray) : bs.toList = bs.data.toList := by
  rw [ByteArray.toList, toList_loop_eq, List.reverse_nil, List.nil_append,
    List.drop_zero]

theorem length_toUTF8 (s : String) : s.toUTF8.toList.length = s.utf8ByteSize := by
  rw [toList_eq_data, Array.length_toList, ByteArray.size_data]
  rfl

/-- **A byte list is decoded to the string whose bytes it is**, and to no other. -/
theorem fromUTF8?_eq_some_iff {bs : List UInt8} {s : String} :
    String.fromUTF8? ⟨bs.toArray⟩ = some s ↔ s.toUTF8.toList = bs := by
  rw [toList_eq_data]
  constructor
  · intro h
    unfold String.fromUTF8? at h
    split_ifs at h
    cases h
    rfl
  · rintro rfl
    have hvalid : (⟨s.toUTF8.data.toList.toArray⟩ : ByteArray).IsValidUTF8 := s.isValidUTF8
    rw [String.fromUTF8?, dif_pos hvalid]
    rfl

/-- The bytes of a string are those of its characters. -/
theorem toUTF8_ofList (cs : List Char) :
    (String.ofList cs).toUTF8.toList = cs.flatMap String.utf8EncodeChar := by
  rw [toList_eq_data, String.toUTF8, String.toByteArray_ofList, List.utf8Encode]
  simp

theorem toUTF8_eq_flatMap (s : String) :
    s.toUTF8.toList = s.toList.flatMap String.utf8EncodeChar := by
  rw [← toUTF8_ofList, String.ofList_toList]

theorem utf8EncodeChar_of_lt {c : Char} (h : c.toNat < 128) :
    String.utf8EncodeChar c = [UInt8.ofNat c.toNat] := by
  have hle : c.val.toNat ≤ 127 := Nat.le_of_lt_succ h
  rw [String.utf8EncodeChar]
  simp only [hle, if_true]
  rfl

theorem le_of_mem_utf8EncodeChar {c : Char} (h : 128 ≤ c.toNat) {byte : UInt8}
    (hbyte : byte ∈ String.utf8EncodeChar c) : 128 ≤ byte.toNat := by
  have hgt : ¬ c.val.toNat ≤ 127 := Nat.not_le_of_lt h
  rw [String.utf8EncodeChar] at hbyte
  simp only [hgt, if_false] at hbyte
  split_ifs at hbyte <;> simp only [List.mem_cons, List.not_mem_nil, or_false] at hbyte
  · rcases hbyte with rfl | rfl <;> rw [UInt8.toNat_ofNat'] <;> omega
  · rcases hbyte with rfl | rfl | rfl <;> rw [UInt8.toNat_ofNat'] <;> omega
  · rcases hbyte with rfl | rfl | rfl | rfl <;> rw [UInt8.toNat_ofNat'] <;> omega

/-- The characters before and after a position in bytes; `none` inside a character. -/
def splitAtByte : List Char → ℕ → Option (List Char × List Char)
  | cs, 0 => some ([], cs)
  | [], _ + 1 => none
  | c :: cs, n + 1 =>
    let size := (String.utf8EncodeChar c).length
    if size ≤ n + 1 then
      (splitAtByte cs (n + 1 - size)).map fun (before, after) => (c :: before, after)
    else none

/-- **A position between two characters.** -/
theorem splitAtByte_append (before after : List Char) :
    splitAtByte (before ++ after) (before.flatMap String.utf8EncodeChar).length =
      some (before, after) := by
  induction before with
  | nil => cases after <;> rfl
  | cons c before ih =>
    have hsize := String.length_utf8EncodeChar c
    have hpos := c.utf8Size_pos
    rw [List.flatMap_cons, List.length_append]
    obtain ⟨n, hn⟩ : ∃ n, (String.utf8EncodeChar c).length +
        (before.flatMap String.utf8EncodeChar).length = n + 1 :=
      Nat.exists_eq_succ_of_ne_zero (by omega)
    rw [hn, List.cons_append, splitAtByte]
    simp only
    rw [if_pos (by omega), ← hn, Nat.add_sub_cancel_left, ih, Option.map_some]

end Text
