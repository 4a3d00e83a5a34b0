import Mathlib.Data.List.Basic

/- UTF-8 and padding with zero bytes. A zero byte is never part of a longer
   character (`bytes_of_encode_concat_zero`), so appending zeros neither makes a
   byte string UTF-8 nor breaks it (`isUtf8_padded`), and the string behind the
   padded bytes is the string behind the bytes with NULs appended
   (`fromUTF8?_padded`). -/
namespace Utf8Padding

/-- `k` NUL characters. -/
def nuls (k : ℕ) : String := String.ofList (List.replicate k '\x00')

/-- The bytes are the encoding of some characters. -/
def IsUtf8 (bs : List UInt8) : Prop := ∃ cs : List Char, bs = cs.flatMap String.utf8EncodeChar

theorem isUtf8_iff {bs : List UInt8} : (⟨bs.toArray⟩ : ByteArray).IsValidUTF8 ↔ IsUtf8 bs := by
  constructor
  · rintro ⟨cs, hcs⟩
    refine ⟨cs, ?_⟩
    have h := congrArg (fun b : ByteArray => b.data.toList) hcs
    simpa [List.utf8Encode] using h
  · rintro ⟨cs, rfl⟩
    refine ⟨cs, ?_⟩
    apply ByteArray.ext
    simp [List.utf8Encode]

/-- Only the NUL character has an encoding that ends in a zero byte. -/
theorem bytes_of_encode_concat_zero {bs : List UInt8} {c : Char}
    (h : String.utf8EncodeChar c = bs ++ [0]) : bs = [] := by
  have hlen : bs.length < (String.utf8EncodeChar c).length := by simp [h]
  have hget : (String.utf8EncodeChar c)[bs.length] = 0 := by simp [h]
  -- a zero byte can only start a character
  have hfirst : ((String.utf8EncodeChar c)[bs.length]).IsUTF8FirstByte := by
    rw [hget]
    decide
  exact List.length_eq_zero_iff.mp (UInt8.isUTF8FirstByte_getElem_utf8EncodeChar.mp hfirst)

theorem encode_nul : String.utf8EncodeChar '\x00' = [0] := by decide

/-- A zero byte at the end belongs to a NUL of its own. -/
theorem isUtf8_concat_zero {bs : List UInt8} : IsUtf8 (bs ++ [0]) ↔ IsUtf8 bs := by
  constructor
  · rintro ⟨cs, hcs⟩
    rcases List.eq_nil_or_concat' cs with rfl | ⟨init, c, rfl⟩
    · simp at hcs
    · rw [List.flatMap_append, List.flatMap_singleton] at hcs
      rcases List.eq_nil_or_concat' (String.utf8EncodeChar c) with hnil | ⟨front, b, hc⟩
      · exact absurd hnil String.utf8EncodeChar_ne_nil
      · rw [hc, ← List.append_assoc] at hcs
        obtain ⟨hfront, hb⟩ := List.append_inj' hcs rfl
        obtain rfl : 0 = b := List.head_eq_of_cons_eq hb
        rw [bytes_of_encode_concat_zero hc, List.append_nil] at hfront
        exact ⟨init, hfront⟩
  · rintro ⟨cs, rfl⟩
    refine ⟨cs ++ ['\x00'], ?_⟩
    rw [List.flatMap_append, List.flatMap_singleton, encode_nul]

theorem isUtf8_padded {bs : List UInt8} (k : ℕ) : IsUtf8 (bs ++ List.replicate k 0) ↔ IsUtf8 bs := by
  induction k with
  | zero => simp
  | succ k ih =>
    rw [List.replicate_succ', ← List.append_assoc, isUtf8_concat_zero]
    exact ih

theorem toByteArray_nuls (k : ℕ) : (nuls k).toByteArray = ⟨(List.replicate k (0 : UInt8)).toArray⟩ := by
  apply ByteArray.ext
  simp [nuls, List.utf8Encode, List.flatMap_replicate, encode_nul]

/-- The string behind bytes that are padded with zeros. -/
theorem fromUTF8?_padded (bs : List UInt8) (k : ℕ) :
    String.fromUTF8? ⟨(bs ++ List.replicate k 0).toArray⟩ =
      (String.fromUTF8? ⟨bs.toArray⟩).map (· ++ nuls k) := by
  unfold String.fromUTF8?
  by_cases h : IsUtf8 bs
  · have hp := (isUtf8_padded k).mpr h
    rw [dif_pos (isUtf8_iff.mpr h), dif_pos (isUtf8_iff.mpr hp), Option.map_some]
    congr 1
    rw [← String.toByteArray_inj, String.toByteArray_append, toByteArray_nuls]
    apply ByteArray.ext
    simp [String.fromUTF8]
  · have hp := mt (isUtf8_padded k).mp h
    rw [dif_neg (mt isUtf8_iff.mp h), dif_neg (mt isUtf8_iff.mp hp), Option.map_none]

end Utf8Padding
