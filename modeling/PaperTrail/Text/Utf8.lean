/-!
# Bytes of text

Text travels as UTF-8.  Decoding either gives the text back or says how many bytes at the start
are still sound, counted in whole characters.
-/

namespace PaperTrail.Text

def encode (s : String) : List UInt8 := s.toByteArray.data.toList

/-- The position up to which the bytes from position `i` on are whole characters. -/
def soundUpTo (bytes : ByteArray) (i : Nat) : Nat :=
  match _h : bytes.utf8DecodeChar? i with
  | none => i
  | some c => soundUpTo bytes (i + c.utf8Size)
termination_by bytes.size - i
decreasing_by
  have hsize := ByteArray.le_size_of_utf8DecodeChar?_eq_some ‹_›
  have hpos := c.utf8Size_pos
  omega

/-- Fails with the number of sound bytes at the start. -/
def decode (bytes : List UInt8) : Except Nat String :=
  match String.fromUTF8? bytes.toByteArray with
  | some s => .ok s
  | none => .error (soundUpTo bytes.toByteArray 0)

theorem toByteArray_encode (s : String) : (encode s).toByteArray = s.toByteArray := by
  apply ByteArray.ext
  simp [encode]

theorem encode_append (s t : String) : encode (s ++ t) = encode s ++ encode t := by
  simp [encode, String.toByteArray_append]

theorem encode_ofList (cs : List Char) :
    encode (String.ofList cs) = cs.flatMap String.utf8EncodeChar := by
  rw [encode, String.toByteArray_ofList, List.utf8Encode]
  simp

theorem encode_eq_flatMap (s : String) : encode s = s.toList.flatMap String.utf8EncodeChar := by
  rw [← encode_ofList, String.ofList_toList]

/-- Every character takes a byte or more. -/
theorem length_le_utf8ByteSize (s : String) : s.length ≤ s.utf8ByteSize := by
  have hsize : s.utf8ByteSize = (encode s).length := rfl
  rw [hsize, encode_eq_flatMap, ← String.length_toList]
  induction s.toList with
  | nil => exact Nat.le_refl 0
  | cons c cs ih =>
      have hpos := c.utf8Size_pos
      rw [List.flatMap_cons, List.length_append, String.length_utf8EncodeChar, List.length_cons]
      omega

theorem utf8EncodeChar_of_lt {c : Char} (h : c.toNat < 128) :
    String.utf8EncodeChar c = [UInt8.ofNat c.toNat] := by
  have hc : c.val.toNat ≤ 127 := Nat.le_of_lt_succ h
  rw [String.utf8EncodeChar, if_pos hc]
  rfl

/-- No byte of a character beyond ASCII is an ASCII byte. -/
theorem le_of_mem_utf8EncodeChar {c : Char} (h : 128 ≤ c.toNat) {b : UInt8}
    (hb : b ∈ String.utf8EncodeChar c) : 128 ≤ b.toNat := by
  have hc : ¬ c.val.toNat ≤ 127 := Nat.not_le.mpr h
  simp only [String.utf8EncodeChar, if_neg hc] at hb
  split at hb
  · simp only [List.mem_cons, List.not_mem_nil, or_false] at hb
    rcases hb with rfl | rfl <;> rw [UInt8.toNat_ofNat'] <;> omega
  · split at hb
    · simp only [List.mem_cons, List.not_mem_nil, or_false] at hb
      rcases hb with rfl | rfl | rfl <;> rw [UInt8.toNat_ofNat'] <;> omega
    · simp only [List.mem_cons, List.not_mem_nil, or_false] at hb
      rcases hb with rfl | rfl | rfl | rfl <;> rw [UInt8.toNat_ofNat'] <;> omega

/-- The byte of an ASCII character occurs in the bytes of no other character. -/
theorem notMem_utf8EncodeChar {a c : Char} (ha : a.toNat < 128) (hne : c ≠ a) :
    UInt8.ofNat a.toNat ∉ String.utf8EncodeChar c := by
  intro hmem
  have hbyte : (UInt8.ofNat a.toNat).toNat = a.toNat := by
    rw [UInt8.toNat_ofNat']
    omega
  by_cases hc : c.toNat < 128
  · rw [utf8EncodeChar_of_lt hc, List.mem_singleton] at hmem
    have heq := congrArg UInt8.toNat hmem
    rw [hbyte, UInt8.toNat_ofNat', Nat.mod_eq_of_lt (by omega)] at heq
    exact hne (Char.toNat_inj.mp heq.symm)
  · have hle := le_of_mem_utf8EncodeChar (Nat.not_lt.mp hc) hmem
    rw [hbyte] at hle
    omega

/-- Every text is read back from its own bytes. -/
theorem decode_encode (s : String) : decode (encode s) = .ok s := by
  have hvalid : (encode s).toByteArray.IsValidUTF8 := by
    rw [toByteArray_encode]
    exact s.isValidUTF8
  have hfrom : String.fromUTF8? (encode s).toByteArray = some s := by
    simp only [String.fromUTF8?, hvalid, dif_pos, Option.some.injEq]
    rw [← String.toByteArray_inj]
    exact toByteArray_encode s
  simp [decode, hfrom]

end PaperTrail.Text
