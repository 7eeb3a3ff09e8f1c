/-!
# Slices of text

A slice is cut out of a text by the positions of its bytes.  It exists if both positions lie between
characters and the first is not behind the second.
-/

namespace PaperTrail.Text

/-- The text from byte `i` up to byte `j`.  There is none if one of them lies behind the end or
inside a character, or if they are out of order. -/
def slice? (s : String) (i j : Nat) : Option String :=
  if h : String.Pos.Raw.IsValid s ⟨i⟩ ∧ String.Pos.Raw.IsValid s ⟨j⟩ ∧ i ≤ j then
    some (String.extract (⟨⟨i⟩, h.1⟩ : s.Pos) ⟨⟨j⟩, h.2.1⟩)
  else none

theorem slice?_append (before part behind : String) :
    slice? (before ++ part ++ behind) before.utf8ByteSize (before ++ part).utf8ByteSize =
      some part := by
  have hi : String.Pos.Raw.IsValid (before ++ part ++ behind) ⟨before.utf8ByteSize⟩ :=
    String.Pos.Raw.isValid_iff_exists_append.mpr
      ⟨before, part ++ behind, String.append_assoc, rfl⟩
  have hj : String.Pos.Raw.IsValid (before ++ part ++ behind) ⟨(before ++ part).utf8ByteSize⟩ :=
    String.Pos.Raw.isValid_iff_exists_append.mpr ⟨before ++ part, behind, rfl, rfl⟩
  have hle : before.utf8ByteSize ≤ (before ++ part).utf8ByteSize := by
    rw [String.utf8ByteSize_append]
    exact Nat.le_add_right _ _
  have hbytes : (before ++ part ++ behind).toByteArray.extract before.utf8ByteSize
      (before ++ part).utf8ByteSize = part.toByteArray := by
    rw [String.toByteArray_append, ← String.size_toByteArray, ← String.size_toByteArray,
      ByteArray.extract_append_size_left, String.toByteArray_append, ByteArray.size_append,
      ByteArray.extract_append_eq_right rfl rfl]
  rw [slice?, dif_pos ⟨hi, hj, hle⟩, Option.some.injEq, ← String.toByteArray_inj,
    String.toByteArray_extract]
  exact hbytes

/-- A range of bytes is a text exactly when both of its ends fall between two characters. -/
theorem slice?_eq_some_iff {s part : String} {i j : Nat} :
    slice? s i j = some part ↔ ∃ before behind, s = before ++ part ++ behind ∧
      before.utf8ByteSize = i ∧ (before ++ part).utf8ByteSize = j := by
  constructor
  · intro h
    by_cases hvalid : String.Pos.Raw.IsValid s ⟨i⟩ ∧ String.Pos.Raw.IsValid s ⟨j⟩ ∧ i ≤ j
    · obtain ⟨hi, hj, hle⟩ := hvalid
      obtain ⟨front, behind, rfl, hfront⟩ := String.Pos.Raw.isValid_iff_exists_append.mp hj
      obtain rfl : j = front.utf8ByteSize := congrArg String.Pos.Raw.byteIdx hfront
      have hinner : String.Pos.Raw.IsValid front ⟨i⟩ := by
        rcases String.Pos.Raw.isValid_append.mp hi with hinner | ⟨hend, -⟩
        · exact hinner
        · have heq : i = front.utf8ByteSize := Nat.le_antisymm hle hend
          rw [heq]
          exact String.Pos.Raw.isValid_rawEndPos
      obtain ⟨before, inner, rfl, hbefore⟩ := String.Pos.Raw.isValid_iff_exists_append.mp hinner
      obtain rfl : i = before.utf8ByteSize := congrArg String.Pos.Raw.byteIdx hbefore
      rw [slice?_append] at h
      cases h
      exact ⟨before, behind, rfl, rfl, rfl⟩
    · rw [slice?, dif_neg hvalid] at h
      cases h
  · rintro ⟨before, behind, rfl, rfl, rfl⟩
    exact slice?_append before part behind

-- the second byte of "é" is the third of the text
example : slice? "1é" 0 2 = none ∧ slice? "1é" 1 3 = some "é" := by decide

end PaperTrail.Text
