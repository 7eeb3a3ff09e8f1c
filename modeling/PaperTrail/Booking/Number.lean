import PaperTrail.Fault

/-!
# Document numbers

A document number is a run of ASCII letters, possibly none, and a run of ASCII digits, at least
one.  The letters end where the digits begin, so there is only one way to take it apart.
-/

namespace PaperTrail.Booking

def splitNumber (raw : String) : Except Fault (String × String) :=
  let letters := raw.toList.takeWhile Char.isAlpha
  let figures := raw.toList.dropWhile Char.isAlpha
  if figures ≠ [] ∧ figures.all Char.isDigit then
    .ok (String.ofList letters, String.ofList figures)
  else .error (.invalidDocumentNumber raw)

/-- A number that was cut in two loses no character. -/
theorem append_of_splitNumber {raw letters figures : String}
    (h : splitNumber raw = .ok (letters, figures)) : letters ++ figures = raw := by
  simp only [splitNumber] at h
  split at h
  · simp only [Except.ok.injEq, Prod.mk.injEq] at h
    obtain ⟨rfl, rfl⟩ := h
    rw [← String.ofList_append, List.takeWhile_append_dropWhile, String.ofList_toList]
  · simp at h

theorem ne_empty_of_splitNumber {raw : String} {parts : String × String}
    (h : splitNumber raw = .ok parts) : raw ≠ "" := by
  rintro rfl
  simp [splitNumber] at h

end PaperTrail.Booking
