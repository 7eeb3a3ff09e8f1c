import PaperTrail.Date.Text
import PaperTrail.Proofs.Numeral

/-!
# Dates of eight digits

Main statement: the reader of eight digits accepts exactly what is written for a day whose year
has four digits.
-/

namespace PaperTrail.Date

open Numeral

/-- The year can be written with four digits and without a sign. -/
def HasShortYear (d : Date) : Prop := 0 ≤ d.year ∧ d.year ≤ 9999

theorem yearChars_of_hasShortYear {d : Date} (h : d.HasShortYear) :
    yearChars d.year = padded 4 d.year.toNat := by
  obtain ⟨year, hyear⟩ := Int.eq_ofNat_of_zero_le h.1
  have hle : year ≤ 9999 := by
    have := h.2
    omega
  rw [hyear]
  exact if_pos hle

theorem compactChars_of_hasShortYear {d : Date} (h : d.HasShortYear) :
    d.compactChars = padded 2 d.day ++ (padded 2 d.month ++ padded 4 d.year.toNat) := by
  rw [compactChars, yearChars_of_hasShortYear h]

theorem length_padded_day (d : Date) : (padded 2 d.day).length = 2 :=
  length_padded d.length_digits_day

theorem length_padded_month (d : Date) : (padded 2 d.month).length = 2 :=
  length_padded d.length_digits_month

theorem length_padded_year {d : Date} (h : d.HasShortYear) :
    (padded 4 d.year.toNat).length = 4 := by
  have := h.2
  exact length_padded (length_digits_year (by omega))

theorem length_compactChars {d : Date} (h : d.HasShortYear) : d.compactChars.length = 8 := by
  rw [compactChars_of_hasShortYear h, List.length_append, List.length_append,
    length_padded_day, length_padded_month, length_padded_year h]

theorem isDigit_of_mem_compactChars {d : Date} (h : d.HasShortYear) {c : Char}
    (hc : c ∈ d.compactChars) : c.isDigit = true := by
  rw [compactChars_of_hasShortYear h, List.mem_append, List.mem_append] at hc
  rcases hc with hday | hmonth | hyear
  · exact isDigit_of_mem_padded hday
  · exact isDigit_of_mem_padded hmonth
  · exact isDigit_of_mem_padded hyear

@[simp] theorem toList_compact (d : Date) : d.compact.toList = d.compactChars :=
  String.toList_ofList

/-- Eight digits are cut after the second and after the fourth. -/
theorem ofCompact_of_pieces {s : String} {day month year : List Char}
    (hs : s.toList = day ++ (month ++ year)) (hday : day.length = 2) (hmonth : month.length = 2)
    (hyear : year.length = 4) (hdigits : ∀ c ∈ s.toList, c.isDigit = true) :
    ofCompact s = ofNumbers s (number day) (number month) (number year) := by
  have hlength : s.toList.length = 8 := by
    rw [hs, List.length_append, List.length_append, hday, hmonth, hyear]
  have hdrop : s.toList.drop 4 = year := by
    rw [hs, ← List.append_assoc]
    exact List.drop_left' (by rw [List.length_append, hday, hmonth])
  have hmid : (s.toList.drop 2).take 2 = month := by
    rw [hs, List.drop_left' hday, List.take_left' hmonth]
  have htake : s.toList.take 2 = day := by rw [hs, List.take_left' hday]
  simp only [ofCompact]
  rw [if_pos ⟨hlength, List.all_eq_true.mpr hdigits⟩, hdrop, hmid, htake]

theorem exists_pieces {s : String} (h : s.toList.length = 8) :
    ∃ day month year : List Char, s.toList = day ++ (month ++ year) ∧
      day.length = 2 ∧ month.length = 2 ∧ year.length = 4 := by
  refine ⟨s.toList.take 2, (s.toList.drop 2).take 2, (s.toList.drop 2).drop 2, ?_, ?_, ?_, ?_⟩
  · rw [List.take_append_drop, List.take_append_drop]
  · rw [List.length_take, h]
    rfl
  · rw [List.length_take, List.length_drop, h]
    rfl
  · rw [List.length_drop, List.length_drop, h]

/-- A date of the common years is read back from its eight digits. -/
theorem ofCompact_compact {d : Date} (h : d.HasShortYear) : ofCompact d.compact = .ok d := by
  have hs : d.compact.toList =
      padded 2 d.day ++ (padded 2 d.month ++ padded 4 d.year.toNat) := by
    rw [toList_compact, compactChars_of_hasShortYear h]
  have hdigits : ∀ c ∈ d.compact.toList, c.isDigit = true := by
    intro c hc
    rw [toList_compact] at hc
    exact isDigit_of_mem_compactChars h hc
  rw [ofCompact_of_pieces hs (length_padded_day d) (length_padded_month d) (length_padded_year h)
    hdigits, ofNumbers_eq_ok_iff, of?_eq_some_iff]
  refine ⟨?_, ?_, ?_⟩
  · rw [number, ofDigitChars_padded]
    exact (Int.toNat_of_nonneg h.1).symm
  · exact (ofDigitChars_padded 2 d.month).symm
  · exact (ofDigitChars_padded 2 d.day).symm

theorem length_and_digits_of_ofCompact {s : String} {d : Date} (h : ofCompact s = .ok d) :
    s.toList.length = 8 ∧ ∀ c ∈ s.toList, c.isDigit = true := by
  simp only [ofCompact] at h
  split at h
  · next hform => exact ⟨hform.1, List.all_eq_true.mp hform.2⟩
  · cases h

theorem compact_of_ofCompact {s : String} {d : Date} (h : ofCompact s = .ok d) :
    d.HasShortYear ∧ d.compact = s := by
  obtain ⟨hlength, hdigits⟩ := length_and_digits_of_ofCompact h
  obtain ⟨day, month, year, hs, hday, hmonth, hyear⟩ := exists_pieces hlength
  rw [ofCompact_of_pieces hs hday hmonth hyear hdigits, ofNumbers_eq_ok_iff,
    of?_eq_some_iff] at h
  obtain ⟨hy, hm, hd⟩ := h
  rw [hs] at hdigits
  have hdayDigits : ∀ c ∈ day, c.isDigit = true := fun c hc ↦ hdigits c (by simp [hc])
  have hmonthDigits : ∀ c ∈ month, c.isDigit = true := fun c hc ↦ hdigits c (by simp [hc])
  have hyearDigits : ∀ c ∈ year, c.isDigit = true := fun c hc ↦ hdigits c (by simp [hc])
  have hlt : number year < 10 ^ 4 := hyear ▸ ofDigitChars_lt hyearDigits
  have hshort : d.HasShortYear := ⟨by omega, by omega⟩
  have htoNat : d.year.toNat = number year := by omega
  refine ⟨hshort, String.toList_injective ?_⟩
  rw [toList_compact, compactChars_of_hasShortYear hshort, htoNat, hm, hd, hs]
  simp only [number]
  rw [padded_ofDigitChars (by decide) hday hdayDigits,
    padded_ofDigitChars (by decide) hmonth hmonthDigits,
    padded_ofDigitChars (by decide) hyear hyearDigits]

/-- Eight digits are read as a date exactly when they are the text of it. -/
theorem ofCompact_eq_ok_iff {s : String} {d : Date} :
    ofCompact s = .ok d ↔ d.HasShortYear ∧ d.compact = s := by
  constructor
  · exact compact_of_ofCompact
  · rintro ⟨hshort, rfl⟩
    exact ofCompact_compact hshort

end PaperTrail.Date
