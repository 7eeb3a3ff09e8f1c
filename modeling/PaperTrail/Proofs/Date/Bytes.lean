import PaperTrail.Proofs.Date.Compact
import PaperTrail.Text.Slice
import PaperTrail.Text.Utf8

/-!
# Dates of eight digits, byte by byte

A date can be read through the bytes of its text as well, and no text then has a character cut.
Main statement: reading eight digits undoes writing them, and tells a month outside the calendar
from every other fault.
-/

namespace PaperTrail

/-! ### The bytes of digits -/

namespace Text

def isDigitByte (b : UInt8) : Bool := 48 ≤ b && b ≤ 57

theorem isDigitByte_eq_true_iff {b : UInt8} :
    isDigitByte b = true ↔ 48 ≤ b.toNat ∧ b.toNat ≤ 57 := by
  simp [isDigitByte, UInt8.le_iff_toNat_le]

theorem all_isDigitByte_utf8EncodeChar (c : Char) :
    (String.utf8EncodeChar c).all isDigitByte = c.isDigit := by
  rw [Bool.eq_iff_iff, Numeral.isDigit_iff_toNat]
  by_cases hc : c.toNat < 128
  · have hbyte : (UInt8.ofNat c.toNat).toNat = c.toNat := by
      rw [UInt8.toNat_ofNat']
      omega
    rw [utf8EncodeChar_of_lt hc, List.all_cons, List.all_nil, Bool.and_true,
      isDigitByte_eq_true_iff, hbyte]
  · -- the bytes of other characters all lie above those of the digits
    have hlength : 0 < (String.utf8EncodeChar c).length := by
      rw [String.length_utf8EncodeChar]
      exact c.utf8Size_pos
    obtain ⟨b, hb⟩ := List.exists_mem_of_length_pos hlength
    have hhigh := le_of_mem_utf8EncodeChar (Nat.not_lt.mp hc) hb
    constructor
    · intro hall
      have := isDigitByte_eq_true_iff.mp (List.all_eq_true.mp hall b hb)
      omega
    · intro hdigit
      omega

/-- The test on bytes and the test on characters agree on every text. -/
theorem all_isDigitByte_encode (s : String) :
    (encode s).all isDigitByte = s.toList.all Char.isDigit := by
  rw [encode_eq_flatMap, List.all_flatMap]
  simp only [all_isDigitByte_utf8EncodeChar]

theorem utf8ByteSize_ofList_of_isDigit {cs : List Char} (h : ∀ c ∈ cs, c.isDigit = true) :
    (String.ofList cs).utf8ByteSize = cs.length := by
  have hsize : (String.ofList cs).utf8ByteSize = (encode (String.ofList cs)).length := rfl
  rw [hsize, encode_ofList]
  clear hsize
  induction cs with
  | nil => rfl
  | cons c cs ih =>
      have hc := Numeral.isDigit_iff_toNat.mp (h c List.mem_cons_self)
      rw [List.flatMap_cons, utf8EncodeChar_of_lt (by omega), List.length_append,
        ih fun d hd ↦ h d (List.mem_cons_of_mem c hd), List.length_singleton, List.length_cons,
        Nat.add_comm]

end Text

/-! ### Reading by bytes -/

namespace Date

open Numeral Text

/-- Reads a date through the bytes of its text.  There is no answer if a slice would cut a character
or reach behind the end. -/
def ofBytes? (s : String) : Option (Except Fault Date) :=
  if s.utf8ByteSize = 8 ∧ (encode s).all isDigitByte then do
    let day ← slice? s 0 2
    let month ← slice? s 2 4
    let year ← slice? s 4 8
    match part? day.toList, part? month.toList, part? year.toList with
    | some d, some m, some y => some (ofNumbers s d m y)
    | _, _, _ => some (.error (.invalidDate s))
  else some (.error (.invalidDate s))

theorem part?_of_isDigit {cs : List Char} (hpos : 0 < cs.length) (hlength : cs.length ≤ 9)
    (hdigits : ∀ c ∈ cs, c.isDigit = true) : part? cs = some (number cs) := by
  have htrim : trim cs = cs := trim_of_forall fun c hc ↦ not_isBlank_of_isDigit (hdigits c hc)
  have hfits : number cs < 2 ^ 32 :=
    Nat.lt_of_lt_of_le (ofDigitChars_lt hdigits)
      (Nat.le_trans (Nat.pow_le_pow_right (by decide) hlength) (by decide))
  rw [part?, htrim, unsigned?_eq_some_iff]
  exact ⟨cs, Or.inl rfl, List.length_pos_iff.mp hpos, hdigits, rfl, hfits⟩

def EightDigits (s : String) : Prop := s.toList.length = 8 ∧ ∀ c ∈ s.toList, c.isDigit = true

theorem eightDigits_iff_bytes {s : String} :
    (s.utf8ByteSize = 8 ∧ (encode s).all isDigitByte = true) ↔ EightDigits s := by
  rw [all_isDigitByte_encode, List.all_eq_true, EightDigits]
  apply and_congr_left
  intro hdigits
  have hsize := utf8ByteSize_ofList_of_isDigit hdigits
  rw [String.ofList_toList] at hsize
  rw [hsize]

theorem ofCompact_of_not_eightDigits {s : String} (h : ¬ EightDigits s) :
    ofCompact s = .error (.invalidDate s) := by
  rw [EightDigits, ← List.all_eq_true] at h
  exact if_neg h

/-- A part of eight digits is cut out whole, and it is a number. -/
theorem slice?_of_eightDigits {s : String} (h : EightDigits s) {before part behind : List Char}
    (hs : s.toList = before ++ part ++ behind) (hpos : 0 < part.length) :
    slice? s before.length (before.length + part.length) = some (String.ofList part) ∧
      part? part = some (number part) := by
  have hlength := h.1
  have hdigits := h.2
  rw [hs] at hlength hdigits
  simp only [List.length_append] at hlength
  have hsize : ∀ {cs : List Char}, (∀ c ∈ cs, c ∈ before ++ part ++ behind) →
      (String.ofList cs).utf8ByteSize = cs.length := fun hcs ↦
    utf8ByteSize_ofList_of_isDigit fun c hc ↦ hdigits c (hcs c hc)
  constructor
  · refine slice?_eq_some_iff.mpr ⟨String.ofList before, String.ofList behind, ?_, ?_, ?_⟩
    · rw [← String.ofList_append, ← String.ofList_append, ← hs, String.ofList_toList]
    · exact hsize fun c hc ↦ by simp [hc]
    · rw [← String.ofList_append, ← List.length_append]
      exact hsize fun c hc ↦ List.mem_append_left behind hc
  · exact part?_of_isDigit hpos (by omega) fun c hc ↦ hdigits c (by simp [hc])

/-- The bytes are cut where the characters are, for of eight digits they are the same. -/
theorem ofBytes?_eq (s : String) : ofBytes? s = some (ofCompact s) := by
  by_cases h : EightDigits s
  · obtain ⟨day, month, year, hs, hday, hmonth, hyear⟩ := exists_pieces h.1
    obtain ⟨hdaySlice, hdayPart⟩ :
        slice? s 0 2 = some (String.ofList day) ∧ part? day = some (number day) := by
      have hcut : s.toList = [] ++ day ++ (month ++ year) := hs
      simpa [hday] using slice?_of_eightDigits h hcut (by omega)
    obtain ⟨hmonthSlice, hmonthPart⟩ :
        slice? s 2 4 = some (String.ofList month) ∧ part? month = some (number month) := by
      have hcut : s.toList = day ++ month ++ year := by rw [hs, List.append_assoc]
      simpa [hday, hmonth] using slice?_of_eightDigits h hcut (by omega)
    obtain ⟨hyearSlice, hyearPart⟩ :
        slice? s 4 8 = some (String.ofList year) ∧ part? year = some (number year) := by
      have hcut : s.toList = (day ++ month) ++ year ++ [] := by simp [hs]
      simpa [hday, hmonth, hyear] using slice?_of_eightDigits h hcut (by omega)
    rw [ofBytes?, if_pos (eightDigits_iff_bytes.mpr h), hdaySlice, hmonthSlice, hyearSlice,
      ofCompact_of_pieces hs hday hmonth hyear h.2]
    simp only [Option.bind_eq_bind, Option.bind_some, String.toList_ofList, hdayPart, hmonthPart,
      hyearPart]
  · rw [ofBytes?, if_neg (mt eightDigits_iff_bytes.mp h), ofCompact_of_not_eightDigits h]

/-! ### What is held against a text -/

/-- The text has eight digits, and the third and the fourth are those of the month. -/
def WritesMonth (s : String) (month : Nat) : Prop :=
  EightDigits s ∧ ∃ tens ones, s.toList[2]? = some tens ∧ s.toList[3]? = some ones ∧
    month = 10 * (tens.toNat - '0'.toNat) + (ones.toNat - '0'.toNat)

theorem WritesMonth.unique {s : String} {month other : Nat} (h : WritesMonth s month)
    (hother : WritesMonth s other) : month = other := by
  obtain ⟨-, tens, ones, htens, hones, rfl⟩ := h
  obtain ⟨-, tens', ones', htens', hones', rfl⟩ := hother
  cases htens.symm.trans htens'
  cases hones.symm.trans hones'
  rfl

theorem exists_numbers {s : String} (h : EightDigits s) :
    ∃ day month year, WritesMonth s month ∧ ofCompact s = ofNumbers s day month year := by
  obtain ⟨day, month, year, hs, hday, hmonth, hyear⟩ := exists_pieces h.1
  refine ⟨number day, number month, number year, ⟨h, ?_⟩,
    ofCompact_of_pieces hs hday hmonth hyear h.2⟩
  match month, hmonth with
  | [tens, ones], _ =>
      refine ⟨tens, ones, ?_, ?_, ?_⟩
      · simp [hs, hday]
      · simp [hs, List.getElem?_append_right, hday]
      · rw [number, ofDigitChars_cons_ten, ofDigitChars_cons_ten]
        simp

/-- What is wrong with a text that is no date: its month, if it has eight digits and no year has
that month, and the date as a whole otherwise. -/
def FaultOf (s : String) (fault : Fault) : Prop :=
  (∃ month, WritesMonth s month ∧ (month = 0 ∨ 12 < month) ∧ fault = .invalidMonth month s) ∨
    (∀ month, WritesMonth s month → 1 ≤ month ∧ month ≤ 12) ∧ fault = .invalidDate s

theorem FaultOf.unique {s : String} {fault other : Fault} (h : FaultOf s fault)
    (hother : FaultOf s other) : fault = other := by
  rcases h with ⟨month, hmonth, hwrong, rfl⟩ | ⟨hreal, rfl⟩
  · rcases hother with ⟨month', hmonth', -, rfl⟩ | ⟨hreal, -⟩
    · rw [hmonth.unique hmonth']
    · have := hreal month hmonth
      omega
  · rcases hother with ⟨month, hmonth, hwrong, -⟩ | ⟨-, rfl⟩
    · have := hreal month hmonth
      omega
    · rfl

theorem faultOf_of_ofCompact {s : String} {fault : Fault} (h : ofCompact s = .error fault) :
    FaultOf s fault := by
  by_cases hform : EightDigits s
  · obtain ⟨day, month, year, hmonth, hread⟩ := exists_numbers hform
    rw [hread, ofNumbers_eq_error_iff] at h
    rcases h with ⟨hwrong, rfl⟩ | ⟨hreal, -, rfl⟩
    · exact Or.inl ⟨month, hmonth, hwrong, rfl⟩
    · exact Or.inr ⟨fun other hother ↦ hmonth.unique hother ▸ hreal, rfl⟩
  · rw [ofCompact_of_not_eightDigits hform] at h
    cases h
    exact Or.inr ⟨fun month hmonth ↦ absurd hmonth.1 hform, rfl⟩

/-- A refused text is told what is wrong with it: its month, or the date as a whole. -/
theorem ofCompact_eq_error_iff {s : String} {fault : Fault} :
    ofCompact s = .error fault ↔ (∀ d, ofCompact s ≠ .ok d) ∧ FaultOf s fault := by
  constructor
  · intro h
    refine ⟨fun d hd ↦ ?_, faultOf_of_ofCompact h⟩
    rw [h] at hd
    cases hd
  · rintro ⟨hnone, hfault⟩
    cases hread : ofCompact s with
    | ok d => exact absurd hread (hnone d)
    | error other => rw [hfault.unique (faultOf_of_ofCompact hread)]

/-- Eight digits are read exactly if they are written for a day with a year of four digits, and
only such days are read back.  Every other text is refused for its month or for the date as a
whole.  Reading by bytes answers the same for every text, so no character is ever cut. -/
theorem ofCompact_outcome (s : String) (d : Date) :
    (ofCompact s = .ok d ↔ d.HasShortYear ∧ s = d.compact) ∧
      (ofCompact d.compact = .ok d ↔ d.HasShortYear) ∧
      (∀ fault, ofCompact s = .error fault ↔
        (¬ ∃ d : Date, d.HasShortYear ∧ s = d.compact) ∧ FaultOf s fault) ∧
      ofBytes? s = some (ofCompact s) := by
  have hok : ∀ s d, ofCompact s = .ok d ↔ d.HasShortYear ∧ s = d.compact := fun s d ↦ by
    rw [ofCompact_eq_ok_iff, eq_comm (a := s)]
  refine ⟨hok s d, ?_, fun fault ↦ ?_, ofBytes?_eq s⟩
  · rw [hok]
    exact and_iff_left rfl
  · rw [ofCompact_eq_error_iff]
    simp only [ne_eq, hok, not_exists]

-- the month is to blame before the day, and eight bytes need not be eight digits
example :
    ofCompact "99132014" = .error (.invalidMonth 13 "99132014") ∧
      ofCompact "0é42014" = .error (.invalidDate "0é42014") := ⟨rfl, rfl⟩

end Date

end PaperTrail
