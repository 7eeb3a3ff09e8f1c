import PaperTrail.Date.Basic
import PaperTrail.Fault
import PaperTrail.Text.Blank
import PaperTrail.Text.Split

/-!
# Written dates

Three forms of a day are in use: eight digits (day, month, year) in tags, the three numbers with a
separator in exports, and year-month-day for the outside.  A month outside the calendar is told
apart from every other fault of a date, and is found first.  What is written for the outside can
be read back.
-/

namespace PaperTrail.Date

open Numeral Text

/-- At least four digits.  A minus sign marks years before the year 0, and a plus sign years that
need more than four digits. -/
def yearChars : Int → List Char
  | .ofNat year => if year ≤ 9999 then padded 4 year else '+' :: digits year
  | .negSucc year => '-' :: padded 4 (year + 1)

def compactChars (d : Date) : List Char :=
  padded 2 d.day ++ (padded 2 d.month ++ yearChars d.year)

def compact (d : Date) : String := String.ofList d.compactChars

def isoChars (d : Date) : List Char :=
  yearChars d.year ++ '-' :: (padded 2 d.month ++ '-' :: padded 2 d.day)

def iso (d : Date) : String := String.ofList d.isoChars

def ofNumbers (input : String) (day month year : Nat) : Except Fault Date :=
  if month < 1 ∨ 12 < month then .error (.invalidMonth month input)
  else match of? year month day with
    | some d => .ok d
    | none => .error (.invalidDate input)

def number (cs : List Char) : Nat := Nat.ofDigitChars 10 cs 0

/-- Reads eight digits: two for the day, two for the month and four for the year. -/
def ofCompact (s : String) : Except Fault Date :=
  let cs := s.toList
  if cs.length = 8 ∧ cs.all Char.isDigit then
    ofNumbers s (number (cs.take 2)) (number ((cs.drop 2).take 2)) (number (cs.drop 4))
  else .error (.invalidDate s)

/-- A part of a delimited date: a 32-bit number between blanks. -/
def part? (cs : List Char) : Option Nat := unsigned? 32 (trim cs)

/-- Reads day, month and year between separators. -/
def ofDelimited (sep : Char) (s : String) : Except Fault Date :=
  match pieces sep s.toList with
  | [day, month, year] =>
      match part? day, part? month, part? year with
      | some d, some m, some y => ofNumbers s d m y
      | _, _, _ => .error (.invalidDate s)
  | _ => .error (.invalidDate s)

def upTo? (width : Nat) (cs : List Char) : Option Nat :=
  if cs.length ≤ width then nat? cs else none

def unsignedYear? (cs : List Char) : Option Int := (upTo? 4 cs).map Int.ofNat

def signedYear? (negative : Bool) (cs : List Char) : Option Int := (nat? cs).map (signed negative)

/-- Year, month and day between hyphens; blanks may stand around a number, but not in front of the
year. -/
def ofHyphenated? (year? : List Char → Option Int) (cs : List Char) : Option Date :=
  match pieces '-' cs with
  | [year, month, day] => do
      of? (← year? (trimEnd year)) (← upTo? 2 (trim month)) (← upTo? 2 (trim day))
  | _ => none

/-- Reads year, month and day, with leading zeros or without.  A year without sign has at most four
digits. -/
def ofIso? (s : String) : Option Date :=
  match trimStart s.toList with
  | '-' :: cs => ofHyphenated? (signedYear? true) cs
  | '+' :: cs => ofHyphenated? (signedYear? false) cs
  | cs => ofHyphenated? unsignedYear? cs

theorem ofNumbers_eq_ok_iff {input : String} {day month year : Nat} {d : Date} :
    ofNumbers input day month year = .ok d ↔ of? year month day = some d := by
  simp only [ofNumbers]
  split
  · next hmonth =>
      have hnone : of? year month day = none :=
        of?_eq_none_iff.mpr fun h ↦ by
          have h₁ := h.month_pos
          have h₂ := h.month_le
          omega
      simp [hnone]
  · split
    · next e he => simp [he]
    · next he => simp [he]

/-- The month is looked at first. -/
theorem ofNumbers_eq_error_iff {input : String} {day month year : Nat} {fault : Fault} :
    ofNumbers input day month year = .error fault ↔
      ((month = 0 ∨ 12 < month) ∧ fault = .invalidMonth month input) ∨
        ((1 ≤ month ∧ month ≤ 12) ∧ of? year month day = none ∧ fault = .invalidDate input) := by
  by_cases hmonth : month < 1 ∨ 12 < month
  · rw [ofNumbers, if_pos hmonth, Except.error.injEq]
    constructor
    · rintro rfl
      exact Or.inl ⟨by omega, rfl⟩
    · rintro (⟨-, rfl⟩ | ⟨hreal, -⟩)
      · rfl
      · omega
  · rw [ofNumbers, if_neg hmonth]
    constructor
    · intro h
      split at h
      · cases h
      · next hnone =>
          cases h
          exact Or.inr ⟨by omega, hnone, rfl⟩
    · rintro (⟨hwrong, -⟩ | ⟨-, hnone, rfl⟩)
      · omega
      · rw [hnone]

theorem hyphen_not_mem_padded (width n : Nat) : '-' ∉ padded width n :=
  fun h ↦ absurd (isDigit_of_mem_padded h) (by decide)

theorem not_isBlank_of_mem_padded {width n : Nat} {c : Char} (h : c ∈ padded width n) :
    isBlank c = false :=
  not_isBlank_of_isDigit (isDigit_of_mem_padded h)

@[simp] theorem upTo?_padded {width n : Nat} (h : (digits n).length ≤ width) :
    upTo? width (padded width n) = some n := by
  simp [upTo?, length_padded h]

theorem length_digits_day (d : Date) : (digits d.day).length ≤ 2 := by
  have := d.real.day_le
  have := monthLength_le d.year d.month
  exact (Nat.length_toDigits_le_iff (by decide) (by decide)).mpr (by omega)

theorem length_digits_month (d : Date) : (digits d.month).length ≤ 2 := by
  have := d.real.month_le
  exact (Nat.length_toDigits_le_iff (by decide) (by decide)).mpr (by omega)

theorem length_digits_year {year : Nat} (h : year ≤ 9999) : (digits year).length ≤ 4 :=
  (Nat.length_toDigits_le_iff (by decide) (by decide)).mpr (by omega)

theorem ofHyphenated?_padded (d : Date) (year? : List Char → Option Int) (width n : Nat)
    (hyear : year? (padded width n) = some d.year) :
    ofHyphenated? year?
      (padded width n ++ '-' :: (padded 2 d.month ++ '-' :: padded 2 d.day)) = some d := by
  rw [ofHyphenated?, pieces_append _ (hyphen_not_mem_padded _ _),
    pieces_append _ (hyphen_not_mem_padded _ _), pieces_of_not_mem (hyphen_not_mem_padded _ _)]
  simp only [trimEnd_of_forall fun _ ↦ not_isBlank_of_mem_padded,
    trim_of_forall fun _ ↦ not_isBlank_of_mem_padded, hyear,
    upTo?_padded d.length_digits_month, upTo?_padded d.length_digits_day]
  exact of?_self d

/-- The first digit of the year tells that there is no sign. -/
theorem ofIso?_of_digit {s : String} {c : Char} {cs : List Char} (hs : s.toList = c :: cs)
    (hc : c.isDigit = true) : ofIso? s = ofHyphenated? unsignedYear? s.toList := by
  rw [ofIso?, hs, trimStart_of_head cs (not_isBlank_of_isDigit hc)]
  split
  · next heq =>
      cases heq
      exact absurd hc (by decide)
  · next heq =>
      cases heq
      exact absurd hc (by decide)
  · rfl

theorem ofIso?_minus {s : String} {cs : List Char} (hs : s.toList = '-' :: cs) :
    ofIso? s = ofHyphenated? (signedYear? true) cs := by
  rw [ofIso?, hs, trimStart_of_head cs (by decide)]
  rfl

theorem ofIso?_plus {s : String} {cs : List Char} (hs : s.toList = '+' :: cs) :
    ofIso? s = ofHyphenated? (signedYear? false) cs := by
  rw [ofIso?, hs, trimStart_of_head cs (by decide)]
  rfl

/-- Every date is read back from its own text, whatever the length and the sign of its year. -/
theorem ofIso?_iso (d : Date) : ofIso? d.iso = some d := by
  have htext : d.iso.toList = d.isoChars := String.toList_ofList
  cases hyear : d.year with
  | negSucc year =>
      rw [isoChars, hyear, yearChars, List.cons_append] at htext
      rw [ofIso?_minus htext]
      refine ofHyphenated?_padded d (signedYear? true) 4 (year + 1) ?_
      rw [signedYear?, nat?_padded, hyear]
      rfl
  | ofNat year =>
      by_cases hshort : year ≤ 9999
      · obtain ⟨c, cs, hpadded⟩ := List.exists_cons_of_ne_nil (padded_ne_nil 4 year)
        have hdigit : c.isDigit = true :=
          isDigit_of_mem_padded (hpadded ▸ List.mem_cons_self : c ∈ padded 4 year)
        rw [isoChars, hyear, yearChars, if_pos hshort] at htext
        have hhead := htext
        rw [hpadded, List.cons_append] at hhead
        rw [ofIso?_of_digit hhead hdigit, htext]
        refine ofHyphenated?_padded d unsignedYear? 4 year ?_
        rw [unsignedYear?, upTo?_padded (length_digits_year hshort), hyear]
        rfl
      · have hpadded : digits year = padded 0 year := by simp [padded, List.leftpad]
        rw [isoChars, hyear, yearChars, if_neg hshort, hpadded, List.cons_append] at htext
        rw [ofIso?_plus htext]
        refine ofHyphenated?_padded d (signedYear? false) 0 year ?_
        rw [signedYear?, nat?_padded, hyear]
        rfl

end PaperTrail.Date
