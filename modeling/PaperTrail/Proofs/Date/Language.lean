import PaperTrail.Proofs.Date.Bytes
import PaperTrail.Proofs.Date.Delimited

/-!
# The texts of delimited dates

A text between separators is told apart by its three numbers, however they are padded, signed or
filled up with zeros.  Main statement: these numbers decide which day is read and which fault is
found, and eight digits are read alike with separators between them and without.
-/

namespace PaperTrail.Date

open Numeral Text

/-! ### Three numbers between separators -/

/-- The text has three parts between separators, and without the blanks around them they are the
numbers of a day, a month and a year. -/
def WritesNumbers (sep : Char) (s : String) (day month year : Nat) : Prop :=
  ∃ d m y : List Char, s.toList = d ++ sep :: (m ++ sep :: y) ∧ (sep ∉ d ∧ sep ∉ m ∧ sep ∉ y) ∧
    IsWord 32 (trim d) day ∧ IsWord 32 (trim m) month ∧ IsWord 32 (trim y) year

theorem part?_eq_some_iff {cs : List Char} {n : Nat} :
    part? cs = some n ↔ IsWord 32 (trim cs) n := unsigned?_eq_some_iff

theorem pieces_eq_three_iff {sep : Char} {cs d m y : List Char} :
    pieces sep cs = [d, m, y] ↔
      cs = d ++ sep :: (m ++ sep :: y) ∧ (sep ∉ d ∧ sep ∉ m ∧ sep ∉ y) := by
  rw [pieces_eq_iff]
  simp only [ne_eq, reduceCtorEq, not_false_eq_true, true_and, List.forall_mem_cons,
    List.intercalate_cons_cons, List.intercalate_singleton, List.append_assoc,
    List.singleton_append]
  constructor
  · rintro ⟨⟨hd, hm, hy, -⟩, rfl⟩
    exact ⟨rfl, hd, hm, hy⟩
  · rintro ⟨rfl, hd, hm, hy⟩
    exact ⟨⟨hd, hm, hy, List.forall_mem_nil _⟩, rfl⟩

theorem numbers?_eq_some_iff {sep : Char} {s : String} {day month year : Nat} :
    numbers? sep s.toList = some (day, month, year) ↔ WritesNumbers sep s day month year := by
  constructor
  · intro h
    rw [numbers?] at h
    split at h
    · next d m y hpieces =>
        obtain ⟨hs, hseps⟩ := pieces_eq_three_iff.mp hpieces
        simp only [Option.bind_eq_bind, Option.bind_eq_some_iff, Option.pure_def,
          Option.some.injEq, Prod.mk.injEq] at h
        obtain ⟨_, hd, _, hm, _, hy, rfl, rfl, rfl⟩ := h
        exact ⟨d, m, y, hs, hseps, part?_eq_some_iff.mp hd, part?_eq_some_iff.mp hm,
          part?_eq_some_iff.mp hy⟩
    · cases h
  · rintro ⟨d, m, y, hs, hseps, hd, hm, hy⟩
    rw [numbers?, pieces_eq_three_iff.mpr ⟨hs, hseps⟩]
    simp only [part?_eq_some_iff.mpr hd, part?_eq_some_iff.mpr hm, part?_eq_some_iff.mpr hy]
    rfl

section Numbers

variable {sep : Char} {s : String} {day month year : Nat}

theorem WritesNumbers.unique {day' month' year' : Nat} (h : WritesNumbers sep s day month year)
    (h' : WritesNumbers sep s day' month' year') : day = day' ∧ month = month' ∧ year = year' := by
  have heq := (numbers?_eq_some_iff.mpr h).symm.trans (numbers?_eq_some_iff.mpr h')
  simpa using heq

theorem ofDelimited_of_writesNumbers (h : WritesNumbers sep s day month year) :
    ofDelimited sep s = ofNumbers s day month year := by
  rw [ofDelimited_eq, numbers?_eq_some_iff.mpr h]

theorem ofDelimited_of_not_writesNumbers
    (h : ¬ ∃ day month year, WritesNumbers sep s day month year) :
    ofDelimited sep s = .error (.invalidDate s) := by
  rw [ofDelimited_eq]
  cases hnumbers : numbers? sep s.toList with
  | some numbers =>
      obtain ⟨day, month, year⟩ := numbers
      exact absurd ⟨day, month, year, numbers?_eq_some_iff.mp hnumbers⟩ h
  | none => rfl

end Numbers

/-! ### What the numbers decide -/

/-- The numbers are those of this day, and its year is none behind the last year of the calendar. -/
def NamesDay (sep : Char) (s : String) (d : Date) : Prop :=
  ∃ year : Nat, d.year = year ∧ year ≤ 262142 ∧ WritesNumbers sep s d.day d.month year

/-- What is wrong with a text that names no day: its month, if there are three numbers and no year
has that month, and the date as a whole otherwise. -/
def FaultBetween (sep : Char) (s : String) (fault : Fault) : Prop :=
  (∃ day month year, WritesNumbers sep s day month year ∧ (month = 0 ∨ 12 < month) ∧
      fault = .invalidMonth month s) ∨
    (∀ day month year, WritesNumbers sep s day month year → 1 ≤ month ∧ month ≤ 12) ∧
      fault = .invalidDate s

section Outcome

variable {sep : Char} {s : String} {day month year : Nat}

theorem namesDay_iff (h : WritesNumbers sep s day month year) {d : Date} :
    NamesDay sep s d ↔ of? year month day = some d := by
  rw [of?_eq_some_iff]
  constructor
  · rintro ⟨year', hyear, -, hnumbers⟩
    obtain ⟨rfl, rfl, rfl⟩ := h.unique hnumbers
    exact ⟨hyear, rfl, rfl⟩
  · rintro ⟨hyear, rfl, rfl⟩
    have hlast := d.real.last_year
    exact ⟨year, hyear, by omega, h⟩

theorem faultBetween_iff (h : WritesNumbers sep s day month year) {fault : Fault} :
    FaultBetween sep s fault ↔
      ((month = 0 ∨ 12 < month) ∧ fault = .invalidMonth month s) ∨
        ((1 ≤ month ∧ month ≤ 12) ∧ fault = .invalidDate s) := by
  constructor
  · rintro (⟨day', month', year', hnumbers, hwrong, rfl⟩ | ⟨hreal, rfl⟩)
    · obtain ⟨rfl, rfl, rfl⟩ := h.unique hnumbers
      exact Or.inl ⟨hwrong, rfl⟩
    · exact Or.inr ⟨hreal day month year h, rfl⟩
  · rintro (⟨hwrong, rfl⟩ | ⟨hreal, rfl⟩)
    · exact Or.inl ⟨day, month, year, h, hwrong, rfl⟩
    · refine Or.inr ⟨fun day' month' year' hnumbers ↦ ?_, rfl⟩
      obtain ⟨rfl, rfl, rfl⟩ := h.unique hnumbers
      exact hreal

/-- A delimited date is read exactly where it names a day. -/
theorem ofDelimited_eq_ok_iff_namesDay {d : Date} :
    ofDelimited sep s = .ok d ↔ NamesDay sep s d := by
  by_cases h : ∃ day month year, WritesNumbers sep s day month year
  · obtain ⟨day, month, year, hnumbers⟩ := h
    rw [ofDelimited_of_writesNumbers hnumbers, ofNumbers_eq_ok_iff, namesDay_iff hnumbers]
  · rw [ofDelimited_of_not_writesNumbers h]
    simp only [reduceCtorEq, false_iff]
    rintro ⟨year, -, -, hnumbers⟩
    exact h ⟨_, _, _, hnumbers⟩

theorem ofDelimited_eq_error_iff {fault : Fault} :
    ofDelimited sep s = .error fault ↔ (¬ ∃ d, NamesDay sep s d) ∧ FaultBetween sep s fault := by
  by_cases h : ∃ day month year, WritesNumbers sep s day month year
  · obtain ⟨day, month, year, hnumbers⟩ := h
    have hday : (¬ ∃ d, NamesDay sep s d) ↔ of? year month day = none := by
      simp only [namesDay_iff hnumbers, Option.eq_none_iff_forall_ne_some, not_exists, ne_eq]
    rw [ofDelimited_of_writesNumbers hnumbers, ofNumbers_eq_error_iff, hday,
      faultBetween_iff hnumbers]
    constructor
    · rintro (⟨hwrong, rfl⟩ | ⟨hreal, hnone, rfl⟩)
      · -- no day lies in a month that the calendar does not have
        refine ⟨of?_eq_none_iff.mpr fun hexists ↦ ?_, Or.inl ⟨hwrong, rfl⟩⟩
        have hpos := hexists.month_pos
        have hle := hexists.month_le
        omega
      · exact ⟨hnone, Or.inr ⟨hreal, rfl⟩⟩
    · rintro ⟨hnone, hwrong | ⟨hreal, rfl⟩⟩
      · exact Or.inl hwrong
      · exact Or.inr ⟨hreal, hnone, rfl⟩
  · rw [ofDelimited_of_not_writesNumbers h, Except.error.injEq]
    constructor
    · rintro rfl
      refine ⟨?_, Or.inr ⟨fun day month year hnumbers ↦ absurd ⟨_, _, _, hnumbers⟩ h, rfl⟩⟩
      rintro ⟨d, year, -, -, hnumbers⟩
      exact h ⟨_, _, _, hnumbers⟩
    · rintro ⟨-, ⟨day, month, year, hnumbers, -⟩ | ⟨-, rfl⟩⟩
      · exact absurd ⟨_, _, _, hnumbers⟩ h
      · rfl

end Outcome

/-! ### With separators and without -/

/-- Two answers name the same day, or they find the same fault, each in its own text. -/
inductive SameReading (s s' : String) : Except Fault Date → Except Fault Date → Prop
  | day (d : Date) : SameReading s s' (.ok d) (.ok d)
  | month (month : Nat) :
      SameReading s s' (.error (.invalidMonth month s)) (.error (.invalidMonth month s'))
  | date : SameReading s s' (.error (.invalidDate s)) (.error (.invalidDate s'))

theorem sameReading_ofNumbers (s s' : String) (day month year : Nat) :
    SameReading s s' (ofNumbers s day month year) (ofNumbers s' day month year) := by
  by_cases hmonth : month < 1 ∨ 12 < month
  · rw [ofNumbers, if_pos hmonth, ofNumbers, if_pos hmonth]
    exact .month month
  · rw [ofNumbers, if_neg hmonth, ofNumbers, if_neg hmonth]
    cases of? year month day with
    | some d => exact .day d
    | none => exact .date

def separated (sep : Char) (s : String) : String :=
  String.ofList (s.toList.take 2 ++ sep :: ((s.toList.drop 2).take 2 ++ sep :: s.toList.drop 4))

theorem ofCompact_of_eightDigits {s : String} (h : EightDigits s) :
    ofCompact s = ofNumbers s (number (s.toList.take 2)) (number ((s.toList.drop 2).take 2))
      (number (s.toList.drop 4)) :=
  if_pos ⟨h.1, List.all_eq_true.mpr h.2⟩

theorem writesNumbers_separated {sep : Char} (hsep : sep.isDigit = false) {s : String}
    (h : EightDigits s) :
    WritesNumbers sep (separated sep s) (number (s.toList.take 2))
      (number ((s.toList.drop 2).take 2)) (number (s.toList.drop 4)) := by
  have hday : ∀ c ∈ s.toList.take 2, c.isDigit = true := fun c hc ↦
    h.2 c (List.mem_of_mem_take hc)
  have hmonth : ∀ c ∈ (s.toList.drop 2).take 2, c.isDigit = true := fun c hc ↦
    h.2 c (List.mem_of_mem_drop (List.mem_of_mem_take hc))
  have hyear : ∀ c ∈ s.toList.drop 4, c.isDigit = true := fun c hc ↦
    h.2 c (List.mem_of_mem_drop hc)
  have hnotMem : ∀ {cs : List Char}, (∀ c ∈ cs, c.isDigit = true) → sep ∉ cs := by
    intro cs hdigits hmem
    rw [hdigits sep hmem] at hsep
    cases hsep
  have hlength := h.1
  refine ⟨_, _, _, String.toList_ofList, ⟨hnotMem hday, hnotMem hmonth, hnotMem hyear⟩,
    part?_eq_some_iff.mp (part?_of_isDigit ?_ ?_ hday),
    part?_eq_some_iff.mp (part?_of_isDigit ?_ ?_ hmonth),
    part?_eq_some_iff.mp (part?_of_isDigit ?_ ?_ hyear)⟩
  all_goals
    simp only [List.length_take, List.length_drop]
    omega

/-- A delimited date is read exactly if its three numbers name a day.  Every other text is refused
for its month, if there are three numbers, and for the date as a whole otherwise.  Eight digits are
read alike with separators between them, whichever they are, and without. -/
theorem ofDelimited_outcome (sep : Char) (s : String) :
    (∀ d, ofDelimited sep s = .ok d ↔ NamesDay sep s d) ∧
      (∀ fault, ofDelimited sep s = .error fault ↔
        (¬ ∃ d, NamesDay sep s d) ∧ FaultBetween sep s fault) ∧
      (EightDigits s → sep.isDigit = false →
        SameReading s (separated sep s) (ofCompact s) (ofDelimited sep (separated sep s))) := by
  refine ⟨fun d ↦ ofDelimited_eq_ok_iff_namesDay, fun fault ↦ ofDelimited_eq_error_iff, ?_⟩
  intro hdigits hsep
  rw [ofCompact_of_eightDigits hdigits,
    ofDelimited_of_writesNumbers (writesNumbers_separated hsep hdigits)]
  exact sameReading_ofNumbers s (separated sep s) _ _ _

/-- A plus sign is a separator like others, though it may stand in front of a number too. -/
theorem ofDelimited_outcome_plus :
    EightDigits "29022015" ∧ '+'.isDigit = false ∧ separated '+' "29022015" = "29+02+2015" ∧
      ofDelimited '+' "29+02+2015" = .error (.invalidDate "29+02+2015") ∧
        SameReading "29022015" "29+02+2015" (ofCompact "29022015")
          (ofDelimited '+' "29+02+2015") := by
  have hdigits : EightDigits "29022015" := ⟨rfl, List.all_eq_true.mp rfl⟩
  have hsep : '+'.isDigit = false := rfl
  have hseparated : separated '+' "29022015" = "29+02+2015" := rfl
  have hread := (ofDelimited_outcome '+' "29022015").2.2 hdigits hsep
  rw [hseparated] at hread
  exact ⟨hdigits, hsep, hseparated, rfl, hread⟩

-- blanks, signs and zeros are no part of a number, and the month is to blame before the day
example :
    ofDelimited '.' " +003.1\t. 02014" = ofCompact "03012014" ∧
      ofDelimited '.' "99.13.5000000" = .error (.invalidMonth 13 "99.13.5000000") := ⟨rfl, rfl⟩

end PaperTrail.Date
