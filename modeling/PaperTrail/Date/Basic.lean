/-!
# Calendar days

Days of the proleptic Gregorian calendar, from the year -262143 to the year 262142.  Only days
that exist can be formed.  They are compared by a rank that grows with the year, then the
month, then the day of the month.
-/

namespace PaperTrail

def isLeapYear (year : Int) : Bool :=
  year % 4 == 0 && (year % 100 != 0 || year % 400 == 0)

def monthLength (year : Int) (month : Nat) : Nat :=
  if month = 2 then if isLeapYear year then 29 else 28
  else if month = 4 ∨ month = 6 ∨ month = 9 ∨ month = 11 then 30
  else 31

structure Date.Exists (year : Int) (month day : Nat) : Prop where
  first_year : -262143 ≤ year
  last_year : year ≤ 262142
  month_pos : 1 ≤ month
  month_le : month ≤ 12
  day_pos : 1 ≤ day
  day_le : day ≤ monthLength year month

instance (year : Int) (month day : Nat) : Decidable (Date.Exists year month day) :=
  decidable_of_iff
    (-262143 ≤ year ∧ year ≤ 262142 ∧ 1 ≤ month ∧ month ≤ 12 ∧ 1 ≤ day ∧
      day ≤ monthLength year month)
    ⟨fun ⟨h₁, h₂, h₃, h₄, h₅, h₆⟩ ↦ ⟨h₁, h₂, h₃, h₄, h₅, h₆⟩,
      fun h ↦ ⟨h.1, h.2, h.3, h.4, h.5, h.6⟩⟩

structure Date where
  year : Int
  month : Nat
  day : Nat
  real : Date.Exists year month day
deriving DecidableEq

theorem monthLength_le (year : Int) (month : Nat) : monthLength year month ≤ 31 := by
  unfold monthLength
  split
  · split <;> omega
  · split <;> omega

namespace Date

def of? (year : Int) (month day : Nat) : Option Date :=
  if h : Date.Exists year month day then some ⟨year, month, day, h⟩ else none

@[simp] theorem of?_self (d : Date) : of? d.year d.month d.day = some d := by
  simp [of?, d.real]

theorem of?_eq_some_iff {year : Int} {month day : Nat} {d : Date} :
    of? year month day = some d ↔ d.year = year ∧ d.month = month ∧ d.day = day := by
  constructor
  · intro h
    simp only [of?] at h
    split at h
    · cases h
      exact ⟨rfl, rfl, rfl⟩
    · cases h
  · rintro ⟨rfl, rfl, rfl⟩
    exact of?_self d

/-- No date is built exactly where the calendar has no such day. -/
theorem of?_eq_none_iff {year : Int} {month day : Nat} :
    of? year month day = none ↔ ¬ Date.Exists year month day := by
  simp [of?]

def rank (d : Date) : Int := (d.year * 13 + d.month) * 32 + d.day

instance : LT Date := ⟨fun a b ↦ a.rank < b.rank⟩

instance : LE Date := ⟨fun a b ↦ a.rank ≤ b.rank⟩

instance (a b : Date) : Decidable (a < b) := inferInstanceAs (Decidable (a.rank < b.rank))

instance (a b : Date) : Decidable (a ≤ b) := inferInstanceAs (Decidable (a.rank ≤ b.rank))

theorem lt_def {a b : Date} : a < b ↔ a.rank < b.rank := Iff.rfl

theorem le_def {a b : Date} : a ≤ b ↔ a.rank ≤ b.rank := Iff.rfl

theorem rank_injective {a b : Date} (h : a.rank = b.rank) : a = b := by
  obtain ⟨ya, ma, da, ha⟩ := a
  obtain ⟨yb, mb, db, hb⟩ := b
  have hda := ha.day_le
  have hdb := hb.day_le
  have hla := monthLength_le ya ma
  have hlb := monthLength_le yb mb
  have hma := ha.month_le
  have hmb := hb.month_le
  simp only [rank] at h
  obtain rfl : ya = yb := by omega
  obtain rfl : ma = mb := by omega
  obtain rfl : da = db := by omega
  rfl

theorem le_iff_lt_or_eq {a b : Date} : a ≤ b ↔ a < b ∨ a = b := by
  rw [le_def, lt_def]
  constructor
  · intro h
    rcases Int.lt_or_eq_of_le h with hlt | heq
    · exact Or.inl hlt
    · exact Or.inr (rank_injective heq)
  · rintro (hlt | rfl)
    · omega
    · omega

theorem le_refl (a : Date) : a ≤ a := Int.le_refl a.rank

theorem le_of_lt {a b : Date} (h : a < b) : a ≤ b := Int.le_of_lt h

end Date

end PaperTrail
