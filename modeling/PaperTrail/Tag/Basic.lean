import PaperTrail.Date.Basic
import PaperTrail.Fault

/-!
# Tags

A document is marked with labels, with keys that have a value, and with keys that have a period.
A period may be open at either end.  The days strictly between its ends lie in it, and so do the
ends themselves, also where the first day comes after the last.
-/

namespace PaperTrail

structure ValueTag where
  key : String
  value : String
deriving DecidableEq

structure Period where
  first : Option Date
  last : Option Date
deriving DecidableEq

namespace Period

def encloses (p : Period) (d : Date) : Bool :=
  p.first.all (fun first ↦ first < d) && p.last.all (fun last ↦ d < last)

def covers (p : Period) (d : Date) : Bool :=
  p.first == some d || p.last == some d || p.encloses d

/-- A period with an open end always runs forward. -/
def isOrdered (p : Period) : Bool :=
  match p.first, p.last with
  | some first, some last => first ≤ last
  | _, _ => true

def isUnbounded (p : Period) : Bool := p.first.isNone && p.last.isNone

def Includes (p : Period) (d : Date) : Prop :=
  (∀ first ∈ p.first, first ≤ d) ∧ ∀ last ∈ p.last, d ≤ last

instance (p : Period) (d : Date) : Decidable (p.Includes d) :=
  inferInstanceAs (Decidable ((∀ first ∈ p.first, first ≤ d) ∧ ∀ last ∈ p.last, d ≤ last))

@[simp] theorem covers_unbounded (d : Date) : covers ⟨none, none⟩ d = true := rfl

/-- A day is covered strictly between the bounds, or on one of them whatever the other is. -/
theorem covers_eq_true_iff {p : Period} {d : Date} :
    p.covers d = true ↔ p.first = some d ∨ p.last = some d ∨
      (∀ first ∈ p.first, first < d) ∧ ∀ last ∈ p.last, d < last := by
  obtain ⟨first, last⟩ := p
  cases first <;> cases last <;> simp [covers, encloses, or_assoc]

theorem isOrdered_eq_true_iff {p : Period} :
    p.isOrdered = true ↔ ∀ first ∈ p.first, ∀ last ∈ p.last, first ≤ last := by
  obtain ⟨first, last⟩ := p
  cases first <;> cases last <;> simp [isOrdered]

/-- A period that runs forward covers its days from the first to the last. -/
theorem covers_eq_true_iff_includes {p : Period} (h : p.isOrdered = true) {d : Date} :
    p.covers d = true ↔ p.Includes d := by
  rw [isOrdered_eq_true_iff] at h
  rw [covers_eq_true_iff]
  constructor
  · rintro (hfirst | hlast | ⟨hafter, hbefore⟩)
    · refine ⟨fun first hf ↦ ?_, h d hfirst⟩
      cases hfirst.symm.trans hf
      exact d.le_refl
    · refine ⟨fun first hf ↦ h first hf d hlast, fun last hl ↦ ?_⟩
      cases hlast.symm.trans hl
      exact d.le_refl
    · exact ⟨fun first hf ↦ Date.le_of_lt (hafter first hf),
        fun last hl ↦ Date.le_of_lt (hbefore last hl)⟩
  · rintro ⟨hafter, hbefore⟩
    by_cases hfirst : p.first = some d
    · exact Or.inl hfirst
    · by_cases hlast : p.last = some d
      · exact Or.inr (Or.inl hlast)
      · refine Or.inr (Or.inr ⟨fun first hf ↦ ?_, fun last hl ↦ ?_⟩)
        · refine (Date.le_iff_lt_or_eq.mp (hafter first hf)).resolve_right ?_
          rintro rfl
          exact hfirst hf
        · refine (Date.le_iff_lt_or_eq.mp (hbefore last hl)).resolve_right ?_
          rintro rfl
          exact hlast hl

end Period

structure PeriodTag where
  key : String
  period : Period
deriving DecidableEq

/-- A period tag has to name at least one day. -/
def PeriodTag.of (key : String) (first last : Option Date) : Except Fault PeriodTag :=
  if Period.isUnbounded ⟨first, last⟩ then .error (.invalidRange key)
  else .ok ⟨key, first, last⟩

theorem PeriodTag.of_eq_ok_iff {key : String} {first last : Option Date} {tag : PeriodTag} :
    PeriodTag.of key first last = .ok tag ↔
      tag = ⟨key, first, last⟩ ∧ (first ≠ none ∨ last ≠ none) := by
  cases first with
  | some d => simp [PeriodTag.of, Period.isUnbounded, eq_comm]
  | none =>
      cases last with
      | some d => simp [PeriodTag.of, Period.isUnbounded, eq_comm]
      | none => simp [PeriodTag.of, Period.isUnbounded]

inductive Tag
  | label (name : String)
  | value (tag : ValueTag)
  | period (tag : PeriodTag)
deriving DecidableEq

namespace Tag

inductive Kind
  | label
  | value
  | period
deriving DecidableEq

def kind : Tag → Kind
  | label _ => .label
  | value _ => .value
  | period _ => .period

/-- A label is its own key. -/
def key : Tag → String
  | label name => name
  | value tag => tag.key
  | period tag => tag.key

end Tag

end PaperTrail
