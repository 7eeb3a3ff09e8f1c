import PaperTrail.Booking.Column
import PaperTrail.Document.Flaw
import PaperTrail.Export.Damage

/-!
# Faults

A fault says why an operation gave no answer.  A fault in a column or in a row keeps the fault
that was found there as its cause, and its wording ends with the wording of that cause.
-/

namespace PaperTrail

inductive Fault
  | missingValue (raw : String)
  | invalidRange (raw : String)
  | invalidMonth (month : Nat) (input : String)
  | invalidDate (input : String)
  | malformedNumber (input : String)
  | invalidDocumentNumber (input : String)
  | duplicateDocumentNumber (number : String) (filenames : List String)
  | invalidField (column : Booking.Column) (cause : Fault)
  | columnCount (expected found : Nat)
  | invalidRow (row : Nat) (cause : Fault)
  | damagedExport (damage : Export.Damage)
  | fileNotFound (filename : String)
  | rejected (flaw : Flaw)
deriving DecidableEq

def Fault.message : Fault → String
  | missingValue raw => "Tag '" ++ raw ++ "' has a separator but no value"
  | invalidRange raw => "Invalid range in tag '" ++ raw ++ "'"
  | invalidMonth month input =>
      "Invalid month " ++ Numeral.text month ++ " in date '" ++ input ++ "'"
  | invalidDate input => "Invalid date: '" ++ input ++ "'"
  | malformedNumber input => "Malformed number: '" ++ input ++ "'"
  | invalidDocumentNumber input => "Invalid document number: '" ++ input ++ "'"
  | duplicateDocumentNumber number filenames =>
      "Document number '" ++ number ++ "' is tagged on several files: " ++
        ", ".intercalate filenames
  | invalidField column cause => "Invalid " ++ column.label ++ ": " ++ cause.message
  | columnCount expected found =>
      "Expected " ++ Numeral.text expected ++ " columns, found " ++ Numeral.text found
  | invalidRow row cause => "Row " ++ Numeral.text row ++ ": " ++ cause.message
  | damagedExport damage => "CSV error: " ++ damage.message
  | fileNotFound filename => "File not found: " ++ filename
  | rejected flaw => "Validation error: " ++ flaw.message

/-- The fault that a wrapping fault was built around. -/
def Fault.cause? : Fault → Option Fault
  | invalidField _ cause => some cause
  | invalidRow _ cause => some cause
  | _ => none

/-- A chain of steps succeeds if each of them does. -/
theorem Fault.bind_eq_ok_iff {ε α β : Type} {first : Except ε α} {next : α → Except ε β} {b : β} :
    first >>= next = .ok b ↔ ∃ a, first = .ok a ∧ next a = .ok b := by
  cases first with
  | ok a =>
      constructor
      · intro h
        exact ⟨a, rfl, h⟩
      · rintro ⟨a', ha, hb⟩
        cases ha
        exact hb
  | error e =>
      constructor
      · intro h
        cases h
      · rintro ⟨a, ha, -⟩
        cases ha

theorem Fault.map_eq_ok_iff {ε α β : Type} {answer : Except ε α} {f : α → β} {b : β} :
    answer.map f = .ok b ↔ ∃ a, answer = .ok a ∧ f a = b := by
  cases answer with
  | ok a => simp [Except.map]
  | error e => simp [Except.map]

/-- A chain of steps fails at the first step that does. -/
theorem Fault.bind_eq_error_iff {ε α β : Type} {first : Except ε α} {next : α → Except ε β}
    {e : ε} :
    first >>= next = .error e ↔ first = .error e ∨ ∃ a, first = .ok a ∧ next a = .error e := by
  cases first with
  | ok a =>
      constructor
      · intro h
        exact Or.inr ⟨a, rfl, h⟩
      · rintro (hfirst | ⟨a', ha, hnext⟩)
        · cases hfirst
        · cases ha
          exact hnext
  | error other =>
      constructor
      · intro h
        cases h
        exact Or.inl rfl
      · rintro (hfirst | ⟨a, ha, -⟩)
        · cases hfirst
          rfl
        · cases ha

theorem Fault.map_eq_error_iff {ε α β : Type} {answer : Except ε α} {f : α → β} {e : ε} :
    answer.map f = .error e ↔ answer = .error e := by
  cases answer with
  | ok a => simp [Except.map]
  | error other => simp [Except.map]

end PaperTrail
