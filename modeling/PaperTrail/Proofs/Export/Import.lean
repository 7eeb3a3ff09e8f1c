import PaperTrail.Export.Import

/-!
# What an import lets through

Main statements: an import never gives an empty booking, and of the rows that are not blank it
leaves out only those with an empty booking.
-/

namespace PaperTrail.Export

open Text

theorem inRow_eq_ok_iff {α : Type} {row : Nat} {answer : Except Fault α} {a : α} :
    inRow row answer = .ok a ↔ answer = .ok a := by
  cases answer with
  | ok b => exact Iff.rfl
  | error cause => simp [inRow]

theorem answer_readRow_eq_some {row : Nat} {fields : List String} {b : Booking}
    (h : (readRow row fields).answer = .ok (some b)) :
    inRow row (Booking.ofFields fields) = .ok b ∧ b.isEmpty = false := by
  rw [readRow] at h
  split at h
  · cases h
  · obtain ⟨c, hc, h⟩ := Logged.answer_bind_eq_ok_iff.mp h
    split at h
    · cases h
    · next hempty =>
        cases h
        exact ⟨hc, Bool.eq_false_iff.mpr hempty⟩

/-- What is told of as an empty row has been read as an empty booking. -/
theorem exists_isEmpty_of_skippedEmptyRow {line row : Nat} {fields : List String}
    (h : .skippedEmptyRow line ∈ (readRow row fields).events) :
    ∃ b, Booking.ofFields fields = .ok b ∧ b.isEmpty = true := by
  rw [readRow] at h
  split at h
  · simp [Logged.log, Logged.pure_eq, Logged.bind_ok] at h
  · rcases Logged.exists_of_mem_events_bind h with hread | ⟨b, hb, hrest⟩
    · cases hread
    · refine ⟨b, inRow_eq_ok_iff.mp hb, ?_⟩
      split at hrest
      · assumption
      · cases hrest

/-- A row that is not blank is read, and left out only where its booking is empty. -/
theorem exists_of_answer_readRow {row : Nat} {fields : List String} {outcome : Option Booking}
    (h : (readRow row fields).answer = .ok outcome) (hblank : fields.all allBlank = false) :
    ∃ b, Booking.ofFields fields = .ok b ∧ (b.isEmpty = false → outcome = some b) := by
  rw [readRow, hblank] at h
  obtain ⟨b, hb, h⟩ := Logged.answer_bind_eq_ok_iff.mp h
  refine ⟨b, inRow_eq_ok_iff.mp hb, fun hempty ↦ ?_⟩
  rw [hempty] at h
  cases h
  rfl

theorem answer_readRecord_eq_some {numbered : Record × Nat} {b : Booking}
    (h : (readRecord numbered).answer = .ok (some b)) : b.isEmpty = false := by
  obtain ⟨fields, -, h⟩ := Logged.answer_bind_eq_ok_iff.mp h
  exact (answer_readRow_eq_some h).2

theorem exists_outcomes_of_read {source : Source} {bookings : List Booking}
    (h : (read source).answer = .ok bookings) :
    ∃ outcomes, (Logged.each readRecord source.effective.rows.zipIdx).answer = .ok outcomes ∧
      bookings = outcomes.filterMap id := by
  obtain ⟨outcomes, houtcomes, h⟩ := Logged.answer_bind_eq_ok_iff.mp h
  obtain ⟨-, -, h⟩ := Logged.answer_bind_eq_ok_iff.mp h
  obtain ⟨-, -, h⟩ := Logged.answer_bind_eq_ok_iff.mp h
  cases h
  exact ⟨outcomes, houtcomes, rfl⟩

theorem exists_readRecord_of_mem_read {source : Source} {bookings : List Booking}
    (h : (read source).answer = .ok bookings) {b : Booking} (hb : b ∈ bookings) :
    ∃ numbered, (readRecord numbered).answer = .ok (some b) := by
  obtain ⟨outcomes, houtcomes, rfl⟩ := exists_outcomes_of_read h
  obtain ⟨outcome, hmem, houtcome⟩ := List.mem_filterMap.mp hb
  obtain rfl : outcome = some b := houtcome
  obtain ⟨numbered, -, hread⟩ := Logged.exists_input_of_mem_outputs houtcomes hmem
  exact ⟨numbered, hread⟩

/-- No empty booking leaves the importer. -/
theorem not_isEmpty_of_mem_read {source : Source} {bookings : List Booking}
    (h : (read source).answer = .ok bookings) {b : Booking} (hb : b ∈ bookings) :
    b.isEmpty = false := by
  obtain ⟨numbered, hread⟩ := exists_readRecord_of_mem_read h hb
  exact answer_readRecord_eq_some hread

theorem exists_fields_of_mem_read {source : Source} {bookings : List Booking}
    (h : (read source).answer = .ok bookings) {b : Booking} (hb : b ∈ bookings) :
    ∃ fields, Booking.ofFields fields = .ok b := by
  obtain ⟨numbered, hread⟩ := exists_readRecord_of_mem_read h hb
  obtain ⟨fields, -, hrow⟩ := Logged.answer_bind_eq_ok_iff.mp hread
  exact ⟨fields, inRow_eq_ok_iff.mp (answer_readRow_eq_some hrow).1⟩

end PaperTrail.Export
