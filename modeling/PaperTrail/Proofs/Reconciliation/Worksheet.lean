import PaperTrail.Proofs.Reconciliation.Outcome

/-!
# Reports and their worksheets

A report names the bookings that were matched without their places.  The worksheet of the same
reconciliation has a line for each booking, in their order, and the report is read off it.
-/

namespace PaperTrail.Reconciliation

variable {v : Vocabulary} {documents : List Document} {bookings : List Booking}

def Worksheet.report (sheet : Worksheet) (reportUnmatched : Bool) : Report :=
  ⟨sheet.matchesBy .documentNumber ++ sheet.matchesBy .statement,
    reported reportUnmatched sheet.openBookings⟩

theorem answer_run_eq_map (v : Vocabulary) (bookings : List Booking) (documents : List Document)
    (reportUnmatched : Bool) :
    (run v bookings documents reportUnmatched).answer =
      (worksheet v bookings documents).answer.map fun sheet ↦ sheet.report reportUnmatched := by
  rw [run, Logged.answer_bind]
  cases (worksheet v bookings documents).answer with
  | ok sheet => rfl
  | error fault => rfl

theorem answer_worksheet_eq_ok_iff {s : Worksheet} :
    (worksheet v bookings documents).answer = .ok s ↔
      (∀ b ∈ bookings, isAmbiguous v documents b = false) ∧ s = sheet v documents bookings := by
  constructor
  · intro h
    have hrun : (run v bookings documents true).answer = .ok (s.report true) := by
      rw [answer_run_eq_map, h]
      rfl
    have hclear := clear_of_run_ok hrun
    rw [worksheet_of_clear hclear] at h
    cases h
    exact ⟨hclear, rfl⟩
  · rintro ⟨hclear, rfl⟩
    rw [worksheet_of_clear hclear]

/-- The report answers the bookings and is read off this worksheet, line by line. -/
structure ReadOff (v : Vocabulary) (documents : List Document) (bookings : List Booking)
    (reportUnmatched : Bool) (report : Report) (sheet : Worksheet) : Prop where
  settled : (worksheet v bookings documents).answer = .ok sheet
  lines : sheet.map Line.booking = bookings
  report_eq : report = sheet.report reportUnmatched

theorem map_booking_sheet : (sheet v documents bookings).map Line.booking = bookings := by
  rw [sheet, List.map_map]
  exact List.map_id _

theorem readOff_sheet {reportUnmatched : Bool} {report : Report}
    (h : (run v bookings documents reportUnmatched).answer = .ok report) :
    ReadOff v documents bookings reportUnmatched report (sheet v documents bookings) := by
  rw [answer_run_eq_map] at h
  obtain ⟨s, hs, rfl⟩ := Fault.map_eq_ok_iff.mp h
  obtain ⟨-, rfl⟩ := answer_worksheet_eq_ok_iff.mp hs
  exact ⟨hs, map_booking_sheet, rfl⟩

/-- A reconciliation fails at the first ambiguous number, and only there. -/
theorem answer_run_eq_error_iff {reportUnmatched : Bool} {fault : Fault} :
    (run v bookings documents reportUnmatched).answer = .error fault ↔
      ∃ b, bookings.find? (isAmbiguous v documents) = some b ∧
        fault = .duplicateDocumentNumber b.fullNumber
          ((bearers v documents b).map Document.filename) := by
  cases hfind : bookings.find? (isAmbiguous v documents) with
  | none =>
      rw [run_of_clear reportUnmatched (clear_of_find?_eq_none hfind)]
      simp
  | some b =>
      obtain ⟨hb, before, after, rfl, hbefore⟩ := split_of_find?_eq_some hfind
      rw [run_of_isAmbiguous reportUnmatched hbefore hb]
      simp [eq_comm]

/-- One ambiguous number anywhere in the list is enough. -/
theorem exists_duplicate_of_isAmbiguous {b : Booking} (hb : b ∈ bookings)
    (hambiguous : isAmbiguous v documents b = true) (reportUnmatched : Bool) :
    ∃ number names, (run v bookings documents reportUnmatched).answer =
      .error (.duplicateDocumentNumber number names) := by
  have hsome : (bookings.find? (isAmbiguous v documents)).isSome :=
    List.find?_isSome.mpr ⟨b, hb, hambiguous⟩
  obtain ⟨first, hfirst⟩ := Option.isSome_iff_exists.mp hsome
  exact ⟨_, _, answer_run_eq_error_iff.mpr ⟨first, hfirst, rfl⟩⟩

/-! ## A sample -/

namespace Sample

def invoice (filename number : String) : Document := ⟨filename, [], [⟨"invoice", number⟩], []⟩

/-- A bank statement of account 4 that is open at its end. -/
def bankStatement (filename : String) (year : Int) : Document :=
  ⟨filename, [], [⟨"account", "4"⟩], [⟨"statement", ⟨Date.of? year 1 1, none⟩⟩]⟩

def booking (number : String) : Booking :=
  ⟨Date.of? 14 1 5, Date.of? 14 1 5, "R", number, "", ⟨5, 0⟩, 4, 8, -1, "", "", ⟨5, 0⟩, ""⟩

/-- The number R9 is on two of these documents. -/
def shelf : List Document :=
  [invoice "a.pdf" "R1", bankStatement "b.pdf" 14, invoice "d.pdf" "R9", invoice "e.pdf" "R9"]

end Sample

end PaperTrail.Reconciliation
