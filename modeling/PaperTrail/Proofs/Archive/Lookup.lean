import PaperTrail.Archive.Basic
import PaperTrail.Proofs.Reconciliation.Worksheet

/-!
# Looking up single bookings

Main statement: asking the archive for the documents of one booking, by its number and by its
date and accounts, gives what a reconciliation finds for this booking among others.
-/

namespace PaperTrail.Archive

open Reconciliation

/-- The lookup of a booking by its number finds its bearers. -/
theorem findByNumber_of_splitNumber (a : Archive) {b : Booking} {parts : String × String}
    (h : Booking.splitNumber b.fullNumber = .ok parts) :
    a.findByNumber b.fullNumber = .ok (bearers a.settings.vocabulary a.documents b) := by
  obtain ⟨letters, figures⟩ := parts
  have happend : letters ++ figures = b.fullNumber := Booking.append_of_splitNumber h
  rw [findByNumber, h]
  simp only [bind, Except.bind, happend, find, search_numberQuery]
  rfl

theorem isNumbered_of_splitNumber {b : Booking} {parts : String × String}
    (hempty : b.isEmpty = false) (h : Booking.splitNumber b.fullNumber = .ok parts) :
    isNumbered b = true := by
  simp [isNumbered, hempty, Booking.ne_empty_of_splitNumber h]

theorem head?_statements_eq_some_iff {a : Archive} {b : Booking} {d : Document} :
    (statements a.settings.vocabulary a.documents b).head? = some d ↔
      ∃ day, b.documentDate = some day ∧
        (a.findForStatement day b.debitAccount b.creditAccount).head? = some d := by
  unfold statements
  cases b.documentDate with
  | none => simp
  | some day => simp [findForStatement]

/-- The line of a worksheet says of its booking what the lookups of the archive say, where
`borne` are the documents found by its number. -/
structure AgreesOn (a : Archive) (b : Booking) (borne : List Document) (report : Report)
    (line : Line) : Prop where
  booking : line.booking = b
  unambiguous : borne.length ≤ 1
  numbered : ∀ d, line.found = some (.documentNumber, d) ↔ borne = [d]
  stated : borne = [] → ∀ d, line.found = some (.statement, d) ↔
    ∃ day, b.documentDate = some day ∧
      (a.findForStatement day b.debitAccount b.creditAccount).head? = some d
  unmatched : b ∈ report.unmatched ↔ line.found = none

theorem agreesOn_verdict {a : Archive} {bookings : List Booking} {b : Booking} {report : Report}
    (hb : b ∈ bookings) (hempty : b.isEmpty = false) (hnumbered : isNumbered b = true)
    (h : (a.reconcile bookings true).answer = .ok report) :
    a.AgreesOn b (bearers a.settings.vocabulary a.documents b) report
      ⟨b, verdict a.settings.vocabulary a.documents b⟩ := by
  obtain ⟨hclear, rfl⟩ := run_ok_iff.mp h
  refine ⟨rfl, ?_, ?_, ?_, ?_⟩
  · have hfew := hclear b hb
    rw [isAmbiguous, hnumbered, Bool.true_and, decide_eq_false_iff_not] at hfew
    omega
  · intro d
    rw [verdict_eq_some_iff, foundBy?, soleBearer?_eq_some_iff]
    exact and_iff_right hnumbered
  · intro hnil d
    rw [verdict_eq_some_iff, foundBy?, statement?_eq_some_iff, head?_statements_eq_some_iff]
    simp only [hempty, soleBearer?_of_nil hnil, true_and]
  · show b ∈ bookings.filter _ ↔ _
    rw [List.mem_filter, isUnmatched, hempty]
    simp [hb]

/-- Lookups and reconciliation agree.  For a booking whose number can be looked up, the lookup
succeeds, and what it finds decides what a reconciliation says at the place of this booking. -/
theorem findByNumber_agreesOn {a : Archive} {bookings : List Booking} {i : Nat} {b : Booking}
    {parts : String × String} (hi : bookings[i]? = some b) (hempty : b.isEmpty = false)
    (hsplit : Booking.splitNumber b.fullNumber = .ok parts) :
    ∃ borne, a.findByNumber b.fullNumber = .ok borne ∧
      (∀ report, (a.reconcile bookings true).answer = .ok report →
        ∃ sheet line,
          ReadOff a.settings.vocabulary a.documents bookings true report sheet ∧
            sheet[i]? = some line ∧ a.AgreesOn b borne report line) ∧
      (2 ≤ borne.length →
        (∃ number names, (a.reconcile bookings true).answer =
            .error (.duplicateDocumentNumber number names)) ∧
          (a.reconcile [b] true).answer =
            .error (.duplicateDocumentNumber b.fullNumber (borne.map Document.filename))) := by
  have hb : b ∈ bookings := List.mem_of_getElem? hi
  have hnumbered := isNumbered_of_splitNumber hempty hsplit
  refine ⟨_, a.findByNumber_of_splitNumber hsplit, ?_, ?_⟩
  · intro report hreport
    refine ⟨_, _, readOff_sheet hreport, ?_, agreesOn_verdict hb hempty hnumbered hreport⟩
    rw [sheet, List.getElem?_map, hi]
    rfl
  · intro htwo
    have hambiguous : isAmbiguous a.settings.vocabulary a.documents b = true := by
      simp [isAmbiguous, hnumbered, htwo]
    refine ⟨exists_duplicate_of_isAmbiguous hb hambiguous true, ?_⟩
    exact answer_run_eq_error_iff.mpr ⟨b, List.find?_cons_of_pos hambiguous, rfl⟩

open Sample in
theorem findByNumber_agreesOn_sample :
    let archive : Archive := { cabinet := ⟨shelf⟩ }
    let bookings := [booking "2", booking "1"]
    let report : Report := ⟨[⟨booking "1", invoice "a.pdf" "R1", .documentNumber⟩,
      ⟨booking "2", bankStatement "b.pdf" 14, .statement⟩], []⟩
    Booking.splitNumber (booking "2").fullNumber = .ok ("R", "2") ∧
      (archive.reconcile bookings true).answer = .ok report ∧
      (∃ borne, archive.findByNumber (booking "2").fullNumber = .ok borne ∧
        ∃ sheet line,
          ReadOff archive.settings.vocabulary archive.documents bookings true report sheet ∧
            sheet[0]? = some line ∧ archive.AgreesOn (booking "2") borne report line) ∧
      ∃ borne, archive.findByNumber (booking "9").fullNumber = .ok borne ∧ 2 ≤ borne.length ∧
        (archive.reconcile [booking "9"] true).answer =
          .error (.duplicateDocumentNumber (booking "9").fullNumber
            (borne.map Document.filename)) := by
  intro archive bookings report
  have hplace : bookings[0]? = some (booking "2") := rfl
  have hsplit : Booking.splitNumber (booking "2").fullNumber = .ok ("R", "2") := rfl
  have hreport : (archive.reconcile bookings true).answer = .ok report := rfl
  obtain ⟨borne, hborne, hagrees, -⟩ := findByNumber_agreesOn (a := archive) hplace rfl hsplit
  have hplace' : [booking "9"][0]? = some (booking "9") := rfl
  have hsplit' : Booking.splitNumber (booking "9").fullNumber = .ok ("R", "9") := rfl
  have hfound : archive.findByNumber (booking "9").fullNumber =
      .ok [invoice "d.pdf" "R9", invoice "e.pdf" "R9"] := rfl
  obtain ⟨several, hseveral, -, hfails⟩ := findByNumber_agreesOn (a := archive) hplace' rfl hsplit'
  have hlength : 2 ≤ several.length := by
    rw [← Except.ok.inj (hfound.symm.trans hseveral)]
    decide
  exact ⟨hsplit, hreport, ⟨borne, hborne, hagrees report hreport⟩,
    several, hseveral, hlength, (hfails hlength).2⟩

end PaperTrail.Archive
