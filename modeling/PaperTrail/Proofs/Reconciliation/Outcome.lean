import PaperTrail.Proofs.Reconciliation.Verdict

/-!
# The outcome of a reconciliation

Main statement: a reconciliation answers what the verdicts on the single bookings say, or gives up
at the first booking whose number is ambiguous.  Where it answers, the bookings that are not empty
fall into three parts: those with a document number on one document, those with a statement only,
and those that are left open.
-/

namespace PaperTrail.Reconciliation

variable {v : Vocabulary} {documents : List Document}

theorem matchBy?_verdict (evidence : Evidence) (b : Booking) :
    Line.matchBy? evidence ⟨b, verdict v documents b⟩ =
      (foundBy? v documents evidence b).map fun d ↦ ⟨b, d, evidence⟩ := by
  cases hfound : foundBy? v documents evidence b with
  | some d => simp [Line.matchBy?, verdict_eq_some_iff.mpr hfound]
  | none =>
      cases hverdict : verdict v documents b with
      | none => simp [Line.matchBy?]
      | some settled =>
          obtain ⟨kind, d⟩ := settled
          have hne : kind ≠ evidence := by
            rintro rfl
            rw [verdict_eq_some_iff.mp hverdict] at hfound
            cases hfound
          simp [Line.matchBy?, hne]

theorem isOpen_verdict (b : Booking) :
    Line.isOpen ⟨b, verdict v documents b⟩ = isUnmatched v documents b := by
  rw [Line.isOpen, isUnmatched, Bool.and_comm]

section Sheet

variable (v documents) (bookings : List Booking)

theorem matchesBy_sheet (evidence : Evidence) :
    (sheet v documents bookings).matchesBy evidence =
      matchesOf evidence (foundBy? v documents evidence) bookings := by
  have hmatch : Line.matchBy? evidence ∘ (fun b ↦ ⟨b, verdict v documents b⟩) =
      fun b ↦ (foundBy? v documents evidence b).map fun d ↦ ⟨b, d, evidence⟩ :=
    funext (matchBy?_verdict evidence)
  rw [Worksheet.matchesBy, sheet, List.filterMap_map, hmatch, matchesOf]

theorem openBookings_sheet :
    (sheet v documents bookings).openBookings = bookings.filter (isUnmatched v documents) := by
  have hopen : Line.isOpen ∘ (fun b ↦ ⟨b, verdict v documents b⟩) = isUnmatched v documents :=
    funext isOpen_verdict
  rw [Worksheet.openBookings, sheet, List.filter_map, List.map_map, hopen]
  exact List.map_id _

end Sheet

def reported (reportUnmatched : Bool) (unmatched : List Booking) : List Booking :=
  if reportUnmatched then unmatched else []

def clearReport (v : Vocabulary) (documents : List Document) (bookings : List Booking)
    (reportUnmatched : Bool) : Report :=
  ⟨matchesOf .documentNumber (soleBearer? v documents) bookings ++
      matchesOf .statement (statement? v documents) bookings,
    reported reportUnmatched (bookings.filter (isUnmatched v documents))⟩

/-- Without ambiguity the report is read off the two lookups, booking by booking. -/
theorem run_of_clear {bookings : List Booking} (reportUnmatched : Bool)
    (h : ∀ b ∈ bookings, isAmbiguous v documents b = false) :
    run v bookings documents reportUnmatched =
      let byNumber := matchesOf .documentNumber (soleBearer? v documents) bookings
      let byStatement := matchesOf .statement (statement? v documents) bookings
      let unmatched := bookings.filter (isUnmatched v documents)
      ⟨bookings.flatMap (numberEvents v documents) ++
          (bookings.flatMap (statementEvents v documents) ++
            ((reported reportUnmatched unmatched).map unmatchedEvent ++
              [.reconciled bookings.length documents.length byNumber.length byStatement.length
                unmatched.length])),
        .ok (clearReport v documents bookings reportUnmatched)⟩ := by
  rw [run, worksheet_of_clear h, Logged.bind_ok]
  simp only [matchesBy_sheet, openBookings_sheet, List.append_assoc]
  rfl

/-- The first ambiguous booking ends the run, and nothing behind it is looked at. -/
theorem run_of_isAmbiguous {before after : List Booking} {b : Booking} (reportUnmatched : Bool)
    (hbefore : ∀ c ∈ before, isAmbiguous v documents c = false)
    (hb : isAmbiguous v documents b = true) :
    run v (before ++ b :: after) documents reportUnmatched =
      ⟨before.flatMap (numberEvents v documents) ++
          [.numberOnSeveralFiles b.fullNumber ((bearers v documents b).map Document.filename)],
        .error (.duplicateDocumentNumber b.fullNumber
          ((bearers v documents b).map Document.filename))⟩ := by
  rw [run, worksheet_of_isAmbiguous hbefore hb, Logged.bind_error]

section Search

variable {bookings : List Booking}

theorem clear_of_find?_eq_none (h : bookings.find? (isAmbiguous v documents) = none) :
    ∀ b ∈ bookings, isAmbiguous v documents b = false := by
  intro b hb
  exact Bool.eq_false_iff.mpr (List.find?_eq_none.mp h b hb)

theorem split_of_find?_eq_some {b : Booking}
    (h : bookings.find? (isAmbiguous v documents) = some b) :
    isAmbiguous v documents b = true ∧ ∃ before after, bookings = before ++ b :: after ∧
      ∀ c ∈ before, isAmbiguous v documents c = false := by
  obtain ⟨hb, before, after, hsplit, hbefore⟩ := List.find?_eq_some_iff_append.mp h
  refine ⟨hb, before, after, hsplit, ?_⟩
  intro c hc
  simpa using hbefore c hc

/-- A reconciliation that answers has met no ambiguous number. -/
theorem clear_of_run_ok {reportUnmatched : Bool} {report : Report}
    (h : (run v bookings documents reportUnmatched).answer = .ok report) :
    ∀ b ∈ bookings, isAmbiguous v documents b = false := by
  cases hfind : bookings.find? (isAmbiguous v documents) with
  | none => exact clear_of_find?_eq_none hfind
  | some b =>
      obtain ⟨hb, before, after, rfl, hbefore⟩ := split_of_find?_eq_some hfind
      rw [run_of_isAmbiguous reportUnmatched hbefore hb] at h
      cases h

end Search

/-- A reconciliation looks at each booking for itself.  The first booking with an ambiguous number
is the answer, and without one each booking is matched by what the documents say about it. -/
theorem answer_run (v : Vocabulary) (bookings : List Booking) (documents : List Document)
    (reportUnmatched : Bool) :
    (run v bookings documents reportUnmatched).answer =
      match bookings.find? (isAmbiguous v documents) with
      | some b =>
          .error (.duplicateDocumentNumber b.fullNumber
            ((bearers v documents b).map Document.filename))
      | none =>
          .ok ⟨matchesOf .documentNumber (soleBearer? v documents) bookings ++
              matchesOf .statement (statement? v documents) bookings,
            reported reportUnmatched (bookings.filter (isUnmatched v documents))⟩ := by
  cases hfind : bookings.find? (isAmbiguous v documents) with
  | none =>
      rw [run_of_clear reportUnmatched (clear_of_find?_eq_none hfind)]
      rfl
  | some b =>
      obtain ⟨hb, before, after, rfl, hbefore⟩ := split_of_find?_eq_some hfind
      rw [run_of_isAmbiguous reportUnmatched hbefore hb]

/-! ## The parts of a report -/

theorem map_booking_matchesOf (evidence : Evidence) (found : Booking → Option Document)
    (bookings : List Booking) :
    (matchesOf evidence found bookings).map Match.booking =
      bookings.filter fun b ↦ (found b).isSome := by
  rw [matchesOf]
  induction bookings with
  | nil => rfl
  | cons b rest ih =>
      cases hfound : found b with
      | some d => simp [hfound, ih]
      | none => simp [hfound, ih]

theorem evidence_of_mem_matchesOf {evidence : Evidence} {found : Booking → Option Document}
    {bookings : List Booking} {m : Match} (h : m ∈ matchesOf evidence found bookings) :
    m.evidence = evidence := by
  obtain ⟨b, -, hm⟩ := List.mem_filterMap.mp h
  obtain ⟨d, -, rfl⟩ := Option.map_eq_some_iff.mp hm
  rfl

theorem filter_matchesOf (evidence : Evidence) (found : Booking → Option Document)
    (bookings : List Booking) :
    (matchesOf evidence found bookings).filter (fun m ↦ m.evidence == evidence) =
      matchesOf evidence found bookings := by
  apply List.filter_eq_self.mpr
  intro m hm
  exact beq_iff_eq.mpr (evidence_of_mem_matchesOf hm)

theorem filter_matchesOf_ne {evidence other : Evidence} (hne : other ≠ evidence)
    (found : Booking → Option Document) (bookings : List Booking) :
    (matchesOf other found bookings).filter (fun m ↦ m.evidence == evidence) = [] := by
  apply List.filter_eq_nil_iff.mpr
  intro m hm heq
  exact hne ((evidence_of_mem_matchesOf hm).symm.trans (beq_iff_eq.mp heq))

theorem matchedBy_clearReport (evidence : Evidence) (bookings : List Booking)
    (reportUnmatched : Bool) :
    (clearReport v documents bookings reportUnmatched).matchedBy evidence =
      matchesOf evidence (foundBy? v documents evidence) bookings := by
  rw [Report.matchedBy, clearReport, List.filter_append]
  cases evidence with
  | documentNumber =>
      rw [filter_matchesOf, filter_matchesOf_ne (by decide), List.append_nil]
      rfl
  | statement =>
      rw [filter_matchesOf, filter_matchesOf_ne (by decide), List.nil_append]
      rfl

/-- A report is given exactly when no number is ambiguous. -/
theorem run_ok_iff {bookings : List Booking} {reportUnmatched : Bool} {report : Report} :
    (run v bookings documents reportUnmatched).answer = .ok report ↔
      (∀ b ∈ bookings, isAmbiguous v documents b = false) ∧
        report = clearReport v documents bookings reportUnmatched := by
  constructor
  · intro h
    have hclear := clear_of_run_ok h
    rw [run_of_clear reportUnmatched hclear] at h
    cases h
    exact ⟨hclear, rfl⟩
  · rintro ⟨hclear, rfl⟩
    rw [run_of_clear reportUnmatched hclear]

theorem isUnmatched_of_not_isEmpty {b : Booking} (h : b.isEmpty = false) :
    (!(statement? v documents b).isSome && !(soleBearer? v documents b).isSome) =
      isUnmatched v documents b := by
  cases hsole : soleBearer? v documents b with
  | some d => simp [isUnmatched, verdict_of_some hsole]
  | none =>
      rw [isUnmatched, verdict_of_none hsole, h]
      cases statement? v documents b with
      | some d => rfl
      | none => rfl

theorem not_soleBearer?_of_statement? (b : Booking) :
    ((statement? v documents b).isSome && !(soleBearer? v documents b).isSome) =
      (statement? v documents b).isSome := by
  cases hsole : soleBearer? v documents b with
  | some d => rw [statement?_of_soleBearer? hsole]; rfl
  | none => simp

/-- Bookings that are not empty fall into the three parts of a report. -/
theorem perm_parts {bookings : List Booking} (h : ∀ b ∈ bookings, b.isEmpty = false) :
    (bookings.filter (fun b ↦ (soleBearer? v documents b).isSome) ++
      (bookings.filter (fun b ↦ (statement? v documents b).isSome) ++
        bookings.filter (isUnmatched v documents))).Perm bookings := by
  have hnumber := List.filter_append_perm (fun b ↦ (soleBearer? v documents b).isSome) bookings
  have hstatement := List.filter_append_perm (fun b ↦ (statement? v documents b).isSome)
    (bookings.filter fun b ↦ !(soleBearer? v documents b).isSome)
  rw [List.filter_filter, List.filter_filter] at hstatement
  have hunmatched : bookings.filter (fun b ↦
      !(statement? v documents b).isSome && !(soleBearer? v documents b).isSome) =
        bookings.filter (isUnmatched v documents) :=
    List.filter_congr fun b hb ↦ isUnmatched_of_not_isEmpty (h b hb)
  rw [hunmatched, funext not_soleBearer?_of_statement?] at hstatement
  exact (hstatement.append_left _).trans hnumber

end PaperTrail.Reconciliation
