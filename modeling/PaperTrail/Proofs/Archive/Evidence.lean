import PaperTrail.Archive.Command
import PaperTrail.Proofs.Reconciliation.Growth
import PaperTrail.Proofs.Tag.Reading

/-!
# Annotations and evidence

Main statement: an annotation that goes through takes no evidence away.  It can make a number
ambiguous; apart from that, bookings that were matched stay matched, and those that were matched
by their number stay so with the same file.
-/

namespace PaperTrail.Archive

open Reconciliation

/-- Saving a document lets a list grow if the document has grown from the one it replaces. -/
theorem grown_replaceFirst {d : Document} {ds : List Document}
    (h : ∀ e, ds.find? (fun x ↦ x.filename == d.filename) = some e → e.GrowsInto d) :
    Grown ds (Cabinet.replaceFirst d ds) := by
  induction ds with
  | nil => exact .nil
  | cons e rest ih =>
      by_cases he : e.filename = d.filename
      · rw [Cabinet.replaceFirst, if_pos he]
        exact .cons (h e (List.find?_cons_of_pos (beq_iff_eq.mpr he))) (grown_refl rest)
      · rw [Cabinet.replaceFirst, if_neg he]
        refine .cons (.refl e) (ih ?_)
        intro x hx
        apply h x
        rw [List.find?_cons_of_neg (by simpa using he)]
        exact hx

/-- A granted annotation lets one record grow, or puts a new one behind the others. -/
theorem grown_annotate {a : Archive} {filename : String} {spelled : List String} {d : Document}
    (h : (a.annotate filename spelled).2.answer = .ok d) :
    Grown a.documents (a.annotate filename spelled).1.documents := by
  rw [annotate_of_ok h]
  obtain ⟨tags, -, -, rfl⟩ := answer_annotate_eq_ok_iff.mp h
  apply grown_replaceFirst
  intro e he
  rw [filename_revised] at he
  have hget : a.get? filename = some e := he
  rw [revised, hget]
  exact .append e tags

/-- An annotation loses no evidence: an ambiguous number keeps a reconciliation from answering as
before, and where there is an answer before and after, each place in the list of bookings keeps
what it had. -/
theorem keeps_evidence_annotate {a : Archive} {filename : String} {spelled : List String}
    {d : Document} (h : (a.annotate filename spelled).2.answer = .ok d)
    (bookings : List Booking) :
    let later := (a.annotate filename spelled).1
    (∀ number names,
        (a.reconcile bookings true).answer = .error (.duplicateDocumentNumber number names) →
          ∃ number' names', (later.reconcile bookings true).answer =
            .error (.duplicateDocumentNumber number' names')) ∧
      ∀ report report', (a.reconcile bookings true).answer = .ok report →
        (later.reconcile bookings true).answer = .ok report' →
          ∃ sheet sheet',
            ReadOff a.settings.vocabulary a.documents bookings true report sheet ∧
              ReadOff later.settings.vocabulary later.documents bookings true report' sheet' ∧
                List.Forall₂ Line.Keeps sheet sheet' ∧
                  report'.unmatched.Sublist report.unmatched := by
  intro later
  have hgrown : Grown a.documents later.documents := grown_annotate h
  have hsettings : later.settings = a.settings :=
    (rules_apply a (.annotate filename spelled)).1
  constructor
  · intro number names hbefore
    obtain ⟨b, hfind, -⟩ := answer_run_eq_error_iff.mp hbefore
    have hb := isAmbiguous_of_grown hgrown (List.find?_some hfind)
    rw [← hsettings] at hb
    exact exists_duplicate_of_isAmbiguous (List.mem_of_find?_eq_some hfind) hb true
  · intro report report' hbefore hafter
    have hsheet := readOff_sheet hbefore
    have hsheet' := readOff_sheet hafter
    obtain ⟨hclear, -⟩ := answer_worksheet_eq_ok_iff.mp hsheet'.settled
    rw [hsettings] at hclear
    refine ⟨_, _, hsheet, hsheet', ?_, ?_⟩
    · rw [hsettings]
      exact sheet_keeps hgrown hclear
    · rw [hsheet.report_eq, hsheet'.report_eq, hsettings]
      exact openBookings_grown hgrown hclear

open Sample in
/-- An invoice number that is noted on a file turns a match by statement into one by number. -/
theorem keeps_evidence_annotate_invoice :
    let archive : Archive := { cabinet := ⟨shelf⟩ }
    let annotated := archive.annotate "c.pdf" ["invoice:R2"]
    let later := annotated.1
    let bookings := [booking "2", booking "1"]
    let byNumber : Match := ⟨booking "1", invoice "a.pdf" "R1", .documentNumber⟩
    let report : Report := ⟨[byNumber, ⟨booking "2", bankStatement "b.pdf" 14, .statement⟩], []⟩
    let report' : Report := ⟨[⟨booking "2", invoice "c.pdf" "R2", .documentNumber⟩, byNumber], []⟩
    annotated.2.answer = .ok (invoice "c.pdf" "R2") ∧
      (archive.reconcile [booking "9"] true).answer =
        .error (.duplicateDocumentNumber "R9" ["d.pdf", "e.pdf"]) ∧
      (∃ number names, (later.reconcile [booking "9"] true).answer =
        .error (.duplicateDocumentNumber number names)) ∧
      (archive.reconcile bookings true).answer = .ok report ∧
      (later.reconcile bookings true).answer = .ok report' ∧
      ∃ sheet sheet',
        ReadOff archive.settings.vocabulary archive.documents bookings true report sheet ∧
          ReadOff later.settings.vocabulary later.documents bookings true report' sheet' ∧
            List.Forall₂ Line.Keeps sheet sheet' ∧
              report'.unmatched.Sublist report.unmatched := by
  intro archive annotated later bookings byNumber report report'
  have hsplit : archive.settings.separators.splitKey "invoice:R2" =
      some ("invoice".toList, "R2".toList) := by decide
  have hread : archive.settings.separators.readAll ["invoice:R2"] =
      .ok [.value ⟨"invoice", "R2"⟩] := by
    rw [Separators.readAll_cons,
      Separators.read_of_no_rangeMark hsplit (by decide) (by decide)]
    rfl
  have hannotated : annotated.2.answer = .ok (invoice "c.pdf" "R2") :=
    answer_annotate_eq_ok_iff.mpr ⟨_, hread, rfl, rfl⟩
  have hduplicate : (archive.reconcile [booking "9"] true).answer =
      .error (.duplicateDocumentNumber "R9" ["d.pdf", "e.pdf"]) := rfl
  have hbefore : (archive.reconcile bookings true).answer = .ok report := rfl
  have hlater : later = { archive with cabinet := ⟨shelf ++ [invoice "c.pdf" "R2"]⟩ } :=
    annotate_of_ok hannotated
  have hafter : (later.reconcile bookings true).answer = .ok report' := by
    rw [hlater]
    rfl
  exact ⟨hannotated, hduplicate,
    (keeps_evidence_annotate hannotated [booking "9"]).1 _ _ hduplicate, hbefore, hafter,
    (keeps_evidence_annotate hannotated bookings).2 _ _ hbefore hafter⟩

end PaperTrail.Archive
