import PaperTrail.Archive.Basic
import PaperTrail.Proofs.Export.Import
import PaperTrail.Proofs.Reconciliation.Worksheet

/-!
# From an export to a report

Main statement: every booking of an export is in exactly one place of the report on it.
-/

namespace PaperTrail.Archive

open Reconciliation

/-- An imported booking is matched by its number, matched by a statement, or reported as unmatched;
none is lost, none is counted twice, and each of the three parts keeps the order of the export. -/
theorem perm_of_reconcileExport {a : Archive} {text : String} {report : Report}
    (h : (a.reconcileExport text true).answer = .ok report) :
    ∃ bookings, (Export.read (.ofText text)).answer = .ok bookings ∧
      (∀ b ∈ bookings, b.isEmpty = false) ∧
      (report.matched.map Match.booking ++ report.unmatched).Perm bookings ∧
      report.matched = report.matchedBy .documentNumber ++ report.matchedBy .statement ∧
      ((report.matchedBy .documentNumber).map Match.booking).Sublist bookings ∧
      ((report.matchedBy .statement).map Match.booking).Sublist bookings ∧
      report.unmatched.Sublist bookings := by
  obtain ⟨bookings, hread, hrun⟩ := Logged.answer_bind_eq_ok_iff.mp h
  have hfull : ∀ b ∈ bookings, b.isEmpty = false := fun b ↦ Export.not_isEmpty_of_mem_read hread
  obtain ⟨-, rfl⟩ := run_ok_iff.mp hrun
  refine ⟨bookings, hread, hfull, ?_, ?_, ?_, ?_, ?_⟩
  · rw [clearReport, List.map_append, map_booking_matchesOf, map_booking_matchesOf,
      List.append_assoc]
    exact perm_parts hfull
  · rw [matchedBy_clearReport, matchedBy_clearReport]
    rfl
  · rw [matchedBy_clearReport, map_booking_matchesOf]
    exact List.filter_sublist
  · rw [matchedBy_clearReport, map_booking_matchesOf]
    exact List.filter_sublist
  · exact List.filter_sublist

/-! ## A sample -/

namespace Sample

open Reconciliation.Sample (bankStatement invoice)

def archive : Archive := { cabinet := ⟨[invoice "a.pdf" "R1", bankStatement "b.pdf" 14]⟩ }

def exported : String :=
  "K\n1.1.14;1.1.14;R;1;;5;4;8;;;;5;\n;;;;;;;;;;;;\n2.1.14;2.1.14;;;;2;6;4;;;;2;\n" ++
    "1.1.14;1.1.14;R;1;;5;4;8;;;;5;\n;;;;Fee;1;1;2;;;;1;\n"

def numbered : Booking :=
  ⟨Date.of? 14 1 1, Date.of? 14 1 1, "R", "1", "", ⟨5, 0⟩, 4, 8, -1, "", "", ⟨5, 0⟩, ""⟩

def unnumbered : Booking :=
  ⟨Date.of? 14 1 2, Date.of? 14 1 2, "", "", "", ⟨2, 0⟩, 6, 4, -1, "", "", ⟨2, 0⟩, ""⟩

def undated : Booking :=
  ⟨none, none, "", "", "Fee", ⟨1, 0⟩, 1, 2, -1, "", "", ⟨1, 0⟩, ""⟩

def report : Report where
  matched := [⟨numbered, invoice "a.pdf" "R1", .documentNumber⟩,
    ⟨numbered, invoice "a.pdf" "R1", .documentNumber⟩,
    ⟨unnumbered, bankStatement "b.pdf" 14, .statement⟩]
  unmatched := [undated]

end Sample

open Sample

set_option maxRecDepth 20000 in
/-- An export with a repeated row, a blank row and a booking for each of the three parts. -/
theorem perm_of_exported :
    (archive.reconcileExport exported true).answer = .ok report ∧
      ∃ bookings, (Export.read (.ofText exported)).answer = .ok bookings ∧
        (∀ b ∈ bookings, b.isEmpty = false) ∧
        (report.matched.map Match.booking ++ report.unmatched).Perm bookings ∧
        report.matched =
          report.matchedBy .documentNumber ++ report.matchedBy .statement ∧
        ((report.matchedBy .documentNumber).map Match.booking).Sublist bookings ∧
        ((report.matchedBy .statement).map Match.booking).Sublist bookings ∧
        report.unmatched.Sublist bookings := by
  have hread : (Export.read (.ofText exported)).answer =
      .ok [numbered, unnumbered, numbered, undated] := rfl
  have hrun : (archive.reconcile [numbered, unnumbered, numbered, undated] true).answer =
      .ok report := rfl
  have h : (archive.reconcileExport exported true).answer = .ok report :=
    Logged.answer_bind_eq_ok_iff.mpr ⟨_, hread, hrun⟩
  exact ⟨h, perm_of_reconcileExport h⟩

end PaperTrail.Archive
