import PaperTrail.Proofs.Reconciliation.Worksheet

/-!
# The order of the documents

Main statement: the order in which the documents are kept only decides which statement is taken
where several fit, and in which order the documents with an ambiguous number are named.
-/

namespace PaperTrail.Reconciliation

def IsStatement (v : Vocabulary) (documents : List Document) (m : Match) : Prop :=
  ∃ day, m.booking.documentDate = some day ∧
    m.document ∈ searchStatements v documents day m.booking.debitAccount m.booking.creditAccount

/-- Two answers that differ at most in the choice among statements for a booking and in the order
of filenames. -/
inductive SameButForTies (v : Vocabulary) (documents : List Document) :
    Except Fault Report → Except Fault Report → Prop
  | answered {r s : Report}
      (numbered : r.matchedBy .documentNumber = s.matchedBy .documentNumber)
      (stated : (r.matchedBy .statement).map Match.booking =
        (s.matchedBy .statement).map Match.booking)
      (fitting : ∀ m ∈ r.matchedBy .statement, IsStatement v documents m)
      (fitting' : ∀ m ∈ s.matchedBy .statement, IsStatement v documents m)
      (unmatched : r.unmatched = s.unmatched) :
      SameButForTies v documents (.ok r) (.ok s)
  | ambiguous {number : String} {names names' : List String} (perm : names.Perm names') :
      SameButForTies v documents (.error (.duplicateDocumentNumber number names))
        (.error (.duplicateDocumentNumber number names'))

section Perm

variable {documents others : List Document} (hperm : documents.Perm others) (v : Vocabulary)
include hperm

theorem bearers_perm (b : Booking) : (bearers v documents b).Perm (bearers v others b) :=
  hperm.filter _

theorem statements_perm (b : Booking) :
    (statements v documents b).Perm (statements v others b) := by
  unfold statements
  cases b.documentDate with
  | none => exact List.Perm.nil
  | some day => exact hperm.filter _

theorem isAmbiguous_perm : isAmbiguous v documents = isAmbiguous v others := by
  funext b
  rw [isAmbiguous, (bearers_perm hperm v b).length_eq, isAmbiguous]

/-- Where only one document bears the number, no order is left to it. -/
theorem soleBearer?_perm : soleBearer? v documents = soleBearer? v others := by
  funext b
  ext d
  have hbearers : bearers v documents b = [d] ↔ bearers v others b = [d] := by
    constructor
    · intro h
      exact List.perm_singleton.mp (h ▸ (bearers_perm hperm v b).symm)
    · intro h
      exact List.perm_singleton.mp (h ▸ bearers_perm hperm v b)
  rw [soleBearer?_eq_some_iff, hbearers, ← soleBearer?_eq_some_iff]

theorem isSome_statement?_perm (b : Booking) :
    (statement? v documents b).isSome = (statement? v others b).isSome := by
  rw [Bool.eq_iff_iff, isSome_statement?_iff, isSome_statement?_iff, soleBearer?_perm hperm,
    ← List.length_pos_iff, (statements_perm hperm v b).length_eq, List.length_pos_iff]

/-- Which bookings stay unmatched does not depend on the order of the documents. -/
theorem isUnmatched_perm : isUnmatched v documents = isUnmatched v others := by
  funext b
  have hnone : statement? v documents b = none ↔ statement? v others b = none := by
    rw [← Option.not_isSome_iff_eq_none, isSome_statement?_perm hperm,
      Option.not_isSome_iff_eq_none]
  rw [Bool.eq_iff_iff, isUnmatched_eq_true_iff, isUnmatched_eq_true_iff, soleBearer?_perm hperm,
    hnone]

end Perm

theorem isStatement_of_mem {v : Vocabulary} {documents : List Document} {bookings : List Booking}
    {m : Match} (h : m ∈ matchesOf .statement (statement? v documents) bookings) :
    IsStatement v documents m := by
  obtain ⟨b, -, hm⟩ := List.mem_filterMap.mp h
  obtain ⟨d, hd, rfl⟩ := Option.map_eq_some_iff.mp hm
  obtain ⟨-, -, hhead⟩ := statement?_eq_some_iff.mp hd
  exact mem_statements_iff.mp (List.mem_of_mem_head? hhead)

theorem IsStatement.perm {v : Vocabulary} {documents others : List Document} {m : Match}
    (h : IsStatement v others m) (hperm : documents.Perm others) : IsStatement v documents m := by
  obtain ⟨day, hday, hmem⟩ := h
  exact ⟨day, hday, (hperm.filter _).mem_iff.mpr hmem⟩

/-- Putting the documents in another order changes an answer at most in its ties. -/
theorem sameButForTies_run {documents others : List Document} (hperm : documents.Perm others)
    (v : Vocabulary) (bookings : List Booking) (reportUnmatched : Bool) :
    SameButForTies v documents (run v bookings documents reportUnmatched).answer
      (run v bookings others reportUnmatched).answer := by
  -- ambiguity does not depend on the order, so both runs stop at the same booking or at none
  cases hfind : bookings.find? (isAmbiguous v documents) with
  | some b =>
      rw [answer_run_eq_error_iff.mpr ⟨b, hfind, rfl⟩]
      rw [isAmbiguous_perm hperm] at hfind
      rw [answer_run_eq_error_iff.mpr ⟨b, hfind, rfl⟩]
      exact .ambiguous ((bearers_perm hperm v b).map Document.filename)
  | none =>
      have hclear := clear_of_find?_eq_none hfind
      have hclear' := hclear
      rw [isAmbiguous_perm hperm] at hclear'
      rw [run_ok_iff.mpr ⟨hclear, rfl⟩, run_ok_iff.mpr ⟨hclear', rfl⟩]
      refine .answered ?_ ?_ ?_ ?_ ?_
      · rw [matchedBy_clearReport, matchedBy_clearReport, foundBy?, foundBy?,
          soleBearer?_perm hperm]
      · rw [matchedBy_clearReport, matchedBy_clearReport, map_booking_matchesOf,
          map_booking_matchesOf]
        exact List.filter_congr fun b _ ↦ isSome_statement?_perm hperm v b
      · intro m hm
        rw [matchedBy_clearReport] at hm
        exact isStatement_of_mem hm
      · intro m hm
        rw [matchedBy_clearReport] at hm
        exact (isStatement_of_mem hm).perm hperm
      · rw [clearReport, clearReport, isUnmatched_perm hperm]

open Sample in
/-- Two statements for one booking: the order decides which of them is named, and nothing else. -/
theorem sameButForTies_swapped :
    let documents := [bankStatement "b.pdf" 14, invoice "a.pdf" "R1", bankStatement "c.pdf" 13]
    let others := [bankStatement "c.pdf" 13, invoice "a.pdf" "R1", bankStatement "b.pdf" 14]
    let bookings := [booking "2", booking "1"]
    let report (d : Document) : Report :=
      ⟨[⟨booking "1", invoice "a.pdf" "R1", .documentNumber⟩, ⟨booking "2", d, .statement⟩], []⟩
    documents.Perm others ∧
      (run {} bookings documents true).answer = .ok (report (bankStatement "b.pdf" 14)) ∧
        (run {} bookings others true).answer = .ok (report (bankStatement "c.pdf" 13)) ∧
          SameButForTies {} documents (run {} bookings documents true).answer
            (run {} bookings others true).answer := by
  intro documents others bookings report
  have hperm : documents.Perm others := by decide
  exact ⟨hperm, rfl, rfl, sameButForTies_run hperm {} bookings true⟩

end PaperTrail.Reconciliation
