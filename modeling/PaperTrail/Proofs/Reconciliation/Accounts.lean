import PaperTrail.Proofs.Booking.Spacing
import PaperTrail.Proofs.Document.Statements
import PaperTrail.Proofs.Reconciliation.Order

/-!
# Accounts that a row leaves blank

An account that a row leaves blank is kept as the number `unset`, and a search for statements
cannot tell it from an account.  Main statement: the statements for the booking of a row are those
that name an account from the row, and where the row leaves an account blank, those that name
`unset` as well.  As long as no document names `unset`, a blank account is never evidence.
-/

namespace PaperTrail

open Text

namespace Booking

def accountColumns : List Column := [.debitAccount, .creditAccount]

def Leaves (fields : List String) (column : Column) : Prop :=
  allBlank (cell fields column.index) = true

instance (fields : List String) : DecidablePred (Leaves fields) :=
  fun column ↦ inferInstanceAs (Decidable (allBlank (cell fields column.index) = true))

def givenAccounts (fields : List String) : List Int :=
  (accountColumns.filter fun column ↦ ¬ Leaves fields column).filterMap fun column ↦
    code? (cell fields column.index)

theorem statesCode_of_allBlank {raw : String} (h : allBlank raw = true) : StatesCode raw unset :=
  ⟨[], trim_eq_iff.mp (allBlank_eq_true_iff.mp h), Or.inl ⟨rfl, rfl⟩⟩

theorem mem_givenAccounts_iff {fields : List String} {account : Int} :
    account ∈ givenAccounts fields ↔
      ∃ column ∈ accountColumns, ¬ Leaves fields column ∧
        StatesCode (cell fields column.index) account := by
  simp only [givenAccounts, List.mem_filterMap, List.mem_filter, decide_eq_true_eq, and_assoc,
    code?_eq_some_iff]

theorem givenAccounts_eq_nil {fields : List String}
    (h : ∀ column ∈ accountColumns, Leaves fields column) : givenAccounts fields = [] := by
  refine List.eq_nil_iff_forall_not_mem.mpr fun account haccount ↦ ?_
  obtain ⟨column, hcolumn, hfilled, -⟩ := mem_givenAccounts_iff.mp haccount
  exact hfilled (h column hcolumn)

theorem exists_mem_accountColumns_iff {P : Column → Prop} :
    (∃ column ∈ accountColumns, P column) ↔ P .debitAccount ∨ P .creditAccount := by
  simp [accountColumns]

/-- A blank account is read as the number that stands for none. -/
theorem eq_unset_of_leaves {fields : List String} {column : Column} {account : Int}
    (h : Leaves fields column) (hread : StatesCode (cell fields column.index) account) :
    account = unset :=
  hread.unique (statesCode_of_allBlank h)

namespace ReadFrom

variable {fields : List String} {b : Booking} (h : b.ReadFrom fields) {P : Int → Prop}
include h

theorem exists_mem_givenAccounts_iff :
    (∃ account ∈ givenAccounts fields, P account) ↔
      ¬ Leaves fields .debitAccount ∧ P b.debitAccount ∨
        ¬ Leaves fields .creditAccount ∧ P b.creditAccount := by
  have hdebit : ∀ account,
      StatesCode (cell fields Column.debitAccount.index) account ↔ account = b.debitAccount :=
    fun _ ↦ ⟨fun hcode ↦ hcode.unique h.debitAccount, fun heq ↦ heq ▸ h.debitAccount⟩
  have hcredit : ∀ account,
      StatesCode (cell fields Column.creditAccount.index) account ↔ account = b.creditAccount :=
    fun _ ↦ ⟨fun hcode ↦ hcode.unique h.creditAccount, fun heq ↦ heq ▸ h.creditAccount⟩
  simp [mem_givenAccounts_iff, exists_mem_accountColumns_iff, hdebit, hcredit, or_and_right,
    exists_or, and_assoc]

/-- What holds of an account of the booking holds of one from the row, or of the number that stands
for a blank one. -/
theorem account_iff :
    P b.debitAccount ∨ P b.creditAccount ↔
      (∃ account ∈ givenAccounts fields, P account) ∨
        (∃ column ∈ accountColumns, Leaves fields column) ∧ P unset := by
  have hdebit : Leaves fields .debitAccount → b.debitAccount = unset :=
    fun hleft ↦ eq_unset_of_leaves hleft h.debitAccount
  have hcredit : Leaves fields .creditAccount → b.creditAccount = unset :=
    fun hleft ↦ eq_unset_of_leaves hleft h.creditAccount
  rw [h.exists_mem_givenAccounts_iff, exists_mem_accountColumns_iff]
  constructor
  · rintro (hP | hP)
    · by_cases hleft : Leaves fields .debitAccount
      · exact .inr ⟨.inl hleft, hdebit hleft ▸ hP⟩
      · exact .inl (.inl ⟨hleft, hP⟩)
    · by_cases hleft : Leaves fields .creditAccount
      · exact .inr ⟨.inr hleft, hcredit hleft ▸ hP⟩
      · exact .inl (.inr ⟨hleft, hP⟩)
  · rintro ((⟨-, hP⟩ | ⟨-, hP⟩) | ⟨hleft | hleft, hP⟩)
    · exact .inl hP
    · exact .inr hP
    · exact .inl ((hdebit hleft).symm ▸ hP)
    · exact .inr ((hcredit hleft).symm ▸ hP)

end ReadFrom

end Booking

namespace Reconciliation

open Booking

section Statements

variable {fields : List String} {b : Booking} (h : b.ReadFrom fields) (v : Vocabulary)
  (documents : List Document)
include h

/-- A blank account is searched for like any other, by the text of its number. -/
theorem searchStatements_of_readFrom (day : Date) :
    searchStatements v documents day b.debitAccount b.creditAccount =
      documents.filter (fun d ↦ d.SpansDay v day ∧
        ((∃ account ∈ givenAccounts fields, d.Names v account) ∨
          (∃ column ∈ accountColumns, Leaves fields column) ∧ d.Names v unset)) := by
  rw [searchStatements_eq]
  apply List.filter_congr
  intro d _
  rw [Bool.eq_iff_iff, decide_eq_true_eq, decide_eq_true_eq,
    h.account_iff (P := fun account ↦ d.Names v account)]

theorem searchStatements_of_forall_not_names (hunset : ∀ d ∈ documents, ¬ d.Names v unset)
    (day : Date) :
    searchStatements v documents day b.debitAccount b.creditAccount =
      documents.filter (fun d ↦ d.SpansDay v day ∧
        ∃ account ∈ givenAccounts fields, d.Names v account) := by
  rw [searchStatements_of_readFrom h]
  apply List.filter_congr
  intro d hd
  simp [hunset d hd]

end Statements

theorem isStatement_of_mem_matchedBy {v : Vocabulary} {bookings : List Booking}
    {documents : List Document} {reportUnmatched : Bool} {report : Report}
    (h : (run v bookings documents reportUnmatched).answer = .ok report) {m : Match}
    (hm : m ∈ report.matchedBy .statement) : IsStatement v documents m := by
  obtain ⟨-, rfl⟩ := run_ok_iff.mp h
  rw [matchedBy_clearReport] at hm
  exact isStatement_of_mem hm

/-- The statements for a row name an account that it gives, or `unset` in the place of one that it
leaves blank.  Where no document names `unset`, the blank accounts of a row are no evidence. -/
theorem statements_of_row {fields : List String} {b : Booking} (h : ofFields fields = .ok b)
    (v : Vocabulary) (documents : List Document) :
    (∀ day, searchStatements v documents day b.debitAccount b.creditAccount =
      documents.filter (fun d ↦ d.SpansDay v day ∧
        ((∃ account ∈ givenAccounts fields, d.Names v account) ∨
          (∃ column ∈ accountColumns, Leaves fields column) ∧ d.Names v unset))) ∧
    (∀ bookings reportUnmatched report,
      (run v bookings documents reportUnmatched).answer = .ok report →
        ∀ m ∈ report.matchedBy .statement, m.booking = b →
          (∃ day, b.documentDate = some day ∧ m.document.SpansDay v day) ∧
            ((∃ account ∈ givenAccounts fields, m.document.Names v account) ∨
              (∃ column ∈ accountColumns, Leaves fields column) ∧ m.document.Names v unset)) ∧
    ((∀ d ∈ documents, ¬ d.Names v unset) →
      (∀ day, searchStatements v documents day b.debitAccount b.creditAccount =
        documents.filter (fun d ↦ d.SpansDay v day ∧
          ∃ account ∈ givenAccounts fields, d.Names v account)) ∧
      ((∀ column ∈ accountColumns, Leaves fields column) →
        ∀ bookings reportUnmatched report,
          (run v bookings documents reportUnmatched).answer = .ok report →
            ∀ m ∈ report.matchedBy .statement, m.booking ≠ b)) := by
  have hread : b.ReadFrom fields := ReadFrom.of_eq_ok h
  refine ⟨searchStatements_of_readFrom hread v documents, ?_, fun hunset ↦
    ⟨searchStatements_of_forall_not_names hread v documents hunset, ?_⟩⟩
  · rintro bookings reportUnmatched report hrun m hm rfl
    obtain ⟨day, hday, hmem⟩ := isStatement_of_mem_matchedBy hrun hm
    rw [searchStatements_of_readFrom hread, List.mem_filter, decide_eq_true_eq] at hmem
    exact ⟨⟨day, hday, hmem.2.1⟩, hmem.2.2⟩
  · rintro hblank bookings reportUnmatched report hrun m hm rfl
    obtain ⟨day, -, hmem⟩ := isStatement_of_mem_matchedBy hrun hm
    rw [searchStatements_of_forall_not_names hread v documents hunset, givenAccounts_eq_nil hblank,
      List.mem_filter, decide_eq_true_eq] at hmem
    obtain ⟨-, -, account, haccount, -⟩ := hmem
    cases haccount

/-! ## A sample -/

namespace Sample

def statementOf (filename account : String) : Document :=
  ⟨filename, [], [⟨"account", account⟩], [⟨"statement", ⟨Date.of? 14 1 1, none⟩⟩]⟩

/-- The credit account is left blank. -/
def row (debit : String) : List String :=
  ["5.1.14", "5.1.14", "", "", "", "5", debit, "", "", "", "", "5", ""]

def halfBooking (debit : Int) : Booking :=
  ⟨Date.of? 14 1 5, Date.of? 14 1 5, "", "", "", ⟨5, 0⟩, debit, unset, unset, "", "", ⟨5, 0⟩, ""⟩

end Sample

open Sample in
/-- A blank account matches nothing where no record goes by the number that stands for it. -/
theorem statements_of_row_half :
    let documents := [bankStatement "a.pdf" 14, statementOf "b.pdf" "40"]
    let day : Date := ⟨14, 1, 5, by decide⟩
    let report : Report := ⟨[⟨halfBooking 4, bankStatement "a.pdf" 14, .statement⟩], []⟩
    ofFields (row "4") = .ok (halfBooking 4) ∧ ofFields (row " ") = .ok (halfBooking unset) ∧
      searchStatements {} documents day 4 unset = [bankStatement "a.pdf" 14] ∧
        (run {} [halfBooking 4, halfBooking unset] documents false).answer = .ok report ∧
          ∀ m ∈ report.matchedBy .statement, m.booking ≠ halfBooking unset := by
  intro documents day report
  have hhalf : ofFields (row "4") = .ok (halfBooking 4) := rfl
  have hblank : ofFields (row " ") = .ok (halfBooking unset) := rfl
  have hrun : (run {} [halfBooking 4, halfBooking unset] documents false).answer = .ok report :=
    rfl
  have hunset : ∀ d ∈ documents, ¬ d.Names {} unset := by decide
  refine ⟨hhalf, hblank, ?_, hrun, ?_⟩
  · have hfilter := ((statements_of_row hhalf {} documents).2.2 hunset).1 day
    exact hfilter.trans (by decide)
  · exact ((statements_of_row hblank {} documents).2.2 hunset).2 (by decide) _ _ _ hrun

open Sample in
/-- A document that names `unset` is a statement for a booking that has no account. -/
theorem statement_for_blank_accounts :
    ofFields (row "") = .ok (halfBooking unset) ∧
      (∀ column ∈ accountColumns, Leaves (row "") column) ∧
        (run {} [halfBooking unset] [statementOf "a.pdf" "-1"] false).answer =
          .ok ⟨[⟨halfBooking unset, statementOf "a.pdf" "-1", .statement⟩], []⟩ :=
  ⟨rfl, by decide, rfl⟩

end Reconciliation

end PaperTrail
