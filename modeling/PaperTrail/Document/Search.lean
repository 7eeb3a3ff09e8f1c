import PaperTrail.Document.Basic
import PaperTrail.Numeral

/-!
# Searching documents

A query is itself a document: it asks for its filename, unless that is empty, and for all its
tags.  A bank statement is recognised by a period that covers a day together with the number of
one of two accounts.
-/

namespace PaperTrail

/-- The keys that give tags their meaning in bookkeeping. -/
structure Vocabulary where
  invoiceNumber : String := "invoice"
  statementPeriod : String := "statement"
  accountNumber : String := "account"
deriving DecidableEq

namespace Document

def satisfies (d query : Document) : Bool :=
  (query.filename == "" || d.filename == query.filename) &&
    query.labels.all d.labels.contains &&
      query.values.all d.values.contains &&
        query.periods.all d.periods.contains

def coversDay (v : Vocabulary) (d : Document) (day : Date) : Bool :=
  d.periods.any fun tag ↦ tag.key == v.statementPeriod && tag.period.covers day

def namesAccount (v : Vocabulary) (d : Document) (debit credit : Int) : Bool :=
  (d.valuesOf v.accountNumber).any fun number ↦
    number == Numeral.text debit || number == Numeral.text credit

def isStatementFor (v : Vocabulary) (d : Document) (day : Date) (debit credit : Int) : Bool :=
  d.coversDay v day && d.namesAccount v debit credit

/-- Asks for documents of any name that carry the document number. -/
def numberQuery (v : Vocabulary) (number : String) : Document :=
  ofTags "" [.value ⟨v.invoiceNumber, number⟩]

end Document

def search (documents : List Document) (query : Document) : List Document :=
  documents.filter fun d ↦ d.satisfies query

def searchStatements (v : Vocabulary) (documents : List Document) (day : Date)
    (debit credit : Int) : List Document :=
  documents.filter fun d ↦ d.isStatementFor v day debit credit

/-- Each list of the query is within the list of the same kind. -/
theorem Document.satisfies_iff_subset {d query : Document} :
    d.satisfies query = true ↔
      (query.filename = "" ∨ d.filename = query.filename) ∧ query.labels ⊆ d.labels ∧
        query.values ⊆ d.values ∧ query.periods ⊆ d.periods := by
  simp only [satisfies, Bool.and_eq_true, Bool.or_eq_true, beq_iff_eq, List.all_eq_true,
    List.contains_iff_mem, and_assoc]
  rfl

/-- Every tag of the query is to be found in the record, a tag of its own kind. -/
theorem Document.satisfies_iff {d query : Document} :
    d.satisfies query = true ↔
      (query.filename = "" ∨ d.filename = query.filename) ∧ ∀ tag ∈ query.tags, tag ∈ d.tags := by
  rw [satisfies_iff_subset]
  constructor
  · rintro ⟨hname, hlabels, hvalues, hperiods⟩
    refine ⟨hname, fun tag htag ↦ ?_⟩
    cases tag with
    | label name => exact label_mem_tags.mpr (hlabels (label_mem_tags.mp htag))
    | value tag => exact value_mem_tags.mpr (hvalues (value_mem_tags.mp htag))
    | period tag => exact period_mem_tags.mpr (hperiods (period_mem_tags.mp htag))
  · rintro ⟨hname, htags⟩
    exact ⟨hname, fun _ h ↦ label_mem_tags.mp (htags _ (label_mem_tags.mpr h)),
      fun _ h ↦ value_mem_tags.mp (htags _ (value_mem_tags.mpr h)),
      fun _ h ↦ period_mem_tags.mp (htags _ (period_mem_tags.mpr h))⟩

theorem Document.isStatementFor_iff {v : Vocabulary} {d : Document} {day : Date}
    {debit credit : Int} :
    d.isStatementFor v day debit credit = true ↔
      (∃ p ∈ d.periods, p.key = v.statementPeriod ∧ p.period.covers day = true) ∧
        ∃ w ∈ d.values, w.key = v.accountNumber ∧
          (w.value = Numeral.text debit ∨ w.value = Numeral.text credit) := by
  simp [isStatementFor, coversDay, namesAccount, valuesOf]

theorem Document.satisfies_numberQuery (v : Vocabulary) (d : Document) (number : String) :
    d.satisfies (numberQuery v number) = d.values.contains ⟨v.invoiceNumber, number⟩ := by
  have hquery : numberQuery v number = ⟨"", [], [⟨v.invoiceNumber, number⟩], []⟩ := rfl
  simp [satisfies, hquery]

theorem search_numberQuery (v : Vocabulary) (documents : List Document) (number : String) :
    search documents (Document.numberQuery v number) =
      documents.filter fun d ↦ ⟨v.invoiceNumber, number⟩ ∈ d.values := by
  simp [search, Document.satisfies_numberQuery]

end PaperTrail
