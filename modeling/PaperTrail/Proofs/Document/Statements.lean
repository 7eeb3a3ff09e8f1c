import PaperTrail.Document.Search
import PaperTrail.Proofs.Numeral

/-!
# What a bank statement is

Main statement: the statements for a day and two accounts are the documents that have a period of
the right key with the day in it and name one of the accounts by its plain number.  It does not
matter which of the accounts is debited.
-/

namespace PaperTrail

namespace Period

/-- The days of a period are those from its first to its last.  Where the first comes after the
last, only these two are left. -/
def Spans (p : Period) (d : Date) : Prop :=
  match p.first, p.last with
  | none, none => True
  | some first, none => first ≤ d
  | none, some last => d ≤ last
  | some first, some last => if first ≤ last then first ≤ d ∧ d ≤ last else d = first ∨ d = last

/-- No day lies behind the first and before the last, if the first comes after the last. -/
theorem covers_backward {first last d : Date} (h : ¬ first ≤ last) :
    covers ⟨some first, some last⟩ d = true ↔ d = first ∨ d = last := by
  rw [covers_eq_true_iff]
  constructor
  · rintro (hfirst | hlast | ⟨hafter, hbefore⟩)
    · exact .inl (Option.some.inj hfirst).symm
    · exact .inr (Option.some.inj hlast).symm
    · have hlt : first.rank < d.rank := hafter first rfl
      have hlt' : d.rank < last.rank := hbefore last rfl
      rw [Date.le_def] at h
      omega
  · rintro (rfl | rfl)
    · exact .inl rfl
    · exact .inr (.inl rfl)

/-- The test of days agrees with the days that a period spans, a backward one included. -/
theorem covers_eq_true_iff_spans {p : Period} {d : Date} : p.covers d = true ↔ p.Spans d := by
  obtain ⟨first, last⟩ := p
  match first, last with
  | none, none => simp [Spans]
  | some first, none =>
      simp [covers_eq_true_iff_includes (p := ⟨some first, none⟩) rfl, Includes, Spans]
  | none, some last =>
      simp [covers_eq_true_iff_includes (p := ⟨none, some last⟩) rfl, Includes, Spans]
  | some first, some last =>
      by_cases h : first ≤ last
      · have hforward : isOrdered ⟨some first, some last⟩ = true := decide_eq_true h
        simp [covers_eq_true_iff_includes hforward, Includes, Spans, h]
      · simp [covers_backward h, Spans, h]

instance (p : Period) (d : Date) : Decidable (p.Spans d) :=
  decidable_of_iff (p.covers d = true) covers_eq_true_iff_spans

end Period

namespace Document

/-- The document has a period for statements with the day in it. -/
def SpansDay (v : Vocabulary) (day : Date) (d : Document) : Prop :=
  ∃ p ∈ d.periods, p.key = v.statementPeriod ∧ p.period.Spans day

instance (v : Vocabulary) (day : Date) : DecidablePred (SpansDay v day) :=
  fun d ↦ inferInstanceAs
    (Decidable (∃ p ∈ d.periods, p.key = v.statementPeriod ∧ p.period.Spans day))

/-- One of the values for accounts is the plain number of the account. -/
def Names (v : Vocabulary) (account : Int) (d : Document) : Prop :=
  ∃ w ∈ d.values, w.key = v.accountNumber ∧ Numeral.IsPlain w.value.toList account

instance (v : Vocabulary) (account : Int) : DecidablePred (Names v account) :=
  fun d ↦ inferInstanceAs (Decidable
    (∃ w ∈ d.values, w.key = v.accountNumber ∧ Numeral.IsPlain w.value.toList account))

theorem isStatementFor_iff_names {v : Vocabulary} {day : Date} {debit credit : Int} {d : Document} :
    d.isStatementFor v day debit credit = true ↔
      d.SpansDay v day ∧ (d.Names v debit ∨ d.Names v credit) := by
  simp only [isStatementFor_iff, SpansDay, Names, Period.covers_eq_true_iff_spans,
    Numeral.eq_text_iff, and_or_left, exists_or]

end Document

theorem searchStatements_eq {v : Vocabulary} {documents : List Document} {day : Date}
    (debit credit : Int) :
    searchStatements v documents day debit credit =
      documents.filter (fun d ↦ d.SpansDay v day ∧ (d.Names v debit ∨ d.Names v credit)) := by
  apply List.filter_congr
  intro d _
  rw [Bool.eq_iff_iff, decide_eq_true_eq, Document.isStatementFor_iff_names]

/-- Searching for statements keeps exactly the documents that are one, each as often as it is
there and in the same order. -/
theorem searchStatements_eq_filter (v : Vocabulary) (documents : List Document) (day : Date)
    (debit credit : Int) :
    searchStatements v documents day debit credit =
        documents.filter (fun d ↦ d.SpansDay v day ∧ (d.Names v debit ∨ d.Names v credit)) ∧
      searchStatements v documents day debit credit =
        searchStatements v documents day credit debit := by
  rw [searchStatements_eq debit credit, searchStatements_eq credit debit]
  simp only [or_comm, and_self]

end PaperTrail
