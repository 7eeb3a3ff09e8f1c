import PaperTrail.Archive.Basic
import PaperTrail.Proofs.Reconciliation.Worksheet

/-!
# Document numbers and their lookup

A document number is written as letters and figures, one behind the other.  Main statement: taking
a number apart undoes writing it and refuses every other text, so that the archive is asked for the
very text of a number.
-/

namespace PaperTrail.Booking

def IsLetter (c : Char) : Prop := 'A' ≤ c ∧ c ≤ 'Z' ∨ 'a' ≤ c ∧ c ≤ 'z'

def IsFigure (c : Char) : Prop := '0' ≤ c ∧ c ≤ '9'

/-- Letters, possibly none, and one figure or more. -/
structure IsNumber (letters figures : String) : Prop where
  isLetter : ∀ c ∈ letters.toList, IsLetter c
  isFigure : ∀ c ∈ figures.toList, IsFigure c
  ne_empty : figures ≠ ""

def IsNumberText (raw : String) : Prop :=
  ∃ letters figures, raw = letters ++ figures ∧ IsNumber letters figures

theorem isLetter_iff {c : Char} : IsLetter c ↔ c.isAlpha = true := by
  have halpha : c.isAlpha =
      (decide ('A' ≤ c ∧ c ≤ 'Z') || (decide ('a' ≤ c) && decide (c ≤ 'z'))) := rfl
  simp only [IsLetter, halpha, Bool.or_eq_true, Bool.and_eq_true, decide_eq_true_eq]

theorem isFigure_iff {c : Char} : IsFigure c ↔ c.isDigit = true := by
  have hdigit : c.isDigit = (decide ('0' ≤ c) && decide (c ≤ '9')) := rfl
  simp only [IsFigure, hdigit, Bool.and_eq_true, decide_eq_true_eq]

theorem not_isLetter_of_isFigure {c : Char} (h : IsFigure c) : ¬ IsLetter c := by
  have hnine : c ≤ '9' := h.2
  have hbefore : '9' < 'A' ∧ '9' < 'a' := by decide
  rintro (⟨hupper, -⟩ | ⟨hlower, -⟩)
  · exact Char.not_le.mpr hbefore.1 (Char.le_trans hupper hnine)
  · exact Char.not_le.mpr hbefore.2 (Char.le_trans hlower hnine)

section Cut

variable {letters figures : String}

/-- The letters end where the figures begin. -/
theorem IsNumber.cut (h : IsNumber letters figures) :
    (letters ++ figures).toList.takeWhile Char.isAlpha = letters.toList ∧
      (letters ++ figures).toList.dropWhile Char.isAlpha = figures.toList := by
  have hletters : ∀ c ∈ letters.toList, c.isAlpha = true := fun c hc ↦
    isLetter_iff.mp (h.isLetter c hc)
  have hne : figures.toList ≠ [] := mt String.toList_eq_nil_iff.mp h.ne_empty
  obtain ⟨c, cs, hfigures⟩ := List.exists_cons_of_ne_nil hne
  -- both runs of letters stop at the first figure
  have hc : ¬ c.isAlpha = true := fun halpha ↦
    not_isLetter_of_isFigure (h.isFigure c (hfigures ▸ List.mem_cons_self))
      (isLetter_iff.mpr halpha)
  rw [String.toList_append, List.takeWhile_append_of_pos hletters,
    List.dropWhile_append_of_pos hletters, hfigures, List.takeWhile_cons_of_neg hc,
    List.dropWhile_cons_of_neg hc, List.append_nil]
  exact ⟨rfl, rfl⟩

theorem splitNumber_of_isNumber (h : IsNumber letters figures) :
    splitNumber (letters ++ figures) = .ok (letters, figures) := by
  obtain ⟨htake, hdrop⟩ := h.cut
  have hne : figures.toList ≠ [] := mt String.toList_eq_nil_iff.mp h.ne_empty
  have hall : figures.toList.all Char.isDigit = true :=
    List.all_eq_true.mpr fun c hc ↦ isFigure_iff.mp (h.isFigure c hc)
  simp only [splitNumber]
  rw [htake, hdrop, if_pos ⟨hne, hall⟩, String.ofList_toList, String.ofList_toList]

theorem isNumber_of_splitNumber {raw : String} (h : splitNumber raw = .ok (letters, figures)) :
    IsNumber letters figures := by
  simp only [splitNumber] at h
  split at h
  · next hform =>
      simp only [Except.ok.injEq, Prod.mk.injEq] at h
      obtain ⟨rfl, rfl⟩ := h
      refine ⟨fun c hc ↦ ?_, fun c hc ↦ ?_, fun hempty ↦ ?_⟩
      · rw [String.toList_ofList] at hc
        exact isLetter_iff.mpr (List.all_eq_true.mp List.all_takeWhile c hc)
      · rw [String.toList_ofList] at hc
        exact isFigure_iff.mpr (List.all_eq_true.mp hform.2 c hc)
      · rw [← String.toList_eq_nil_iff, String.toList_ofList] at hempty
        exact hform.1 hempty
  · cases h

end Cut

/-- A number is cut exactly where its letters end. -/
theorem splitNumber_eq_ok_iff {raw letters figures : String} :
    splitNumber raw = .ok (letters, figures) ↔
      raw = letters ++ figures ∧ IsNumber letters figures := by
  constructor
  · intro h
    exact ⟨(append_of_splitNumber h).symm, isNumber_of_splitNumber h⟩
  · rintro ⟨rfl, h⟩
    exact splitNumber_of_isNumber h

/-- What is refused is named, and only what is no number is refused. -/
theorem splitNumber_eq_error_iff {raw : String} {fault : Fault} :
    splitNumber raw = .error fault ↔
      ¬ IsNumberText raw ∧ fault = .invalidDocumentNumber raw := by
  cases h : splitNumber raw with
  | ok parts =>
      simp only [reduceCtorEq, false_iff, not_and]
      exact fun hnone ↦ absurd ⟨parts.1, parts.2, splitNumber_eq_ok_iff.mp h⟩ hnone
  | error other =>
      have hother : other = .invalidDocumentNumber raw := by
        simp only [splitNumber] at h
        split at h
        · cases h
        · cases h
          rfl
      have hnone : ¬ IsNumberText raw := by
        rintro ⟨letters, figures, hparts⟩
        rw [splitNumber_eq_ok_iff.mpr hparts] at h
        cases h
      rw [Except.error.injEq, hother]
      exact ⟨fun hfault ↦ ⟨hnone, hfault.symm⟩, fun hfault ↦ hfault.2.symm⟩

end PaperTrail.Booking

namespace PaperTrail

open Booking

section Lookup

variable {raw : String}

/-- The lookup takes a number as it is written, without folding case or dropping zeros. -/
theorem Archive.findByNumber_of_isNumberText (a : Archive) (h : IsNumberText raw) :
    a.findByNumber raw =
      .ok (a.documents.filter fun d ↦ ⟨a.settings.vocabulary.invoiceNumber, raw⟩ ∈ d.values) := by
  obtain ⟨letters, figures, rfl, hnumber⟩ := h
  rw [findByNumber, splitNumber_of_isNumber hnumber, ← search_numberQuery]
  rfl

theorem Archive.findByNumber_of_not_isNumberText (a : Archive) (h : ¬ IsNumberText raw) :
    a.findByNumber raw = .error (.invalidDocumentNumber raw) := by
  rw [findByNumber, splitNumber_eq_error_iff.mpr ⟨h, rfl⟩]
  rfl

end Lookup

/-- A text is taken apart exactly if it is that of a number, and every other text is refused.  There
is only one way to take it apart: the number of a booking comes apart into its two columns again,
and an archive is asked for the documents that carry the very text that it was given. -/
theorem splitNumber_outcome (raw : String) :
    (∀ letters figures, splitNumber raw = .ok (letters, figures) ↔
        raw = letters ++ figures ∧ IsNumber letters figures) ∧
      (∀ letters figures letters' figures', IsNumber letters figures → IsNumber letters' figures' →
        letters ++ figures = letters' ++ figures' → letters = letters' ∧ figures = figures') ∧
      (∀ fault, splitNumber raw = .error fault ↔
        ¬ IsNumberText raw ∧ fault = .invalidDocumentNumber raw) ∧
      (∀ b : Booking, IsNumber b.numberRange b.number →
        splitNumber b.fullNumber = .ok (b.numberRange, b.number)) ∧
      ∀ a : Archive,
        (IsNumberText raw → a.findByNumber raw = .ok (a.documents.filter fun d ↦
          ⟨a.settings.vocabulary.invoiceNumber, raw⟩ ∈ d.values)) ∧
        (¬ IsNumberText raw → a.findByNumber raw = .error (.invalidDocumentNumber raw)) := by
  refine ⟨fun letters figures ↦ splitNumber_eq_ok_iff, ?_, fun fault ↦ splitNumber_eq_error_iff,
    fun b hb ↦ splitNumber_of_isNumber hb, fun a ↦ ⟨a.findByNumber_of_isNumberText,
      a.findByNumber_of_not_isNumberText⟩⟩
  intro letters figures letters' figures' hnumber hother happend
  have hsplit := splitNumber_of_isNumber hnumber
  rw [happend, splitNumber_of_isNumber hother] at hsplit
  cases hsplit
  exact ⟨rfl, rfl⟩

open Reconciliation.Sample in
theorem splitNumber_outcome_shelf :
    let archive : Archive := { cabinet := ⟨shelf⟩ }
    IsNumber (booking "9").numberRange (booking "9").number ∧
      splitNumber (booking "9").fullNumber = .ok ("R", "9") ∧
      (∀ letters figures, IsNumber letters figures → "R" ++ "9" = letters ++ figures →
        "R" = letters ∧ "9" = figures) ∧
      IsNumberText "R9" ∧
      archive.findByNumber "R9" = .ok [invoice "d.pdf" "R9", invoice "e.pdf" "R9"] ∧
      ¬ IsNumberText "R9\n" ∧
      archive.findByNumber "R9\n" = .error (.invalidDocumentNumber "R9\n") := by
  intro archive
  obtain ⟨hsplit, hunique, -, hbooking, hfind⟩ := splitNumber_outcome "R9"
  obtain ⟨-, -, hrefused, -, hfind'⟩ := splitNumber_outcome "R9\n"
  obtain ⟨happend, hnumber⟩ := (hsplit "R" "9").mp rfl
  have htext : IsNumberText "R9" := ⟨"R", "9", happend, hnumber⟩
  have hnoText := ((hrefused (.invalidDocumentNumber "R9\n")).mp rfl).1
  have hshelf : archive.documents.filter (fun d ↦ ⟨"invoice", "R9"⟩ ∈ d.values) =
      [invoice "d.pdf" "R9", invoice "e.pdf" "R9"] := by decide
  refine ⟨hnumber, hbooking (booking "9") hnumber, fun letters figures ↦ ?_, htext, ?_, hnoText,
    (hfind' archive).2 hnoText⟩
  · exact hunique "R" "9" letters figures hnumber
  · rw [(hfind archive).1 htext]
    exact congrArg _ hshelf

-- a figure of another script is none, and neither is a letter behind the first figure
example :
    splitNumber "R٣" = .error (.invalidDocumentNumber "R٣") ∧
      splitNumber "12B" = .error (.invalidDocumentNumber "12B") := ⟨rfl, rfl⟩

end PaperTrail
