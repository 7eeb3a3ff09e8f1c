import PaperTrail.Booking.Number
import PaperTrail.Cabinet
import PaperTrail.Document.Policy
import PaperTrail.Export.Import
import PaperTrail.Reconciliation
import PaperTrail.Settings

/-!
# The archive

A cabinet together with the settings and the policy under which documents are filed.  Tags are
given as they are spelled.  An operation that changes the archive answers the archive as it is
afterwards; after a fault it is the one before.
-/

namespace PaperTrail

structure Archive where
  settings : Settings := {}
  policy : Policy := .lenient
  cabinet : Cabinet := .empty
deriving DecidableEq

namespace Archive

def documents (a : Archive) : List Document := a.cabinet.documents

def get? (a : Archive) (filename : String) : Option Document := a.cabinet.get? filename

def require (a : Archive) (filename : String) : Except Fault Document :=
  match a.get? filename with
  | some d => .ok d
  | none => .error (.fileNotFound filename)

/-- The document with the tags added, and the number of tags that are new to it. -/
def revise (a : Archive) (filename : String) (spelled : List String) :
    Except Fault (Document × Nat) := do
  let tags ← a.settings.separators.readAll spelled
  let (document, added) := ((a.get? filename).getD (.empty filename)).append tags
  match a.policy.check document with
  | .ok () => return (document, added)
  | .error flaw => .error (.rejected flaw)

def annotate (a : Archive) (filename : String) (spelled : List String) :
    Archive × Logged Document :=
  match a.revise filename spelled with
  | .error fault => (a, Logged.fail fault)
  | .ok (document, added) =>
      ({ a with cabinet := a.cabinet.save document },
        ⟨[.filed filename added document.tagCount], .ok document⟩)

def revised (a : Archive) (filename : String) (tags : List Tag) : Document :=
  (((a.get? filename).getD (.empty filename)).append tags).1

theorem filename_revised (a : Archive) (filename : String) (tags : List Tag) :
    (a.revised filename tags).filename = filename := by
  rw [revised, Document.filename_append]
  cases hget : a.get? filename with
  | none => rfl
  | some d => exact Cabinet.filename_of_get? hget

/-- A revision succeeds exactly when every tag is read and the policy accepts the record that
comes of it. -/
theorem revise_eq_ok_iff {a : Archive} {filename : String} {spelled : List String} {d : Document} :
    (∃ added, a.revise filename spelled = .ok (d, added)) ↔
      ∃ tags, a.settings.separators.readAll spelled = .ok tags ∧
        a.policy.check d = .ok () ∧ d = a.revised filename tags := by
  simp only [revise, revised]
  cases a.settings.separators.readAll spelled with
  | error fault => simp [bind, Except.bind]
  | ok tags =>
      simp only [bind, Except.bind, Except.ok.injEq, exists_eq_left']
      obtain ⟨made, added⟩ := ((a.get? filename).getD (.empty filename)).append tags
      cases hcheck : a.policy.check made with
      | ok u =>
          simp only [pure, Except.pure, Except.ok.injEq, Prod.mk.injEq, exists_and_left,
            exists_eq', and_true]
          constructor
          · rintro rfl
            exact ⟨hcheck, rfl⟩
          · rintro ⟨-, rfl⟩
            rfl
      | error flaw =>
          simp only [reduceCtorEq, exists_false, false_iff, not_and]
          rintro hd rfl
          rw [hcheck] at hd
          cases hd

/-- An annotation goes through if its tags can be read and the policy allows the document. -/
theorem answer_annotate_eq_ok_iff {a : Archive} {filename : String} {spelled : List String}
    {d : Document} :
    (a.annotate filename spelled).2.answer = .ok d ↔
      ∃ tags, a.settings.separators.readAll spelled = .ok tags ∧
        a.policy.check d = .ok () ∧ d = a.revised filename tags := by
  rw [← revise_eq_ok_iff, annotate]
  cases a.revise filename spelled with
  | error fault => simp [Logged.fail]
  | ok revised =>
      obtain ⟨document, added⟩ := revised
      simp

theorem annotate_of_ok {a : Archive} {filename : String} {spelled : List String} {d : Document}
    (h : (a.annotate filename spelled).2.answer = .ok d) :
    (a.annotate filename spelled).1 = { a with cabinet := a.cabinet.save d } := by
  unfold annotate at h ⊢
  split at h
  · cases h
  · cases h
    rfl

/-- A refused annotation leaves the archive as it was. -/
theorem annotate_of_error {a : Archive} {filename : String} {spelled : List String}
    {fault : Fault} (h : (a.annotate filename spelled).2.answer = .error fault) :
    (a.annotate filename spelled).1 = a := by
  unfold annotate at h ⊢
  split at h
  · rfl
  · cases h

def remove (a : Archive) (filename : String) : Archive × Except Fault Unit :=
  match a.cabinet.delete filename with
  | .error fault => (a, .error fault)
  | .ok cabinet => ({ a with cabinet }, .ok ())

def describe (a : Archive) (filename : String) : Except Fault (List String) := do
  let document ← a.require filename
  return document.tags.map a.settings.separators.spell

def find (a : Archive) (query : Document) : List Document := search a.documents query

def findTagged (a : Archive) (spelled : List String) : Except Fault (List Document) := do
  let tags ← a.settings.separators.readAll spelled
  return a.find (.ofTags "" tags)

def findByNumber (a : Archive) (raw : String) : Except Fault (List Document) := do
  let (letters, figures) ← Booking.splitNumber raw
  return a.find (Document.numberQuery a.settings.vocabulary (letters ++ figures))

def findForStatement (a : Archive) (day : Date) (debit credit : Int) : List Document :=
  searchStatements a.settings.vocabulary a.documents day debit credit

def reconcile (a : Archive) (bookings : List Booking) (reportUnmatched : Bool) : Logged Report :=
  Reconciliation.run a.settings.vocabulary bookings a.documents reportUnmatched

def reconcileExport (a : Archive) (text : String) (reportUnmatched : Bool) : Logged Report := do
  let bookings ← Export.read (.ofText text)
  a.reconcile bookings reportUnmatched

end Archive

end PaperTrail
