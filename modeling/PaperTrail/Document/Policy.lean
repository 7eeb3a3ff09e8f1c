import PaperTrail.Document.Basic
import PaperTrail.Text.Blank

/-!
# Filing policies

The lenient policy only asks for a filename.  The strict one also bounds the filename, asks for a
key on every tag and refuses a period that runs backward, in this order.
-/

namespace PaperTrail

def checkFilename (filename : String) : Except Flaw Unit :=
  if Text.allBlank filename then .error .blankFilename
  else if 255 < filename.utf8ByteSize then .error .longFilename
  else if filename.toList.any (fun c ↦ c == '/' || c == '\\' || c == '\x00') then
    .error (.pathInFilename filename)
  else .ok ()

def checkKey (key : String) : Except Flaw Unit :=
  if Text.allBlank key then .error .blankKey else .ok ()

def checkPeriod (tag : PeriodTag) : Except Flaw Unit :=
  if tag.period.isOrdered then .ok () else .error (.reversedPeriod tag.key)

namespace Document

/-- Some character of the text can be seen. -/
def HasInk (text : String) : Prop := ∃ c ∈ text.toList, Text.isBlank c = false

theorem hasInk_iff {text : String} : HasInk text ↔ Text.allBlank text = false := by
  simp [HasInk, Text.allBlank]

end Document

/-- An accepted file name has ink, at most 255 bytes, and no separator of paths nor a NUL. -/
theorem checkFilename_eq_ok_iff {filename : String} :
    checkFilename filename = .ok () ↔
      Text.allBlank filename = false ∧ filename.utf8ByteSize ≤ 255 ∧
        ∀ c ∈ filename.toList, c ≠ '/' ∧ c ≠ '\\' ∧ c ≠ '\x00' := by
  have hplain : (filename.toList.any fun c ↦ c == '/' || c == '\\' || c == '\x00') = false ↔
      ∀ c ∈ filename.toList, c ≠ '/' ∧ c ≠ '\\' ∧ c ≠ '\x00' := by
    simp [and_assoc]
  rw [← hplain, checkFilename]
  split
  · next hblank => simp [hblank]
  · next hblank =>
      split
      · next hlong => simp [Nat.not_le.mpr hlong]
      · next hlong =>
          split
          · next hpath => simp [hpath]
          · next hpath => simp [hblank, Nat.not_lt.mp hlong, hpath]

theorem checkKey_eq_ok_iff {key : String} :
    checkKey key = .ok () ↔ Text.allBlank key = false := by
  unfold checkKey
  split
  · next hblank => simp [hblank]
  · next hblank => simp [hblank]

theorem checkPeriod_eq_ok_iff {tag : PeriodTag} :
    checkPeriod tag = .ok () ↔ tag.period.isOrdered = true := by
  unfold checkPeriod
  split
  · next hordered => simp [hordered]
  · next hordered => simp [hordered]

/-- The first flaw that the check finds along the list. -/
def checkEach {α : Type} (check : α → Except Flaw Unit) : List α → Except Flaw Unit
  | [] => .ok ()
  | a :: rest =>
      match check a with
      | .error flaw => .error flaw
      | .ok () => checkEach check rest

theorem checkEach_eq_ok_iff {α : Type} {check : α → Except Flaw Unit} {as : List α} :
    checkEach check as = .ok () ↔ ∀ a ∈ as, check a = .ok () := by
  induction as with
  | nil => simp [checkEach]
  | cons a as ih =>
      cases h : check a with
      | error flaw => simp [checkEach, h]
      | ok u => simp [checkEach, h, ih]

inductive Policy
  | lenient
  | strict
deriving DecidableEq

namespace Policy

def check : Policy → Document → Except Flaw Unit
  | lenient, d => if Text.allBlank d.filename then .error .blankFilename else .ok ()
  | strict, d => do
      checkFilename d.filename
      checkEach (fun tag ↦ checkKey tag.key) d.tags
      checkEach checkPeriod d.periods

def checkName : Policy → String → Except Flaw Unit
  | lenient, filename => if Text.allBlank filename then .error .blankFilename else .ok ()
  | strict, filename => checkFilename filename

/-- The lenient policy never looks at the tags. -/
theorem check_lenient (d : Document) : lenient.check d = lenient.checkName d.filename := rfl

/-- The strict policy asks for a good name, keys with ink and periods in order. -/
theorem check_strict_eq_ok_iff {d : Document} :
    strict.check d = .ok () ↔
      checkFilename d.filename = .ok () ∧ (∀ tag ∈ d.tags, checkKey tag.key = .ok ()) ∧
        ∀ tag ∈ d.periods, checkPeriod tag = .ok () := by
  rw [← checkEach_eq_ok_iff, ← checkEach_eq_ok_iff, check, Fault.bind_eq_ok_iff]
  constructor
  · rintro ⟨⟨⟩, hname, hrest⟩
    obtain ⟨⟨⟩, hkeys, hperiods⟩ := Fault.bind_eq_ok_iff.mp hrest
    exact ⟨hname, hkeys, hperiods⟩
  · rintro ⟨hname, hkeys, hperiods⟩
    exact ⟨(), hname, Fault.bind_eq_ok_iff.mpr ⟨(), hkeys, hperiods⟩⟩

/-- A document that is allowed is allowed under any other name that is. -/
theorem check_rename {policy : Policy} {d : Document} {filename : String}
    (h : policy.check d = .ok ()) (hname : policy.checkName filename = .ok ()) :
    policy.check { d with filename } = .ok () := by
  cases policy with
  | lenient =>
      rw [check_lenient]
      exact hname
  | strict =>
      rw [check_strict_eq_ok_iff] at h ⊢
      exact ⟨hname, h.2⟩

end Policy

end PaperTrail
