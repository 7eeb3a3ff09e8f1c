import PaperTrail.Proofs.Archive.Kept
import PaperTrail.Proofs.Tag.RoundTrip

/-!
# Descriptions of documents

A document is described by its tags as they are spelled.  Main statement: where no value was put
in quotes, the description of a document is itself an annotation, which adds nothing to this
document and makes a copy of it under another name.
-/

namespace PaperTrail

namespace Separators

instance (cs : List Char) : Decidable (IsQuoted cs) :=
  inferInstanceAs (Decidable (2 ≤ cs.length ∧ cs.head? = some '"' ∧ cs.getLast? = some '"'))

/-- What follows the key does not stand in quotes. -/
def IsUnquoted (s : Separators) (raw : String) : Prop :=
  ∀ halves ∈ s.splitKey raw, ¬ IsQuoted halves.2

instance (s : Separators) (raw : String) : Decidable (s.IsUnquoted raw) :=
  inferInstanceAs (Decidable (∀ halves ∈ s.splitKey raw, ¬ IsQuoted halves.2))

/-- A tag that was read from a text without quoted value is spelled as that text. -/
theorem spell_of_isUnquoted {s : Separators} {raw : String} {t : Tag} (h : s.read raw = .ok t)
    (hraw : s.IsUnquoted raw) : s.spell t = raw := by
  apply spell_of_not_isQuotedValue h
  rintro ⟨-, key, rest, hsplit, hkey, hquoted⟩
  exact hraw (key, rest) (splitKey_eq_some_iff.mpr ⟨hsplit, hkey⟩) hquoted

end Separators

namespace Archive

variable {a : Archive} {d : Document}

theorem describe_of_get? {filename : String} (h : a.get? filename = some d) :
    a.describe filename = .ok (d.tags.map a.settings.separators.spell) := by
  rw [describe, require, h]
  rfl

theorem readAll_description {s : Separators} {policy : Policy}
    (h : d.Sound s policy s.IsUnquoted) : s.readAll (d.tags.map s.spell) = .ok d.tags := by
  apply Separators.readAll_map_spell
  intro t ht
  obtain ⟨raw, hraw, hread⟩ := h.read t ht
  rw [Separators.spell_of_isUnquoted hread hraw]
  exact hread

/-- The description of a document adds nothing to it. -/
theorem annotate_description (hget : a.get? d.filename = some d)
    (h : d.Sound a.settings.separators a.policy a.settings.separators.IsUnquoted) :
    let annotated := a.annotate d.filename (d.tags.map a.settings.separators.spell)
    annotated.2.answer = .ok d ∧ annotated.1 = a := by
  have hrevised : a.revised d.filename d.tags = d := by
    rw [revised, hget, Option.getD_some, Document.append_of_forall_mem fun _ ht ↦ ht]
  have hanswer := answer_annotate_eq_ok_iff.mpr
    ⟨d.tags, readAll_description h, h.allowed, hrevised.symm⟩
  refine ⟨hanswer, ?_⟩
  rw [annotate_of_ok hanswer, Cabinet.save_of_get? hget]

/-- The description of a document makes a copy of it. -/
theorem annotate_description_other {other : String} (hother : other ∉ a.cabinet.filenames)
    (hname : a.policy.checkName other = .ok ())
    (h : d.Sound a.settings.separators a.policy a.settings.separators.IsUnquoted) :
    let annotated := a.annotate other (d.tags.map a.settings.separators.spell)
    annotated.2.answer = .ok { d with filename := other } ∧
      annotated.1.documents = a.documents ++ [{ d with filename := other }] := by
  have hget : a.get? other = none := Cabinet.get?_eq_none_iff.mpr hother
  have hrevised : a.revised other d.tags = { d with filename := other } := by
    rw [revised, hget]
    exact Document.ofTags_tags h.noRepeats other
  have hanswer := answer_annotate_eq_ok_iff.mpr
    ⟨d.tags, readAll_description h, Policy.check_rename h.allowed hname, hrevised.symm⟩
  refine ⟨hanswer, ?_⟩
  rw [annotate_of_ok hanswer]
  exact Cabinet.replaceFirst_of_notMem hother

/-- As long as no annotation has put a value in quotes, the description of any document is an
annotation that goes through.  On the same name it changes nothing, and on a new name that the
policy allows it files a document with the same three lists of tags. -/
theorem annotate_describe {settings : Settings} {policy : Policy} {requests : List Request}
    (hunquoted : ∀ r ∈ requests, r.Gives settings.separators.IsUnquoted) :
    let a := (⟨settings, policy, .empty⟩ : Archive).serveAll requests
    ∀ filename ∈ a.cabinet.filenames, ∃ d spelled,
      a.get? filename = some d ∧ a.describe filename = .ok spelled ∧
        (a.annotate filename spelled).2.answer = .ok d ∧ (a.annotate filename spelled).1 = a ∧
          ∀ other ∉ a.cabinet.filenames, policy.checkName other = .ok () →
            (a.annotate other spelled).2.answer = .ok { d with filename := other } ∧
              (a.annotate other spelled).1.documents =
                a.documents ++ [{ d with filename := other }] := by
  intro a filename hmem
  have hrules : a.settings = settings ∧ a.policy = policy := rules_serveAll _ requests
  obtain ⟨hsettings, hpolicy⟩ := hrules
  have hkeeps : a.Keeps settings.separators.IsUnquoted :=
    keeps_serveAll (keeps_empty settings policy) hunquoted
  have hstored : a.cabinet.get? filename ≠ none := fun hnone ↦
    Cabinet.get?_eq_none_iff.mp hnone hmem
  obtain ⟨d, hget⟩ := Option.ne_none_iff_exists'.mp hstored
  obtain rfl := Cabinet.filename_of_get? hget
  have hsound := hkeeps d (List.mem_of_find?_eq_some hget)
  rw [← hsettings] at hsound
  obtain ⟨hanswer, hsame⟩ := annotate_description hget hsound
  refine ⟨d, _, hget, describe_of_get? hget, hanswer, hsame, ?_⟩
  intro other hother hname
  rw [← hpolicy] at hname
  exact annotate_description_other hother hname hsound

/-- The range mark is a semicolon, a lone quote is kept, and the second annotation is refused. -/
theorem annotate_describe_semicolon :
    let settings : Settings := { separators := { rangeMark := ";" } }
    let requests := [.annotate "a.pdf" ["k:\"v", "paid", "s:01042014;"],
      .annotate "a.pdf" ["s:02042014;01042014"], .annotate "a.pdf" ["paid"]]
    let a := (⟨settings, .strict, .empty⟩ : Archive).serveAll requests
    (∀ r ∈ requests, r.Gives settings.separators.IsUnquoted) ∧
      "a.pdf" ∈ a.cabinet.filenames ∧ "b.pdf" ∉ a.cabinet.filenames ∧
        Policy.strict.checkName "b.pdf" = .ok () ∧
          ∃ d spelled, a.get? "a.pdf" = some d ∧ a.describe "a.pdf" = .ok spelled ∧
            (a.annotate "a.pdf" spelled).2.answer = .ok d ∧ (a.annotate "a.pdf" spelled).1 = a ∧
              (a.annotate "b.pdf" spelled).2.answer = .ok { d with filename := "b.pdf" } ∧
                (a.annotate "b.pdf" spelled).1.documents =
                  a.documents ++ [{ d with filename := "b.pdf" }] := by
  intro settings requests a
  have hunquoted : ∀ r ∈ requests, r.Gives settings.separators.IsUnquoted := by decide +kernel
  have hmem : "a.pdf" ∈ a.cabinet.filenames := by decide +kernel
  have hother : "b.pdf" ∉ a.cabinet.filenames := by decide +kernel
  have hname : Policy.strict.checkName "b.pdf" = .ok () := by decide
  obtain ⟨d, spelled, hget, hdescribe, hanswer, hsame, hcopy⟩ :=
    annotate_describe hunquoted "a.pdf" hmem
  exact ⟨hunquoted, hmem, hother, hname, d, spelled, hget, hdescribe, hanswer, hsame,
    hcopy "b.pdf" hother hname⟩

end Archive

end PaperTrail
