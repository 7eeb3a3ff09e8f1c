import PaperTrail.Proofs.Archive.History
import PaperTrail.Proofs.Document.Repeats

/-!
# What an archive keeps

Main statement: whatever has been asked of an archive that was opened empty, each of its documents
is one that the policy allows, holds no tag twice, and has only tags that were read from texts
given in annotations.
-/

namespace PaperTrail

/-- The policy allows the document, no tag is held twice, and each tag was read from a text of a
certain kind. -/
structure Document.Sound (s : Separators) (policy : Policy) (IsText : String → Prop)
    (d : Document) : Prop where
  allowed : policy.check d = .ok ()
  noRepeats : d.NoRepeats
  read : ∀ t ∈ d.tags, ∃ raw, IsText raw ∧ s.read raw = .ok t

def Request.Gives (IsText : String → Prop) : Request → Prop
  | annotate _ spelled => ∀ raw ∈ spelled, IsText raw
  | remove _ => True

instance (IsText : String → Prop) [DecidablePred IsText] (r : Request) :
    Decidable (r.Gives IsText) :=
  match r with
  | .annotate _ spelled => inferInstanceAs (Decidable (∀ raw ∈ spelled, IsText raw))
  | .remove _ => inferInstanceAs (Decidable True)

namespace Archive

variable {a : Archive} {IsText : String → Prop}

def Keeps (IsText : String → Prop) (a : Archive) : Prop :=
  ∀ d ∈ a.documents, d.Sound a.settings.separators a.policy IsText

theorem keeps_empty (settings : Settings) (policy : Policy) :
    Keeps IsText ⟨settings, policy, .empty⟩ :=
  fun _ hd ↦ absurd hd List.not_mem_nil

theorem rules_serve (a : Archive) (r : Request) :
    (a.serve r).settings = a.settings ∧ (a.serve r).policy = a.policy :=
  rules_apply a r.command

/-- An archive is run by the settings and the policy that it was opened with. -/
theorem rules_serveAll (a : Archive) (requests : List Request) :
    (a.serveAll requests).settings = a.settings ∧ (a.serveAll requests).policy = a.policy := by
  induction requests generalizing a with
  | nil => exact ⟨rfl, rfl⟩
  | cons r rest ih =>
      obtain ⟨hsettings, hpolicy⟩ := ih (a.serve r)
      exact ⟨hsettings.trans (rules_serve a r).1, hpolicy.trans (rules_serve a r).2⟩

theorem documents_remove_sublist (a : Archive) (filename : String) :
    (a.remove filename).1.documents.Sublist a.documents := by
  by_cases hmem : filename ∈ a.cabinet.filenames
  · rw [remove, Cabinet.delete_of_mem hmem]
    exact List.filter_sublist
  · rw [remove, Cabinet.delete_of_notMem hmem]

/-- Adding tags to a sound document, or to a fresh one, leaves only the policy to be asked. -/
theorem sound_revised (h : a.Keeps IsText) {filename : String} {spelled : List String}
    {tags : List Tag} (hspelled : ∀ raw ∈ spelled, IsText raw)
    (hread : a.settings.separators.readAll spelled = .ok tags)
    (hcheck : a.policy.check (a.revised filename tags) = .ok ()) :
    (a.revised filename tags).Sound a.settings.separators a.policy IsText := by
  set old := (a.get? filename).getD (.empty filename) with hold
  have hbase : old.NoRepeats ∧
      ∀ t ∈ old.tags, ∃ raw, IsText raw ∧ a.settings.separators.read raw = .ok t := by
    rw [hold]
    cases hget : a.get? filename with
    | none => exact ⟨Document.noRepeats_empty filename, fun t ht ↦ absurd ht List.not_mem_nil⟩
    | some d =>
        have hd := h d (List.mem_of_find?_eq_some hget)
        exact ⟨hd.noRepeats, hd.read⟩
  refine ⟨hcheck, hbase.1.append tags, ?_⟩
  intro t ht
  rcases Document.mem_tags_append.mp ht with hin | hnew
  · exact hbase.2 t hin
  · obtain ⟨raw, hraw, hreads⟩ := Separators.exists_read_of_mem_readAll hread hnew
    exact ⟨raw, hspelled raw hraw, hreads⟩

/-- One request keeps the documents sound. -/
theorem keeps_serve (h : a.Keeps IsText) {r : Request} (hr : r.Gives IsText) :
    (a.serve r).Keeps IsText := by
  obtain ⟨hsettings, hpolicy⟩ := rules_serve a r
  rw [Keeps, hsettings, hpolicy]
  intro d hd
  cases r with
  | remove filename => exact h d ((documents_remove_sublist a filename).mem hd)
  | annotate filename spelled =>
      have hserve : a.serve (.annotate filename spelled) = (a.annotate filename spelled).1 := rfl
      rw [hserve] at hd
      cases hanswer : (a.annotate filename spelled).2.answer with
      | error fault =>
          rw [annotate_of_error hanswer] at hd
          exact h d hd
      | ok made =>
          rw [annotate_of_ok hanswer] at hd
          rcases Cabinet.mem_of_mem_replaceFirst hd with rfl | hin
          · obtain ⟨tags, hread, hcheck, rfl⟩ := answer_annotate_eq_ok_iff.mp hanswer
            exact sound_revised h hr hread hcheck
          · exact h d hin

/-- A run of requests keeps every record sound. -/
theorem keeps_serveAll (h : a.Keeps IsText) {requests : List Request}
    (hrequests : ∀ r ∈ requests, r.Gives IsText) : (a.serveAll requests).Keeps IsText := by
  induction requests generalizing a with
  | nil => exact h
  | cons r rest ih =>
      apply ih (keeps_serve h (hrequests r List.mem_cons_self))
      intro other hother
      exact hrequests other (List.mem_cons_of_mem r hother)

end Archive

end PaperTrail
