import PaperTrail.Document.Basic
import PaperTrail.Fault

/-!
# The cabinet

Documents are kept in the order in which they were first saved.  Saving a document again replaces
it where it stands.
-/

namespace PaperTrail

structure Cabinet where
  documents : List Document
deriving DecidableEq

namespace Cabinet

def empty : Cabinet := ⟨[]⟩

def filenames (c : Cabinet) : List String := c.documents.map Document.filename

def get? (c : Cabinet) (filename : String) : Option Document :=
  c.documents.find? fun d ↦ d.filename == filename

/-- Replaces the first document of that name, or puts the document at the end. -/
def replaceFirst (d : Document) : List Document → List Document
  | [] => [d]
  | e :: rest => if e.filename = d.filename then d :: rest else e :: replaceFirst d rest

def save (c : Cabinet) (d : Document) : Cabinet := ⟨replaceFirst d c.documents⟩

/-- Removes every document of that name; there has to be one. -/
def delete (c : Cabinet) (filename : String) : Except Fault Cabinet :=
  if filename ∈ c.filenames then
    .ok ⟨c.documents.filter fun d ↦ d.filename != filename⟩
  else .error (.fileNotFound filename)

theorem delete_of_mem {c : Cabinet} {filename : String} (h : filename ∈ c.filenames) :
    c.delete filename = .ok ⟨c.documents.filter fun d ↦ d.filename != filename⟩ := if_pos h

theorem delete_of_notMem {c : Cabinet} {filename : String} (h : filename ∉ c.filenames) :
    c.delete filename = .error (.fileNotFound filename) := if_neg h

/-- What was saved last under a name is what is found there. -/
theorem get?_save (c : Cabinet) (d : Document) : (c.save d).get? d.filename = some d := by
  obtain ⟨documents⟩ := c
  simp only [get?, save]
  induction documents with
  | nil => simp [replaceFirst]
  | cons e rest ih =>
      by_cases he : e.filename = d.filename
      · simp [replaceFirst, he]
      · simp [replaceFirst, he, ih]

theorem filename_of_get? {c : Cabinet} {filename : String} {d : Document}
    (h : c.get? filename = some d) : d.filename = filename := by
  simpa using List.find?_some h

/-- Nothing is found exactly under the names that were never filed. -/
theorem get?_eq_none_iff {c : Cabinet} {filename : String} :
    c.get? filename = none ↔ filename ∉ c.filenames := by
  simp [get?, filenames]

theorem get?_of_delete {c later : Cabinet} {filename : String}
    (h : c.delete filename = .ok later) : later.get? filename = none := by
  unfold delete at h
  split at h
  · cases h
    rw [get?_eq_none_iff]
    simp [filenames]
  · cases h

theorem replaceFirst_of_notMem {d : Document} {ds : List Document}
    (h : d.filename ∉ ds.map Document.filename) : replaceFirst d ds = ds ++ [d] := by
  induction ds with
  | nil => rfl
  | cons e rest ih =>
      simp only [List.map_cons, List.mem_cons, not_or] at h
      rw [replaceFirst, if_neg (Ne.symm h.1), ih h.2, List.cons_append]

theorem mem_of_mem_replaceFirst {d e : Document} {ds : List Document}
    (h : e ∈ replaceFirst d ds) : e = d ∨ e ∈ ds := by
  induction ds with
  | nil => exact Or.inl (List.mem_singleton.mp h)
  | cons x rest ih =>
      rw [replaceFirst] at h
      split at h
      · rcases List.mem_cons.mp h with hd | hrest
        · exact Or.inl hd
        · exact Or.inr (List.mem_cons_of_mem x hrest)
      · rcases List.mem_cons.mp h with rfl | hrest
        · exact Or.inr List.mem_cons_self
        · exact (ih hrest).imp_right (List.mem_cons_of_mem x)

/-- Saving what is already there changes nothing. -/
theorem save_of_get? {c : Cabinet} {d : Document} (h : c.get? d.filename = some d) :
    c.save d = c := by
  obtain ⟨documents⟩ := c
  simp only [get?, save, mk.injEq] at h ⊢
  induction documents with
  | nil => cases h
  | cons e rest ih =>
      by_cases he : e.filename = d.filename
      · have hfirst : e = d := by simpa [he] using h
        rw [replaceFirst, if_pos he, hfirst]
      · have hrest : rest.find? (fun x ↦ x.filename == d.filename) = some d := by
          simpa [he] using h
        rw [replaceFirst, if_neg he, ih hrest]

/-- A save under a known name moves no record. -/
theorem filenames_replaceFirst_of_mem {d : Document} {ds : List Document}
    (h : d.filename ∈ ds.map Document.filename) :
    (replaceFirst d ds).map Document.filename = ds.map Document.filename := by
  induction ds with
  | nil => cases h
  | cons e rest ih =>
      by_cases he : e.filename = d.filename
      · simp [replaceFirst, he]
      · simp only [List.map_cons, List.mem_cons, Ne.symm he, false_or] at h
        simp [replaceFirst, he, ih h]

/-- The new document is the first of its name; a later one of that name stays. -/
theorem filter_replaceFirst_self (d : Document) (ds : List Document) :
    (replaceFirst d ds).filter (fun e ↦ e.filename == d.filename) =
      d :: (ds.filter fun e ↦ e.filename == d.filename).tail := by
  induction ds with
  | nil => simp [replaceFirst]
  | cons e rest ih =>
      by_cases he : e.filename = d.filename
      · simp [replaceFirst, he]
      · simp [replaceFirst, he, ih]

theorem filter_replaceFirst_ne {d : Document} {filename : String} (h : d.filename ≠ filename)
    (ds : List Document) :
    (replaceFirst d ds).filter (fun e ↦ e.filename == filename) =
      ds.filter fun e ↦ e.filename == filename := by
  induction ds with
  | nil => simp [replaceFirst, h]
  | cons e rest ih =>
      by_cases he : e.filename = d.filename
      · simp [replaceFirst, he, h]
      · simp [replaceFirst, he, List.filter_cons, ih]

theorem filter_delete_self (filename : String) (ds : List Document) :
    (ds.filter fun d ↦ d.filename != filename).filter (fun d ↦ d.filename == filename) = [] := by
  rw [List.filter_filter]
  simp

theorem filter_delete_ne {filename other : String} (h : other ≠ filename) (ds : List Document) :
    (ds.filter fun d ↦ d.filename != filename).filter (fun d ↦ d.filename == other) =
      ds.filter fun d ↦ d.filename == other := by
  rw [List.filter_filter]
  apply List.filter_congr
  intro d _
  by_cases hd : d.filename = other
  · simp [hd, h]
  · simp [hd]

/-- A document under a new name goes behind all the others. -/
theorem pairwise_filenames_replaceFirst {r : String → String → Prop} {d : Document}
    {ds : List Document} (h : (ds.map Document.filename).Pairwise r)
    (hnew : d.filename ∉ ds.map Document.filename →
      ∀ name ∈ ds.map Document.filename, r name d.filename) :
    ((replaceFirst d ds).map Document.filename).Pairwise r := by
  by_cases hmem : d.filename ∈ ds.map Document.filename
  · rw [filenames_replaceFirst_of_mem hmem]
    exact h
  · rw [replaceFirst_of_notMem hmem, List.map_append]
    apply List.pairwise_append.mpr ⟨h, List.pairwise_singleton _ _, ?_⟩
    intro name hname last hlast
    rw [List.mem_singleton.mp hlast]
    exact hnew hmem name hname

/-- The order of the names that stay is the old one. -/
theorem pairwise_filenames_delete {r r' : String → String → Prop} {filename : String}
    {ds : List Document} (h : (ds.map Document.filename).Pairwise r)
    (himp : ∀ first second, first ≠ filename → second ≠ filename → r first second →
      r' first second) :
    ((ds.filter fun d ↦ d.filename != filename).map Document.filename).Pairwise r' := by
  have hsub : ((ds.filter fun d ↦ d.filename != filename).map Document.filename).Sublist
      (ds.map Document.filename) := List.filter_sublist.map _
  have hne : ∀ name ∈ (ds.filter fun d ↦ d.filename != filename).map Document.filename,
      name ≠ filename := by
    intro name hname
    obtain ⟨d, hd, rfl⟩ := List.mem_map.mp hname
    simpa using (List.mem_filter.mp hd).2
  apply (h.sublist hsub).imp_of_mem
  intro first second hfirst hsecond
  exact himp first second (hne first hfirst) (hne second hsecond)

end Cabinet

end PaperTrail
