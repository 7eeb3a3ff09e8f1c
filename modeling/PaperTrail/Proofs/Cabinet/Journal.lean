import PaperTrail.Proofs.Archive.History

/-!
# What is written into a cabinet

A cabinet can be shared.  Documents are saved into it and deleted by hand, it is cleared, and any
number of archives file through it, each under its own settings and policy.  Main statement: a
cabinet that began empty is a map from names to the documents last written under them, in the order
in which the names were first written.
-/

namespace PaperTrail

inductive Mark
  | written (document : Document)
  | deleted (filename : String)
  | cleared
deriving DecidableEq

/-- The marks that a cabinet has seen, the latest in front. -/
abbrev Journal := List Mark

namespace Journal

/-- The documents written under a name since the name was deleted or the cabinet cleared, each with
the number of marks before it.  The latest stands in front. -/
def writes (filename : String) : Journal → List (Nat × Document)
  | [] => []
  | .written d :: earlier =>
      if d.filename = filename then (earlier.length, d) :: writes filename earlier
      else writes filename earlier
  | .deleted name :: earlier => if name = filename then [] else writes filename earlier
  | .cleared :: _ => []

def lastWritten? (j : Journal) (filename : String) : Option Document :=
  (j.writes filename).head?.map Prod.snd

def firstWritten? (j : Journal) (filename : String) : Option Nat :=
  (j.writes filename).getLast?.map Prod.fst

/-- Both names have been written, and the first writing of the one came before that of the other. -/
def WrittenBefore (j : Journal) (first second : String) : Prop :=
  ∃ m n, j.firstWritten? first = some m ∧ j.firstWritten? second = some n ∧ m < n

end Journal

/-- A change to a shared cabinet, by hand or through an archive over it. -/
inductive Access
  | save (document : Document)
  | delete (filename : String)
  | clear
  | request (settings : Settings) (policy : Policy) (request : Request)
deriving DecidableEq

namespace Cabinet

def after (c : Cabinet) : Access → Cabinet
  | .save d => c.save d
  | .delete filename => (c.delete filename).toOption.getD c
  | .clear => .empty
  | .request settings policy r => ((⟨settings, policy, c⟩ : Archive).serve r).cabinet

def afterAll (c : Cabinet) (accesses : List Access) : Cabinet := accesses.foldl after c

/-- An annotation that is refused leaves no mark.  Deleting a name that is not there leaves one,
which says nothing new. -/
def mark? (c : Cabinet) : Access → Option Mark
  | .save d => some (.written d)
  | .delete filename => some (.deleted filename)
  | .clear => some .cleared
  | .request settings policy (.annotate filename spelled) =>
      ((⟨settings, policy, c⟩ : Archive).annotate filename spelled).2.answer.toOption.map .written
  | .request _ _ (.remove filename) => some (.deleted filename)

def journal (c : Cabinet) (earlier : Journal) : List Access → Journal
  | [] => earlier
  | access :: rest => (c.after access).journal ((c.mark? access).toList ++ earlier) rest

inductive Saved (d : Document) : List Document → List Document → Prop
  | replaced {front back : List Document} {old : Document}
      (fresh : ∀ e ∈ front, e.filename ≠ d.filename) (same : old.filename = d.filename) :
      Saved d (front ++ old :: back) (front ++ d :: back)
  | added {documents : List Document} (fresh : ∀ e ∈ documents, e.filename ≠ d.filename) :
      Saved d documents (documents ++ [d])

end Cabinet

/-! ## One more mark -/

namespace Journal

variable {j : Journal} {d : Document} {filename name : String}

theorem lastWritten?_written (j : Journal) (d : Document) (filename : String) :
    lastWritten? (.written d :: j) filename =
      if d.filename = filename then some d else j.lastWritten? filename := by
  unfold lastWritten?
  rw [writes]
  split
  · rfl
  · rfl

theorem lastWritten?_deleted (j : Journal) (name filename : String) :
    lastWritten? (.deleted name :: j) filename =
      if name = filename then none else j.lastWritten? filename := by
  unfold lastWritten?
  rw [writes]
  split
  · rfl
  · rfl

theorem firstWritten?_written_self (j : Journal) (d : Document) :
    firstWritten? (.written d :: j) d.filename =
      some ((j.firstWritten? d.filename).getD j.length) := by
  unfold firstWritten?
  rw [writes, if_pos rfl, List.getLast?_cons]
  cases (writes d.filename j).getLast? with
  | none => rfl
  | some entry => rfl

theorem firstWritten?_written_ne (h : filename ≠ d.filename) :
    firstWritten? (.written d :: j) filename = j.firstWritten? filename := by
  unfold firstWritten?
  rw [writes, if_neg (Ne.symm h)]

theorem firstWritten?_deleted_ne (h : filename ≠ name) :
    firstWritten? (.deleted name :: j) filename = j.firstWritten? filename := by
  unfold firstWritten?
  rw [writes, if_neg (Ne.symm h)]

theorem lt_length_of_mem_writes {entry : Nat × Document} (h : entry ∈ j.writes filename) :
    entry.1 < j.length := by
  induction j with
  | nil => cases h
  | cons mark earlier ih =>
      rw [List.length_cons]
      cases mark with
      | written e =>
          rw [writes] at h
          split at h
          · rcases List.mem_cons.mp h with rfl | hold
            · exact Nat.lt_succ_self _
            · exact Nat.lt_succ_of_lt (ih hold)
          · exact Nat.lt_succ_of_lt (ih h)
      | deleted name =>
          rw [writes] at h
          split at h
          · cases h
          · exact Nat.lt_succ_of_lt (ih h)
      | cleared => cases h

theorem firstWritten?_lt {m : Nat} (h : j.firstWritten? filename = some m) : m < j.length := by
  obtain ⟨entry, hentry, rfl⟩ := Option.map_eq_some_iff.mp h
  exact lt_length_of_mem_writes (List.mem_of_getLast? hentry)

/-- A name that was written last was also written first. -/
theorem isSome_firstWritten? (j : Journal) (filename : String) :
    (j.firstWritten? filename).isSome = (j.lastWritten? filename).isSome := by
  unfold firstWritten? lastWritten?
  cases j.writes filename with
  | nil => rfl
  | cons entry rest => simp [List.getLast?_cons]

theorem firstWritten?_written_of_some {m : Nat} (h : j.firstWritten? filename = some m) :
    firstWritten? (.written d :: j) filename = some m := by
  by_cases hname : filename = d.filename
  · rw [hname] at h ⊢
    rw [firstWritten?_written_self, h]
    rfl
  · rw [firstWritten?_written_ne hname]
    exact h

theorem WrittenBefore.written {first second : String} (h : j.WrittenBefore first second) :
    WrittenBefore (.written d :: j) first second := by
  obtain ⟨m, n, hm, hn, hlt⟩ := h
  exact ⟨m, n, firstWritten?_written_of_some hm, firstWritten?_written_of_some hn, hlt⟩

theorem WrittenBefore.deleted {first second : String} (h : j.WrittenBefore first second)
    (hfirst : first ≠ name) (hsecond : second ≠ name) :
    WrittenBefore (.deleted name :: j) first second := by
  obtain ⟨m, n, hm, hn, hlt⟩ := h
  refine ⟨m, n, ?_, ?_, hlt⟩
  · rw [firstWritten?_deleted_ne hfirst]
    exact hm
  · rw [firstWritten?_deleted_ne hsecond]
    exact hn

theorem WrittenBefore.ne {first second : String} (h : j.WrittenBefore first second) :
    first ≠ second := by
  rintro rfl
  obtain ⟨m, n, hm, hn, hlt⟩ := h
  rw [hm] at hn
  cases hn
  exact Nat.lt_irrefl m hlt

/-! ## The documents that a journal leaves -/

/-- The documents are those that were last written, in the order of the first writing. -/
structure Leaves (j : Journal) (documents : List Document) : Prop where
  kept : ∀ filename, documents.filter (fun d ↦ d.filename == filename) =
    (j.lastWritten? filename).toList
  ordered : (documents.map Document.filename).Pairwise j.WrittenBefore

theorem leaves_of_writes_nil (h : ∀ filename, j.writes filename = []) : j.Leaves [] where
  kept := by
    intro filename
    rw [lastWritten?, h]
    rfl
  ordered := List.Pairwise.nil

variable {documents : List Document}

theorem Leaves.find?_eq (h : j.Leaves documents) (filename : String) :
    documents.find? (fun d ↦ d.filename == filename) = j.lastWritten? filename := by
  rw [← List.head?_filter, h.kept]
  cases j.lastWritten? filename with
  | none => rfl
  | some d => rfl

theorem Leaves.nodup (h : j.Leaves documents) : (documents.map Document.filename).Nodup :=
  h.ordered.imp WrittenBefore.ne

theorem Leaves.isSome_firstWritten?_iff (h : j.Leaves documents) :
    (j.firstWritten? filename).isSome = true ↔ filename ∈ documents.map Document.filename := by
  rw [isSome_firstWritten?, ← h.find?_eq]
  simp

/-- A write keeps the order of first writes: it replaces in place or goes to the end. -/
theorem Leaves.written (h : j.Leaves documents) (d : Document) :
    Leaves (.written d :: j) (Cabinet.replaceFirst d documents) where
  kept := by
    intro filename
    rw [lastWritten?_written]
    by_cases hname : d.filename = filename
    · subst hname
      have htail : (j.lastWritten? d.filename).toList.tail = [] := by
        cases j.lastWritten? d.filename <;> rfl
      rw [Cabinet.filter_replaceFirst_self, h.kept, htail, if_pos rfl]
      rfl
    · rw [Cabinet.filter_replaceFirst_ne hname, h.kept, if_neg hname]
  ordered := by
    apply Cabinet.pairwise_filenames_replaceFirst (h.ordered.imp WrittenBefore.written)
    -- a name that is there was written before now
    intro hfresh name hname
    obtain ⟨m, hm⟩ := Option.isSome_iff_exists.mp (h.isSome_firstWritten?_iff.mpr hname)
    have hnew : j.firstWritten? d.filename = none := by
      rw [← h.isSome_firstWritten?_iff] at hfresh
      exact Option.not_isSome_iff_eq_none.mp hfresh
    refine ⟨m, j.length, firstWritten?_written_of_some hm, ?_, firstWritten?_lt hm⟩
    rw [firstWritten?_written_self, hnew]
    rfl

theorem Leaves.deleted (h : j.Leaves documents) (name : String) :
    Leaves (.deleted name :: j) (documents.filter fun d ↦ d.filename != name) where
  kept := by
    intro filename
    rw [lastWritten?_deleted]
    by_cases hname : name = filename
    · rw [if_pos hname, ← hname, Cabinet.filter_delete_self]
      rfl
    · rw [if_neg hname, Cabinet.filter_delete_ne (Ne.symm hname), h.kept]
  ordered := by
    apply Cabinet.pairwise_filenames_delete h.ordered
    intro first second hfirst hsecond hbefore
    exact hbefore.deleted hfirst hsecond

end Journal

/-! ## What an access does -/

namespace Cabinet

variable {c : Cabinet} {j : Journal}

/-- Deleting a name that is not there is no exception here: it leaves out nothing. -/
theorem documents_after_delete (c : Cabinet) (filename : String) :
    (c.after (.delete filename)).documents =
      c.documents.filter fun d ↦ d.filename != filename := by
  rw [after]
  by_cases hmem : filename ∈ c.filenames
  · rw [delete_of_mem hmem]
    rfl
  · have hnone : ∀ d ∈ c.documents, (d.filename != filename) = true := by
      intro d hd
      exact bne_iff_ne.mpr fun heq ↦ hmem (heq ▸ List.mem_map_of_mem hd)
    rw [delete_of_notMem hmem, List.filter_eq_self.mpr hnone]
    rfl

/-- An archive deletes in the same way. -/
theorem after_remove (c : Cabinet) (settings : Settings) (policy : Policy) (filename : String) :
    c.after (.request settings policy (.remove filename)) = c.after (.delete filename) := by
  simp only [after, Archive.serve, Request.command, Archive.apply, Archive.remove]
  cases c.delete filename with
  | ok later => rfl
  | error fault => rfl

theorem leaves_annotate (h : j.Leaves c.documents) (settings : Settings) (policy : Policy)
    (filename : String) (spelled : List String) :
    let access := Access.request settings policy (.annotate filename spelled)
    Journal.Leaves ((c.mark? access).toList ++ j) (c.after access).documents := by
  intro access
  set a : Archive := ⟨settings, policy, c⟩
  have hafter : c.after access = (a.annotate filename spelled).1.cabinet := rfl
  have hmark : c.mark? access = (a.annotate filename spelled).2.answer.toOption.map .written := rfl
  rw [hafter, hmark]
  cases hanswer : (a.annotate filename spelled).2.answer with
  | error fault =>
      rw [Archive.annotate_of_error hanswer]
      exact h
  | ok d =>
      rw [Archive.annotate_of_ok hanswer]
      exact h.written d

/-- One access keeps the documents to the journal. -/
theorem leaves_after (h : j.Leaves c.documents) (access : Access) :
    Journal.Leaves ((c.mark? access).toList ++ j) (c.after access).documents := by
  cases access with
  | save d => exact h.written d
  | delete filename =>
      rw [documents_after_delete]
      exact h.deleted filename
  | clear => exact Journal.leaves_of_writes_nil fun _ ↦ rfl
  | request settings policy r =>
      cases r with
      | annotate filename spelled => exact leaves_annotate h settings policy filename spelled
      | remove filename =>
          rw [after_remove, documents_after_delete]
          exact h.deleted filename

/-- After every mixed run the records are those that its journal leaves. -/
theorem leaves_afterAll (h : j.Leaves c.documents) (accesses : List Access) :
    (c.journal j accesses).Leaves (c.afterAll accesses).documents := by
  induction accesses generalizing c j with
  | nil => exact h
  | cons access rest ih => exact ih (leaves_after h access)

/-! ## Any cabinet, also one that holds a name twice -/

theorem saved_replaceFirst (d : Document) (documents : List Document) :
    Saved d documents (replaceFirst d documents) := by
  induction documents with
  | nil => exact .added (by simp)
  | cons e rest ih =>
      by_cases he : e.filename = d.filename
      · rw [replaceFirst, if_pos he]
        exact Saved.replaced (List.forall_mem_nil _) he
      · rw [replaceFirst, if_neg he]
        generalize replaceFirst d rest = made at ih
        cases ih with
        | replaced fresh same =>
            exact Saved.replaced (List.forall_mem_cons.mpr ⟨he, fresh⟩) same
        | added fresh => exact Saved.added (List.forall_mem_cons.mpr ⟨he, fresh⟩)

/-- A cabinet that began empty, whoever has changed it since, holds each name once: the document is
the one last written since the name was deleted or the cabinet cleared, and the names stand in the
order of their first writing since then.  In any cabinet, a document that was saved can be got and
stands in the place of the first of its name, or else at the end; a name that was deleted is gone;
and deleting a name that is not there fails and changes nothing. -/
theorem orderedMap_afterAll (accesses : List Access) :
    let cabinet := empty.afterAll accesses
    let journal := empty.journal [] accesses
    (cabinet.filenames.Nodup ∧
        (∀ filename, cabinet.get? filename = journal.lastWritten? filename) ∧
          cabinet.filenames.Pairwise journal.WrittenBefore) ∧
      ∀ c : Cabinet,
        (∀ d, (c.save d).get? d.filename = some d ∧ Saved d c.documents (c.save d).documents) ∧
          (∀ filename ∈ c.filenames, ∃ later, c.delete filename = .ok later ∧
            later.get? filename = none) ∧
            ∀ filename ∉ c.filenames, c.delete filename = .error (.fileNotFound filename) ∧
              ∀ settings policy, (⟨settings, policy, c⟩ : Archive).remove filename =
                (⟨settings, policy, c⟩, .error (.fileNotFound filename)) := by
  intro cabinet journal
  have hleaves : journal.Leaves cabinet.documents :=
    leaves_afterAll (Journal.leaves_of_writes_nil fun _ ↦ rfl) accesses
  refine ⟨⟨hleaves.nodup, hleaves.find?_eq, hleaves.ordered⟩, fun c ↦ ⟨?_, ?_, ?_⟩⟩
  · intro d
    exact ⟨get?_save c d, saved_replaceFirst d c.documents⟩
  · intro filename hmem
    exact ⟨_, delete_of_mem hmem, get?_of_delete (delete_of_mem hmem)⟩
  · intro filename hmem
    refine ⟨delete_of_notMem hmem, fun settings policy ↦ ?_⟩
    rw [Archive.remove, delete_of_notMem hmem]

-- overwriting keeps the place, and a name that comes back stands at the end
example :
    let a := Document.empty "a"
    let b := Document.empty "b"
    let c := empty.afterAll [.save b, .save a, .save { b with labels := ["x"] }, .delete "a",
      .delete "c", .save a, .request {} .lenient (.annotate "" [])]
    c.documents = [{ b with labels := ["x"] }, a] := rfl

end Cabinet

end PaperTrail
