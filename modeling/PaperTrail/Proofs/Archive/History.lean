import Mathlib.Data.List.DropRight
import PaperTrail.Archive.Command

/-!
# The history of an archive

An archive that is opened empty and changed through its own requests holds what was granted and
nothing else.  Main statement: its documents are those that were filed since their last removal,
in the order of the first such filing, and each of them carries the tags of all of these filings.
A request that is refused changes nothing.
-/

namespace PaperTrail

/-- A change that is asked for through the archive, and not past its policy. -/
inductive Request
  | annotate (filename : String) (spelled : List String)
  | remove (filename : String)
deriving DecidableEq

def Request.command : Request → Command
  | annotate filename spelled => .annotate filename spelled
  | remove filename => .remove filename

inductive Change
  | filed (filename : String) (tags : List Tag)
  | removed (filename : String)
deriving DecidableEq

def Change.tagsOn? (filename : String) : Change → Option (List Tag)
  | filed name tags => if name = filename then some tags else none
  | removed _ => none

/-- The changes that were made, each with the number of requests before it. -/
abbrev History := List (Nat × Change)

namespace History

/-- The filings of a file since its last removal, each with its time. -/
def filings (h : History) (filename : String) : List (Nat × List Tag) :=
  (h.rtakeWhile fun entry ↦ entry.2 != .removed filename).filterMap fun entry ↦
    (entry.2.tagsOn? filename).map (Prod.mk entry.1)

def document? (h : History) (filename : String) : Option Document :=
  match h.filings filename with
  | [] => none
  | filings => some (.ofTags filename (filings.flatMap Prod.snd))

def firstFiled? (h : History) (filename : String) : Option Nat :=
  (h.filings filename).head?.map Prod.fst

/-- The first filing since the removal was earlier for the one file than for the other. -/
def FiledBefore (h : History) (first second : String) : Prop :=
  ∃ m n, h.firstFiled? first = some m ∧ h.firstFiled? second = some n ∧ m < n

end History

namespace Archive

def grant (a : Archive) : Request → Except Fault Change
  | .annotate filename spelled => do
      let _ ← (a.annotate filename spelled).2.answer
      let tags ← a.settings.separators.readAll spelled
      return .filed filename tags
  | .remove filename => do
      (a.remove filename).2
      return .removed filename

/-- The reasons for which a request is not granted. -/
inductive Refuses (a : Archive) : Request → Prop
  | unreadable {filename : String} {spelled : List String} {raw : String} {fault : Fault}
      (mem : raw ∈ spelled) (unread : a.settings.separators.read raw = .error fault) :
      Refuses a (.annotate filename spelled)
  | flawed {filename : String} {spelled : List String} {tags : List Tag} {flaw : Flaw}
      (read : a.settings.separators.readAll spelled = .ok tags)
      (flawed : a.policy.check (a.revised filename tags) = .error flaw) :
      Refuses a (.annotate filename spelled)
  | unknown {filename : String} (notMem : filename ∉ a.cabinet.filenames) :
      Refuses a (.remove filename)

def serve (a : Archive) (r : Request) : Archive := a.apply r.command

def serveAll (a : Archive) (requests : List Request) : Archive :=
  a.applyAll (requests.map Request.command)

def historyFrom (a : Archive) (time : Nat) : List Request → History
  | [] => []
  | r :: rest =>
      let later := (a.serve r).historyFrom (time + 1) rest
      match a.grant r with
      | .ok change => (time, change) :: later
      | .error _ => later

def history (a : Archive) (requests : List Request) : History := a.historyFrom 0 requests

end Archive

/-! ## One more change in a history -/

namespace History

variable {h : History} {time : Nat} {filename other : String} {tags : List Tag}

theorem filings_filed_self :
    filings (h ++ [(time, .filed filename tags)]) filename =
      h.filings filename ++ [(time, tags)] := by
  rw [filings, List.rtakeWhile_concat_pos _ _ _ (by simp), List.filterMap_append, filings]
  simp [Change.tagsOn?]

theorem filings_filed_ne (hne : other ≠ filename) :
    filings (h ++ [(time, .filed filename tags)]) other = h.filings other := by
  rw [filings, List.rtakeWhile_concat_pos _ _ _ (by simp), List.filterMap_append, filings]
  simp [Change.tagsOn?, Ne.symm hne]

theorem filings_removed_self : filings (h ++ [(time, .removed filename)]) filename = [] := by
  rw [filings, List.rtakeWhile_concat_neg _ _ _ (by simp), List.filterMap_nil]

theorem filings_removed_ne (hne : other ≠ filename) :
    filings (h ++ [(time, .removed filename)]) other = h.filings other := by
  rw [filings, List.rtakeWhile_concat_pos _ _ _ (by simpa using Ne.symm hne),
    List.filterMap_append, filings]
  simp [Change.tagsOn?]

theorem mem_of_mem_filings {entry : Nat × List Tag} (hentry : entry ∈ h.filings filename) :
    ∃ change, (entry.1, change) ∈ h := by
  obtain ⟨⟨time, change⟩, hmem, htags⟩ := List.mem_filterMap.mp hentry
  obtain ⟨tags, -, rfl⟩ := Option.map_eq_some_iff.mp htags
  exact ⟨change, (List.rtakeWhile_suffix _ _).mem hmem⟩

theorem mem_of_firstFiled? (hfirst : h.firstFiled? filename = some time) :
    ∃ change, (time, change) ∈ h := by
  obtain ⟨entry, hentry, rfl⟩ := Option.map_eq_some_iff.mp hfirst
  exact mem_of_mem_filings (List.mem_of_mem_head? hentry)

theorem document?_eq_none_iff : h.document? filename = none ↔ h.filings filename = [] := by
  unfold document?
  cases h.filings filename with
  | nil => simp
  | cons entry rest => simp

/-- What a history tells of a name is the record of all tags filed since it was last removed. -/
theorem getD_document? :
    (h.document? filename).getD (.empty filename) =
      .ofTags filename ((h.filings filename).flatMap Prod.snd) := by
  unfold document?
  cases h.filings filename with
  | nil => rfl
  | cons entry rest => rfl

theorem document?_congr {h' : History} (heq : h'.filings filename = h.filings filename) :
    h'.document? filename = h.document? filename := by
  rw [document?, heq, document?]

/-- Putting tags on a file adds them to the document that its filings make. -/
theorem document?_filed_self :
    document? (h ++ [(time, .filed filename tags)]) filename =
      some (((h.document? filename).getD (.empty filename)).append tags).1 := by
  have hsome : document? (h ++ [(time, .filed filename tags)]) filename =
      some (.ofTags filename ((h.filings filename ++ [(time, tags)]).flatMap Prod.snd)) := by
    rw [document?, filings_filed_self]
    cases h.filings filename with
    | nil => rfl
    | cons entry rest => rfl
  rw [hsome, getD_document?, List.flatMap_append, Document.ofTags, Document.append_append]
  simp [Document.ofTags]

/-- A later filing does not change which one was the first. -/
theorem firstFiled?_filed {name : String} {first : Nat} (hfirst : h.firstFiled? name = some first) :
    firstFiled? (h ++ [(time, .filed filename tags)]) name = some first := by
  by_cases hname : name = filename
  · subst hname
    rw [firstFiled?, filings_filed_self]
    obtain ⟨entry, hentry, rfl⟩ := Option.map_eq_some_iff.mp hfirst
    rw [List.head?_append, hentry]
    rfl
  · rw [firstFiled?, filings_filed_ne hname]
    exact hfirst

theorem FiledBefore.filed {first second : String} (hbefore : h.FiledBefore first second) :
    FiledBefore (h ++ [(time, .filed filename tags)]) first second := by
  obtain ⟨m, n, hm, hn, hlt⟩ := hbefore
  exact ⟨m, n, firstFiled?_filed hm, firstFiled?_filed hn, hlt⟩

theorem FiledBefore.removed {first second : String} (hbefore : h.FiledBefore first second)
    (hfirst : first ≠ filename) (hsecond : second ≠ filename) :
    FiledBefore (h ++ [(time, .removed filename)]) first second := by
  obtain ⟨m, n, hm, hn, hlt⟩ := hbefore
  refine ⟨m, n, ?_, ?_, hlt⟩
  · rw [firstFiled?, filings_removed_ne hfirst]
    exact hm
  · rw [firstFiled?, filings_removed_ne hsecond]
    exact hn

/-! ## The documents that a history tells of -/

/-- At this time the documents are what the history says. -/
structure Tells (h : History) (time : Nat) (documents : List Document) : Prop where
  past : ∀ entry ∈ h, entry.1 < time
  kept : ∀ filename, documents.filter (fun d ↦ d.filename == filename) =
    (h.document? filename).toList
  ordered : (documents.map Document.filename).Pairwise h.FiledBefore

theorem tells_nil : Tells [] 0 [] where
  past := by simp
  kept := fun _ ↦ rfl
  ordered := List.Pairwise.nil

variable {documents : List Document}

theorem Tells.find?_eq (ht : Tells h time documents) (filename : String) :
    documents.find? (fun d ↦ d.filename == filename) = h.document? filename := by
  rw [← List.head?_filter, ht.kept]
  cases h.document? filename with
  | none => rfl
  | some d => rfl

theorem Tells.filings_eq_nil_iff (ht : Tells h time documents) :
    h.filings filename = [] ↔ filename ∉ documents.map Document.filename := by
  rw [← document?_eq_none_iff, ← ht.find?_eq filename]
  simp

theorem Tells.wait (ht : Tells h time documents) : Tells h (time + 1) documents where
  past := fun entry hentry ↦ Nat.lt_succ_of_lt (ht.past entry hentry)
  kept := ht.kept
  ordered := ht.ordered

theorem past_concat {change : Change} (hpast : ∀ entry ∈ h, entry.1 < time) :
    ∀ entry ∈ h ++ [(time, change)], entry.1 < time + 1 := by
  intro entry hentry
  rcases List.mem_append.mp hentry with hold | hnew
  · exact Nat.lt_succ_of_lt (hpast entry hold)
  · rw [List.mem_singleton.mp hnew]
    exact Nat.lt_succ_self time

theorem firstFiled?_filed_self (hnone : h.filings filename = []) :
    firstFiled? (h ++ [(time, .filed filename tags)]) filename = some time := by
  rw [firstFiled?, filings_filed_self, hnone]
  rfl

theorem Tells.firstFiled?_of_mem (ht : Tells h time documents)
    (hmem : filename ∈ documents.map Document.filename) :
    ∃ m, h.firstFiled? filename = some m ∧ m < time := by
  have hsome : h.filings filename ≠ [] := fun hnil ↦ ht.filings_eq_nil_iff.mp hnil hmem
  obtain ⟨entry, rest, hentry⟩ := List.exists_cons_of_ne_nil hsome
  have hfirst : h.firstFiled? filename = some entry.1 := by rw [firstFiled?, hentry]; rfl
  obtain ⟨change, hchange⟩ := mem_of_firstFiled? hfirst
  exact ⟨entry.1, hfirst, ht.past _ hchange⟩

/-- A filing keeps the list of records in step with the history. -/
theorem Tells.filed (ht : Tells h time documents) {d : Document} (hname : d.filename = filename)
    (hd : d = (((h.document? filename).getD (.empty filename)).append tags).1) :
    Tells (h ++ [(time, .filed filename tags)]) (time + 1)
      (Cabinet.replaceFirst d documents) where
  past := past_concat ht.past
  kept := by
    intro other
    by_cases hother : other = filename
    · have htail : (h.document? filename).toList.tail = [] := by
        cases h.document? filename <;> rfl
      rw [hother, document?_filed_self, ← hd, ← hname, Cabinet.filter_replaceFirst_self, hname,
        ht.kept, htail]
      rfl
    · rw [Cabinet.filter_replaceFirst_ne (by rw [hname]; exact Ne.symm hother), ht.kept,
        document?_congr (filings_filed_ne hother)]
  ordered := by
    apply Cabinet.pairwise_filenames_replaceFirst (ht.ordered.imp FiledBefore.filed)
    -- a file that is there was filed before now
    intro hfresh name hin
    obtain ⟨m, hm, hlt⟩ := ht.firstFiled?_of_mem hin
    rw [hname] at hfresh ⊢
    have hnone : h.filings filename = [] := ht.filings_eq_nil_iff.mpr hfresh
    exact ⟨m, time, firstFiled?_filed hm, firstFiled?_filed_self hnone, hlt⟩

theorem Tells.removed (ht : Tells h time documents) :
    Tells (h ++ [(time, .removed filename)]) (time + 1)
      (documents.filter fun d ↦ d.filename != filename) where
  past := past_concat ht.past
  kept := by
    intro other
    by_cases hother : other = filename
    · rw [hother, document?, filings_removed_self, Cabinet.filter_delete_self]
      rfl
    · rw [document?_congr (filings_removed_ne hother), ← ht.kept,
        Cabinet.filter_delete_ne hother]
  ordered := by
    apply Cabinet.pairwise_filenames_delete ht.ordered
    intro first second hfirst hsecond hbefore
    exact hbefore.removed hfirst hsecond

end History

/-! ## What a request does -/

namespace Archive

variable {a : Archive} {filename : String} {spelled : List String}

theorem grant_annotate_eq_ok_iff {change : Change} :
    a.grant (.annotate filename spelled) = .ok change ↔
      ∃ tags, a.settings.separators.readAll spelled = .ok tags ∧
        a.policy.check (a.revised filename tags) = .ok () ∧ change = .filed filename tags := by
  rw [grant, Fault.bind_eq_ok_iff]
  constructor
  · rintro ⟨d, hd, h⟩
    obtain ⟨tags, hread, hcheck, rfl⟩ := answer_annotate_eq_ok_iff.mp hd
    rw [hread] at h
    cases h
    exact ⟨tags, hread, hcheck, rfl⟩
  · rintro ⟨tags, hread, hcheck, rfl⟩
    refine ⟨_, answer_annotate_eq_ok_iff.mpr ⟨tags, hread, hcheck, rfl⟩, ?_⟩
    rw [hread]
    rfl

theorem grant_remove_eq_ok_iff {change : Change} :
    a.grant (.remove filename) = .ok change ↔
      filename ∈ a.cabinet.filenames ∧ change = .removed filename := by
  by_cases hmem : filename ∈ a.cabinet.filenames
  · simp [grant, remove, Cabinet.delete, hmem, bind, Except.bind, pure, Except.pure, eq_comm]
  · simp [grant, remove, Cabinet.delete, hmem, bind, Except.bind]

theorem refuses_of_annotate_error {fault : Fault}
    (h : (a.annotate filename spelled).2.answer = .error fault) :
    a.Refuses (.annotate filename spelled) := by
  cases hread : a.settings.separators.readAll spelled with
  | error other =>
      obtain ⟨raw, hraw, cause, hcause⟩ := Separators.readAll_fails_iff.mp ⟨other, hread⟩
      exact .unreadable hraw hcause
  | ok tags =>
      cases hcheck : a.policy.check (a.revised filename tags) with
      | error flaw => exact .flawed hread hcheck
      | ok u =>
          rw [answer_annotate_eq_ok_iff.mpr ⟨tags, hread, hcheck, rfl⟩] at h
          cases h

/-- The three things that can come of a request. -/
theorem serve_cases (a : Archive) (r : Request) :
    (∃ fault, a.grant r = .error fault ∧ a.Refuses r ∧ a.serve r = a) ∨
      (∃ filename tags, a.grant r = .ok (.filed filename tags) ∧
        a.serve r = { a with cabinet := a.cabinet.save (a.revised filename tags) }) ∨
      ∃ filename, a.grant r = .ok (.removed filename) ∧
        a.serve r =
          { a with cabinet := ⟨a.documents.filter fun d ↦ d.filename != filename⟩ } := by
  cases r with
  | annotate filename spelled =>
      cases hanswer : (a.annotate filename spelled).2.answer with
      | error fault =>
          have hgrant : a.grant (.annotate filename spelled) = .error fault := by
            rw [grant, hanswer]
            rfl
          exact Or.inl ⟨fault, hgrant, refuses_of_annotate_error hanswer,
            annotate_of_error hanswer⟩
      | ok d =>
          obtain ⟨tags, hread, hcheck, rfl⟩ := answer_annotate_eq_ok_iff.mp hanswer
          have hgrant := grant_annotate_eq_ok_iff.mpr ⟨tags, hread, hcheck, rfl⟩
          exact Or.inr (Or.inl ⟨filename, tags, hgrant, annotate_of_ok hanswer⟩)
  | remove filename =>
      by_cases hmem : filename ∈ a.cabinet.filenames
      · have hserve : a.serve (.remove filename) =
            { a with cabinet := ⟨a.documents.filter fun d ↦ d.filename != filename⟩ } := by
          simp [serve, Request.command, apply, remove, Cabinet.delete, hmem, documents]
        exact Or.inr (Or.inr ⟨filename, grant_remove_eq_ok_iff.mpr ⟨hmem, rfl⟩, hserve⟩)
      · have hgrant : a.grant (.remove filename) = .error (.fileNotFound filename) := by
          simp [grant, remove, Cabinet.delete, hmem, bind, Except.bind]
        have hserve : a.serve (.remove filename) = a := by
          simp [serve, Request.command, apply, remove, Cabinet.delete, hmem]
        exact Or.inl ⟨_, hgrant, .unknown hmem, hserve⟩

theorem not_grant_of_refuses {r : Request} (h : a.Refuses r) (change : Change) :
    a.grant r ≠ .ok change := by
  intro hgrant
  cases h with
  | unreadable hraw hunread =>
      obtain ⟨tags, hread, -, -⟩ := grant_annotate_eq_ok_iff.mp hgrant
      obtain ⟨fault, hfault⟩ := Separators.readAll_fails_iff.mpr ⟨_, hraw, _, hunread⟩
      rw [hread] at hfault
      cases hfault
  | flawed hread hflawed =>
      obtain ⟨tags, hread', hcheck, -⟩ := grant_annotate_eq_ok_iff.mp hgrant
      rw [hread] at hread'
      cases hread'
      rw [hflawed] at hcheck
      cases hcheck
  | unknown hmem => exact hmem (grant_remove_eq_ok_iff.mp hgrant).1

/-- A request is refused for one of the three reasons, and for no other. -/
theorem grant_fails_iff {r : Request} : (∃ fault, a.grant r = .error fault) ↔ a.Refuses r := by
  constructor
  · rintro ⟨fault, hfault⟩
    rcases serve_cases a r with ⟨-, -, hrefuses, -⟩ | ⟨_, _, hgrant, -⟩ | ⟨_, hgrant, -⟩
    · exact hrefuses
    · cases hfault.symm.trans hgrant
    · cases hfault.symm.trans hgrant
  · intro h
    cases hgrant : a.grant r with
    | error fault => exact ⟨fault, rfl⟩
    | ok change => exact absurd hgrant (not_grant_of_refuses h change)

/-- A refused request leaves the archive as it was. -/
theorem serve_of_refuses {r : Request} (h : a.Refuses r) : a.serve r = a := by
  rcases serve_cases a r with ⟨-, -, -, hserve⟩ | ⟨_, _, hgrant, -⟩ | ⟨_, hgrant, -⟩
  · exact hserve
  · exact absurd hgrant (not_grant_of_refuses h _)
  · exact absurd hgrant (not_grant_of_refuses h _)

/-! ## Runs -/

theorem serveAll_append (a : Archive) (first second : List Request) :
    a.serveAll (first ++ second) = (a.serveAll first).serveAll second := by
  rw [serveAll, List.map_append, applyAll_append, serveAll, serveAll]

theorem historyFrom_cons (a : Archive) (time : Nat) (r : Request) (rest : List Request) :
    a.historyFrom time (r :: rest) =
      a.historyFrom time [r] ++ (a.serve r).historyFrom (time + 1) rest := by
  simp only [historyFrom]
  cases a.grant r with
  | ok change => rfl
  | error fault => rfl

theorem historyFrom_append (a : Archive) (time : Nat) (first second : List Request) :
    a.historyFrom time (first ++ second) =
      a.historyFrom time first ++ (a.serveAll first).historyFrom (time + first.length) second := by
  induction first generalizing a time with
  | nil => rfl
  | cons r rest ih =>
      have hserve : a.serveAll (r :: rest) = (a.serve r).serveAll rest := rfl
      rw [List.cons_append, historyFrom_cons, ih, historyFrom_cons a time r rest, hserve,
        List.length_cons, List.append_assoc, Nat.add_assoc, Nat.add_comm 1]

/-- One request keeps the documents to what the history says. -/
theorem tells_serve {h : History} {time : Nat} (ht : h.Tells time a.documents) (r : Request) :
    History.Tells (h ++ a.historyFrom time [r]) (time + 1) (a.serve r).documents := by
  rcases serve_cases a r with ⟨fault, hgrant, -, hserve⟩ | ⟨filename, tags, hgrant, hserve⟩ |
      ⟨filename, hgrant, hserve⟩
  · have hnew : a.historyFrom time [r] = [] := by simp [historyFrom, hgrant]
    rw [hnew, hserve, List.append_nil]
    exact ht.wait
  · have hnew : a.historyFrom time [r] = [(time, .filed filename tags)] := by
      simp [historyFrom, hgrant]
    rw [hnew, hserve]
    refine ht.filed (filename_revised a filename tags) ?_
    rw [revised, ← ht.find?_eq]
    rfl
  · have hnew : a.historyFrom time [r] = [(time, .removed filename)] := by
      simp [historyFrom, hgrant]
    rw [hnew, hserve]
    exact ht.removed

/-- After every run the records are those that its history tells. -/
theorem tells_serveAll (settings : Settings) (policy : Policy) (requests : List Request) :
    let opened : Archive := ⟨settings, policy, .empty⟩
    (opened.history requests).Tells requests.length (opened.serveAll requests).documents := by
  intro opened
  -- the last request is the step: what is known of the time before it is the invariant
  induction requests using List.reverseRecOn with
  | nil => exact History.tells_nil
  | append_singleton requests r ih =>
      rw [history, historyFrom_append, serveAll_append, Nat.zero_add, List.length_append]
      exact tells_serve ih r

/-- After any run of requests on an archive that was opened empty, each file has one document if
it was filed since its last removal, and none otherwise.  The document carries the tags of all
these filings, the documents stand in the order of the first of them, and no refused request
has changed anything. -/
theorem documents_serveAll (settings : Settings) (policy : Policy) (requests : List Request) :
    let opened : Archive := ⟨settings, policy, .empty⟩
    let history := opened.history requests
    let documents := (opened.serveAll requests).documents
    (∀ filename, documents.filter (fun d ↦ d.filename == filename) =
        (history.document? filename).toList) ∧
      (documents.map Document.filename).Pairwise history.FiledBefore ∧
        ∀ (a : Archive) (r : Request),
          ((∃ fault, a.grant r = .error fault) ↔ a.Refuses r) ∧ (a.Refuses r → a.serve r = a) := by
  intro opened history documents
  have htells := tells_serveAll settings policy requests
  exact ⟨htells.kept, htells.ordered, fun a r ↦ ⟨grant_fails_iff, serve_of_refuses⟩⟩

-- a key without value is refused, and a file that comes back stands behind the others
example :
    let opened : Archive := {}
    let requests := [.annotate "a" ["x"], .annotate "b" ["k:"], .annotate "b" ["y"], .remove "a",
      .annotate "a" ["z", "z"]]
    (opened.history requests).map Prod.fst = [0, 2, 3, 4] ∧
      (opened.serveAll requests).documents =
        [.ofTags "b" [.label "y"], .ofTags "a" [.label "z"]] :=
  ⟨rfl, rfl⟩

end Archive

end PaperTrail
