import PaperTrail.Document.Search

/-!
# The order of queries

A query is a document, so queries and documents are compared by one relation.  Main statement:
it holds where each of the three lists of the query is within the list of the same kind, so no tag
is answered by one of another kind.  It is a preorder on names and sets of tags, it grows with the
document and falls with the query, and a query for two lists of tags finds what both of them find.
-/

namespace PaperTrail

namespace Document

/-- The same name and the same tags, however often and in whatever order they are held. -/
def SameTags (d e : Document) : Prop := d.filename = e.filename ∧ ∀ tag, tag ∈ d.tags ↔ tag ∈ e.tags

def only (kind : Tag.Kind) (d : Document) : Document :=
  match kind with
  | .label => { d with values := [], periods := [] }
  | .value => { d with labels := [], periods := [] }
  | .period => { d with labels := [], values := [] }

@[simp] theorem filename_only (kind : Tag.Kind) (d : Document) :
    (d.only kind).filename = d.filename := by
  cases kind <;> rfl

@[simp] theorem mem_tags_only {kind : Tag.Kind} {d : Document} {tag : Tag} :
    tag ∈ (d.only kind).tags ↔ tag ∈ d.tags ∧ tag.kind = kind := by
  cases kind <;> cases tag <;> simp [only, Tag.kind]

theorem satisfies_refl (d : Document) : d.satisfies d = true :=
  satisfies_iff.mpr ⟨Or.inr rfl, fun _ htag ↦ htag⟩

/-- A record that meets a query meets every query that the query itself meets. -/
theorem satisfies_trans {d query wider : Document} (h : d.satisfies query = true)
    (hwider : query.satisfies wider = true) : d.satisfies wider = true := by
  rw [satisfies_iff] at h hwider ⊢
  obtain ⟨hname, htags⟩ := h
  obtain ⟨hwiderName, hwiderTags⟩ := hwider
  refine ⟨?_, fun tag htag ↦ htags tag (hwiderTags tag htag)⟩
  rcases hwiderName with hany | heq
  · exact Or.inl hany
  · -- a query of any name only satisfies queries of any name
    rw [← heq]
    exact hname

/-- Order and repetition of tags play no part in a search. -/
theorem SameTags.satisfies_eq {d e query other : Document} (h : d.SameTags e)
    (hquery : query.SameTags other) : d.satisfies query = e.satisfies other := by
  rw [Bool.eq_iff_iff, satisfies_iff, satisfies_iff, h.1, hquery.1]
  simp only [h.2, hquery.2]

theorem satisfies_append {d query : Document} (h : d.satisfies query = true) (ts : List Tag) :
    (d.append ts).1.satisfies query = true := by
  rw [satisfies_iff] at h ⊢
  rw [filename_append]
  exact ⟨h.1, fun tag htag ↦ mem_tags_append.mpr (Or.inl (h.2 tag htag))⟩

theorem satisfies_of_append {d query : Document} {ts : List Tag}
    (h : d.satisfies (query.append ts).1 = true) : d.satisfies query = true := by
  rw [satisfies_iff, filename_append] at h
  exact satisfies_iff.mpr ⟨h.1, fun tag htag ↦ h.2 tag (mem_tags_append.mpr (Or.inl htag))⟩

theorem mem_tags_ofTags {filename : String} {ts : List Tag} {tag : Tag} :
    tag ∈ (ofTags filename ts).tags ↔ tag ∈ ts := by
  have hempty : (empty filename).tags = [] := rfl
  rw [ofTags, mem_tags_append, hempty]
  simp

theorem satisfies_ofTags_iff {d : Document} {filename : String} {ts : List Tag} :
    d.satisfies (ofTags filename ts) = true ↔
      (filename = "" ∨ d.filename = filename) ∧ ∀ tag ∈ ts, tag ∈ d.tags := by
  simp only [satisfies_iff, filename_ofTags, mem_tags_ofTags]

/-- A query by two lists of tags asks for both. -/
theorem satisfies_ofTags_append (d : Document) (filename : String) (ts us : List Tag) :
    d.satisfies (ofTags filename (ts ++ us)) =
      (d.satisfies (ofTags filename ts) && d.satisfies (ofTags filename us)) := by
  rw [Bool.eq_iff_iff, Bool.and_eq_true]
  simp only [satisfies_ofTags_iff, List.forall_mem_append]
  exact and_and_left

/-- The kinds of tags are searched apart from each other. -/
theorem satisfies_iff_forall_kind {d query : Document} :
    d.satisfies query = true ↔ ∀ kind, (d.only kind).satisfies (query.only kind) = true := by
  simp only [satisfies_iff, filename_only, mem_tags_only]
  constructor
  · rintro ⟨hname, htags⟩ kind
    exact ⟨hname, fun tag ⟨htag, hkind⟩ ↦ ⟨htags tag htag, hkind⟩⟩
  · intro h
    exact ⟨(h .label).1, fun tag htag ↦ ((h tag.kind).2 tag ⟨htag, rfl⟩).1⟩

/-- A document satisfies a query that has no other name and none but its labels, its values and its
periods, so a tag is looked for among the tags of its kind and nowhere else.  Every document
satisfies itself, and what satisfies a query satisfies all that the query satisfies.  Only names and
sets of tags matter.  Tags that are added to a document lose no query, tags that are added to a
query find no further document, and a query for two lists of tags finds what is found for both. -/
theorem satisfies_preorder (d query wider : Document) (ts us : List Tag) (filename : String)
    (documents : List Document) :
    (d.satisfies query = true ↔
      (query.filename = "" ∨ d.filename = query.filename) ∧ query.labels ⊆ d.labels ∧
        query.values ⊆ d.values ∧ query.periods ⊆ d.periods) ∧
      d.satisfies d = true ∧
      (d.satisfies query = true → query.satisfies wider = true → d.satisfies wider = true) ∧
      (∀ e other, d.SameTags e → query.SameTags other →
        d.satisfies query = e.satisfies other) ∧
      (d.satisfies query = true → (d.append ts).1.satisfies query = true) ∧
      (d.satisfies (query.append ts).1 = true → d.satisfies query = true) ∧
      search documents (ofTags filename (ts ++ us)) = documents.filter (fun e ↦
        e.satisfies (ofTags filename ts) && e.satisfies (ofTags filename us)) ∧
      (d.satisfies query = true ↔ ∀ kind, (d.only kind).satisfies (query.only kind) = true) := by
  refine ⟨satisfies_iff_subset, satisfies_refl d, satisfies_trans, fun _ _ ↦ SameTags.satisfies_eq,
    fun h ↦ satisfies_append h ts, satisfies_of_append, ?_, satisfies_iff_forall_kind⟩
  apply List.filter_congr
  intro e _
  exact satisfies_ofTags_append e filename ts us

-- the value "paid" does not answer a query for the label "paid"
example : (⟨"scan.pdf", [], [⟨"paid", ""⟩], []⟩ : Document).satisfies
    (ofTags "" [.label "paid"]) = false := by decide

end Document

end PaperTrail
