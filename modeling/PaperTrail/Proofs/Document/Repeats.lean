import Mathlib.Data.List.Nodup
import PaperTrail.Document.Basic

/-!
# Documents without repeated tags

Adding tags never makes a document hold one twice.  Main statements: tags that a document has
already leave it as it is, and a document that holds no tag twice is made anew from its own tags.
-/

namespace PaperTrail

namespace Tag

def label? : Tag → Option String
  | label name => some name
  | _ => none

def value? : Tag → Option ValueTag
  | value tag => some tag
  | _ => none

def period? : Tag → Option PeriodTag
  | period tag => some tag
  | _ => none

end Tag

namespace Document

structure NoRepeats (d : Document) : Prop where
  labels : d.labels.Nodup
  values : d.values.Nodup
  periods : d.periods.Nodup

theorem noRepeats_iff_nodup_tags {d : Document} : d.NoRepeats ↔ d.tags.Nodup := by
  have hlabels : (d.labels.map Tag.label).Nodup ↔ d.labels.Nodup :=
    List.nodup_map_iff fun _ _ h ↦ by cases h; rfl
  have hvalues : (d.values.map Tag.value).Nodup ↔ d.values.Nodup :=
    List.nodup_map_iff fun _ _ h ↦ by cases h; rfl
  have hperiods : (d.periods.map Tag.period).Nodup ↔ d.periods.Nodup :=
    List.nodup_map_iff fun _ _ h ↦ by cases h; rfl
  rw [tags, List.nodup_append, List.nodup_append, hlabels, hvalues, hperiods]
  constructor
  · rintro ⟨hl, hv, hp⟩
    refine ⟨hl, ⟨hv, hp, by simp⟩, ?_⟩
    rintro tag hlabel other hother rfl
    obtain ⟨name, -, rfl⟩ := List.mem_map.mp hlabel
    simp at hother
  · rintro ⟨hl, ⟨hv, hp, -⟩, -⟩
    exact ⟨hl, hv, hp⟩

theorem noRepeats_empty (filename : String) : (empty filename).NoRepeats :=
  ⟨List.nodup_nil, List.nodup_nil, List.nodup_nil⟩

theorem tags_push_perm (d : Document) (tag : Tag) : (d.push tag).tags.Perm (tag :: d.tags) := by
  cases tag with
  | label name => simp [push, tags]
  | value tag =>
      simp only [push, tags, List.map_append, List.map_singleton, List.append_assoc,
        List.singleton_append]
      rw [← List.append_assoc, ← List.append_assoc]
      exact List.perm_middle
  | period tag =>
      simp only [push, tags, List.map_append, List.map_singleton]
      rw [← List.append_assoc, ← List.append_assoc, ← List.append_assoc]
      exact List.perm_append_singleton _ _

theorem nodup_tags_push {d : Document} {tag : Tag} :
    (d.push tag).tags.Nodup ↔ tag ∉ d.tags ∧ d.tags.Nodup := by
  rw [(tags_push_perm d tag).nodup_iff, List.nodup_cons]

theorem NoRepeats.add {d : Document} (h : d.NoRepeats) (tag : Tag) : (d.add tag).1.NoRepeats := by
  unfold Document.add
  split
  · exact h
  · next hnew =>
      rw [noRepeats_iff_nodup_tags, nodup_tags_push, ← has_iff_mem_tags]
      exact ⟨hnew, noRepeats_iff_nodup_tags.mp h⟩

/-- No sequence of appended tags brings a repetition in. -/
theorem NoRepeats.append {d : Document} (h : d.NoRepeats) (ts : List Tag) :
    (d.append ts).1.NoRepeats := by
  induction ts generalizing d with
  | nil => exact h
  | cons t ts ih => exact ih (h.add t)

/-! ## Tags that are there already -/

theorem add_of_mem {d : Document} {tag : Tag} (h : tag ∈ d.tags) : d.add tag = (d, false) :=
  if_pos (has_iff_mem_tags.mpr h)

theorem append_of_forall_mem {d : Document} {ts : List Tag} (h : ∀ t ∈ ts, t ∈ d.tags) :
    d.append ts = (d, 0) := by
  induction ts with
  | nil => rfl
  | cons t ts ih =>
      rw [append_cons, add_of_mem (h t List.mem_cons_self),
        ih fun u hu ↦ h u (List.mem_cons_of_mem t hu)]
      rfl

/-! ## Tags that are all new -/

def pushAll (d : Document) (ts : List Tag) : Document := ts.foldl push d

theorem pushAll_eq (d : Document) (ts : List Tag) :
    d.pushAll ts = ⟨d.filename, d.labels ++ ts.filterMap Tag.label?,
      d.values ++ ts.filterMap Tag.value?, d.periods ++ ts.filterMap Tag.period?⟩ := by
  induction ts generalizing d with
  | nil => simp [pushAll]
  | cons t ts ih =>
      have hnext : d.pushAll (t :: ts) = (d.push t).pushAll ts := rfl
      rw [hnext, ih]
      cases t <;> simp [push, List.filterMap_cons, Tag.label?, Tag.value?, Tag.period?]

/-- Tags that are new and differ are all appended. -/
theorem append_of_nodup {d : Document} {ts : List Tag} (h : (ts ++ d.tags).Nodup) :
    (d.append ts).1 = d.pushAll ts := by
  induction ts generalizing d with
  | nil => rfl
  | cons t ts ih =>
      have hnew : t ∉ d.tags := fun ht ↦
        (List.nodup_cons.mp h).1 (List.mem_append_right ts ht)
      have hadd : d.add t = (d.push t, true) := if_neg (mt has_iff_mem_tags.mp hnew)
      have hrest : (ts ++ (d.push t).tags).Nodup := by
        rw [((tags_push_perm d t).append_left ts).nodup_iff, List.perm_middle.nodup_iff]
        exact h
      rw [append_cons, hadd]
      exact ih hrest

/-- The tags of a document, put on another name, give the same three lists. -/
theorem ofTags_tags {d : Document} (h : d.NoRepeats) (filename : String) :
    ofTags filename d.tags = { d with filename } := by
  have hnodup : (d.tags ++ (empty filename).tags).Nodup := by
    simpa [empty, tags] using noRepeats_iff_nodup_tags.mp h
  rw [ofTags, append_of_nodup hnodup, pushAll_eq]
  simp [empty, tags, List.filterMap_map, Function.comp_def, Tag.label?, Tag.value?, Tag.period?]

end Document

end PaperTrail
