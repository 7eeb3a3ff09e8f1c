import PaperTrail.Proofs.Document.Repeats

/-!
# What added tags leave in a document

Each list takes in the items that it does not hold yet, in the order in which they come first, and
keeps what it holds in place.  Main statement: adding tags is a union that counts its newcomers,
and only a document that holds no tag twice is made anew from its own tags.
-/

namespace PaperTrail

section Newcomers

variable {α : Type} [DecidableEq α] {held : List α} {a : α}

/-- The items that are not held yet, each where it comes first. -/
def newcomers (held items : List α) : List α := (items.filter (· ∉ held)).eraseDups

@[simp] theorem newcomers_nil (held : List α) : newcomers held [] = [] := rfl

theorem newcomers_cons_of_mem (h : a ∈ held) (items : List α) :
    newcomers held (a :: items) = newcomers held items := by
  simp [newcomers, h]

theorem newcomers_cons_of_notMem (h : a ∉ held) (items : List α) :
    newcomers held (a :: items) = a :: newcomers (held ++ [a]) items := by
  have hlater : (items.filter (· ∉ held)).filter (fun b ↦ !b == a) =
      items.filter (· ∉ held ++ [a]) := by
    rw [List.filter_filter]
    apply List.filter_congr
    intro b _
    by_cases hb : b = a <;> simp [hb]
  rw [newcomers, List.filter_cons_of_pos (by simpa using h), List.eraseDups_cons, hlater, newcomers]

/-- The items that came first are held when the others come. -/
theorem newcomers_append (held items others : List α) :
    newcomers held (items ++ others) =
      newcomers held items ++ newcomers (held ++ newcomers held items) others := by
  induction items generalizing held with
  | nil => simp
  | cons a items ih =>
      rw [List.cons_append]
      by_cases ha : a ∈ held
      · rw [newcomers_cons_of_mem ha, newcomers_cons_of_mem ha, ih]
      · rw [newcomers_cons_of_notMem ha, newcomers_cons_of_notMem ha, ih]
        simp

end Newcomers

namespace Document

theorem add_eq (d : Document) (tag : Tag) :
    (d.add tag).1 = ⟨d.filename, d.labels ++ newcomers d.labels tag.label?.toList,
      d.values ++ newcomers d.values tag.value?.toList,
      d.periods ++ newcomers d.periods tag.period?.toList⟩ := by
  rw [add]
  split
  · next hthere =>
      cases tag <;> simp_all [has, newcomers_cons_of_mem, Tag.label?, Tag.value?, Tag.period?]
  · next hnew =>
      cases tag <;>
        simp_all [has, push, newcomers_cons_of_notMem, Tag.label?, Tag.value?, Tag.period?]

/-- Appending puts the newcomers of each kind behind those that are there. -/
theorem append_eq (d : Document) (ts : List Tag) :
    (d.append ts).1 = ⟨d.filename, d.labels ++ newcomers d.labels (ts.filterMap Tag.label?),
      d.values ++ newcomers d.values (ts.filterMap Tag.value?),
      d.periods ++ newcomers d.periods (ts.filterMap Tag.period?)⟩ := by
  induction ts generalizing d with
  | nil => simp
  | cons t ts ih =>
      rw [append_cons, ih, add_eq]
      simp only [List.filterMap_eq_flatMap_toList, List.flatMap_cons, newcomers_append,
        List.append_assoc]

theorem tagCount_add (d : Document) (tag : Tag) :
    (d.add tag).1.tagCount = d.tagCount + (d.add tag).2.toNat := by
  rw [add]
  split
  · rfl
  · cases tag <;> simp only [push, tagCount, List.length_append, List.length_singleton,
      Bool.toNat_true] <;> omega

/-- The count that appending answers is the number of tags gained. -/
theorem tagCount_append (d : Document) (ts : List Tag) :
    (d.append ts).1.tagCount = d.tagCount + (d.append ts).2 := by
  induction ts generalizing d with
  | nil => rfl
  | cons t ts ih => rw [append_cons, ih, tagCount_add, Nat.add_assoc]

/-- Appending the same tags once more changes nothing and counts none. -/
theorem append_again (d : Document) (ts : List Tag) :
    (d.append ts).1.append ts = ((d.append ts).1, 0) :=
  append_of_forall_mem fun _ ht ↦ mem_tags_append.mpr (Or.inr ht)

/-- The lists of a document stay where they are, so a repeat in one of them stays too. -/
theorem noRepeats_append_iff {d : Document} {ts : List Tag} :
    (d.append ts).1.NoRepeats ↔ d.NoRepeats := by
  constructor
  · intro h
    rw [append_eq] at h
    exact ⟨h.labels.of_append_left, h.values.of_append_left, h.periods.of_append_left⟩
  · intro h
    exact h.append ts

theorem ofTags_tags_iff {d : Document} : ofTags d.filename d.tags = d ↔ d.NoRepeats := by
  constructor
  · intro h
    rw [← h]
    exact (noRepeats_empty d.filename).append d.tags
  · intro h
    exact ofTags_tags h d.filename

/-- Adding tags keeps the name and every list as it is, up to the newcomers behind it.  It counts
them, adds nothing but the tags and no repeats, does nothing the second time, and can be done in
two parts. -/
theorem append_union (d : Document) (ts us : List Tag) :
    let added := (d.append ts).1
    added = ⟨d.filename, d.labels ++ newcomers d.labels (ts.filterMap Tag.label?),
        d.values ++ newcomers d.values (ts.filterMap Tag.value?),
        d.periods ++ newcomers d.periods (ts.filterMap Tag.period?)⟩ ∧
      added.tagCount = d.tagCount + (d.append ts).2 ∧
      (∀ tag, tag ∈ added.tags ↔ tag ∈ d.tags ∨ tag ∈ ts) ∧
      (added.NoRepeats ↔ d.NoRepeats) ∧
      added.append ts = (added, 0) ∧
      d.append (ts ++ us) = ((added.append us).1, (d.append ts).2 + (added.append us).2) ∧
      (ofTags d.filename d.tags = d ↔ d.NoRepeats) :=
  ⟨append_eq d ts, tagCount_append d ts, fun _ ↦ mem_tags_append, noRepeats_append_iff,
    append_again d ts, append_append d ts us, ofTags_tags_iff⟩

-- a label that the document holds twice stays, and of two new ones that are equal one is added
example :
    (⟨"scan.pdf", ["paid", "paid"], [], []⟩ : Document).append
        [.label "open", .value ⟨"paid", ""⟩, .label "paid", .label "open"] =
      (⟨"scan.pdf", ["paid", "paid", "open"], [⟨"paid", ""⟩], []⟩, 2) := by decide

end Document

end PaperTrail
