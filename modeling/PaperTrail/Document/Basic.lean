import PaperTrail.Tag.Basic

/-!
# Tagged documents

A document is known by its filename and carries its tags in three lists, one per kind.  Adding a
tag never makes a list hold it twice; lists that come from outside are taken as they are.
-/

namespace PaperTrail

structure Document where
  filename : String
  labels : List String
  values : List ValueTag
  periods : List PeriodTag
deriving DecidableEq

namespace Document

def empty (filename : String) : Document := ⟨filename, [], [], []⟩

/-- The tags in display order: labels, values, periods. -/
def tags (d : Document) : List Tag :=
  d.labels.map Tag.label ++ (d.values.map Tag.value ++ d.periods.map Tag.period)

def tagCount (d : Document) : Nat := d.labels.length + d.values.length + d.periods.length

def isUntagged (d : Document) : Bool := d.tagCount == 0

def has (d : Document) : Tag → Bool
  | .label name => d.labels.contains name
  | .value tag => d.values.contains tag
  | .period tag => d.periods.contains tag

def push (d : Document) : Tag → Document
  | .label name => { d with labels := d.labels ++ [name] }
  | .value tag => { d with values := d.values ++ [tag] }
  | .period tag => { d with periods := d.periods ++ [tag] }

/-- The flag says whether the tag is new. -/
def add (d : Document) (tag : Tag) : Document × Bool :=
  if d.has tag then (d, false) else (d.push tag, true)

/-- Adds the tags in turn and counts the new ones. -/
def append (d : Document) : List Tag → Document × Nat
  | [] => (d, 0)
  | tag :: rest =>
      let (next, isNew) := d.add tag
      let (last, count) := next.append rest
      (last, isNew.toNat + count)

def ofTags (filename : String) (tags : List Tag) : Document := ((empty filename).append tags).1

def hasKey (d : Document) (key : String) : Bool := d.tags.any fun tag ↦ tag.key == key

def valuesOf (d : Document) (key : String) : List String :=
  (d.values.filter fun tag ↦ tag.key == key).map ValueTag.value

@[simp] theorem append_nil (d : Document) : d.append [] = (d, 0) := rfl

theorem append_cons (d : Document) (tag : Tag) (rest : List Tag) :
    d.append (tag :: rest) =
      (((d.add tag).1.append rest).1, (d.add tag).2.toNat + ((d.add tag).1.append rest).2) := rfl

/-- Tags may be appended in two goes: records and counts of new tags add up. -/
theorem append_append (d : Document) (ts us : List Tag) :
    d.append (ts ++ us) =
      (((d.append ts).1.append us).1, (d.append ts).2 + ((d.append ts).1.append us).2) := by
  induction ts generalizing d with
  | nil => simp
  | cons t ts ih => simp [append_cons, ih, Nat.add_assoc]

@[simp] theorem filename_push (d : Document) (tag : Tag) : (d.push tag).filename = d.filename := by
  cases tag <;> rfl

@[simp] theorem filename_add (d : Document) (tag : Tag) : (d.add tag).1.filename = d.filename := by
  unfold add
  split <;> simp

@[simp] theorem filename_append (d : Document) (ts : List Tag) :
    (d.append ts).1.filename = d.filename := by
  induction ts generalizing d with
  | nil => rfl
  | cons t ts ih => simp [append_cons, ih]

@[simp] theorem filename_ofTags (filename : String) (ts : List Tag) :
    (ofTags filename ts).filename = filename := by
  simp [ofTags, empty]

theorem has_iff_mem_tags {d : Document} {tag : Tag} : d.has tag = true ↔ tag ∈ d.tags := by
  cases tag <;> simp [has, tags]

@[simp] theorem label_mem_tags {d : Document} {name : String} :
    Tag.label name ∈ d.tags ↔ name ∈ d.labels := by
  simp [tags]

@[simp] theorem value_mem_tags {d : Document} {tag : ValueTag} :
    Tag.value tag ∈ d.tags ↔ tag ∈ d.values := by
  simp [tags]

@[simp] theorem period_mem_tags {d : Document} {tag : PeriodTag} :
    Tag.period tag ∈ d.tags ↔ tag ∈ d.periods := by
  simp [tags]

theorem mem_tags_push {d : Document} {tag other : Tag} :
    other ∈ (d.push tag).tags ↔ other ∈ d.tags ∨ other = tag := by
  cases tag <;> cases other <;> simp [push]

theorem mem_tags_add {d : Document} {tag other : Tag} :
    other ∈ (d.add tag).1.tags ↔ other ∈ d.tags ∨ other = tag := by
  unfold add
  split
  · next h =>
      rw [has_iff_mem_tags] at h
      constructor
      · exact Or.inl
      · rintro (hold | rfl)
        · exact hold
        · exact h
  · exact mem_tags_push

/-- Appending loses no tag and brings in exactly those that were given. -/
theorem mem_tags_append {d : Document} {ts : List Tag} {other : Tag} :
    other ∈ (d.append ts).1.tags ↔ other ∈ d.tags ∨ other ∈ ts := by
  induction ts generalizing d with
  | nil => simp
  | cons t ts ih =>
      rw [append_cons]
      simp only [ih, mem_tags_add, List.mem_cons, or_assoc]

end Document

end PaperTrail
