/-!
# Splitting text

Text is split at a character or at a part, and a part is taken off either end.  Each operation
is pinned down by one equivalence that says how the pieces make up the text again.
-/

namespace PaperTrail.Text

/-- What stands before the first `sep` and what follows it. -/
def splitFirst (sep : Char) : List Char → Option (List Char × List Char)
  | [] => none
  | c :: cs =>
      if c = sep then some ([], cs)
      else (splitFirst sep cs).map fun halves ↦ (c :: halves.1, halves.2)

@[simp] theorem splitFirst_nil (sep : Char) : splitFirst sep [] = none := rfl

@[simp] theorem splitFirst_cons_same (sep : Char) (cs : List Char) :
    splitFirst sep (sep :: cs) = some ([], cs) := by simp [splitFirst]

theorem splitFirst_cons_ne {sep c : Char} (cs : List Char) (h : c ≠ sep) :
    splitFirst sep (c :: cs) = (splitFirst sep cs).map fun halves ↦ (c :: halves.1, halves.2) := by
  simp [splitFirst, h]

theorem splitFirst_append {sep : Char} {as : List Char} (bs : List Char) (h : sep ∉ as) :
    splitFirst sep (as ++ sep :: bs) = some (as, bs) := by
  induction as with
  | nil => simp
  | cons a as ih =>
      simp only [List.mem_cons, not_or] at h
      simp [splitFirst, Ne.symm h.1, ih h.2]

theorem splitFirst_eq_some_iff {sep : Char} {cs as bs : List Char} :
    splitFirst sep cs = some (as, bs) ↔ cs = as ++ sep :: bs ∧ sep ∉ as := by
  constructor
  · intro h
    induction cs generalizing as with
    | nil => simp at h
    | cons c cs ih =>
        by_cases hc : c = sep
        · subst hc
          simp only [splitFirst_cons_same, Option.some.injEq, Prod.mk.injEq] at h
          obtain ⟨rfl, rfl⟩ := h
          simp
        · rw [splitFirst_cons_ne cs hc, Option.map_eq_some_iff] at h
          obtain ⟨⟨as', bs'⟩, hrest, hpair⟩ := h
          simp only [Prod.mk.injEq] at hpair
          obtain ⟨rfl, rfl⟩ := hpair
          obtain ⟨rfl, hmem⟩ := ih hrest
          simp [Ne.symm hc, hmem]
  · rintro ⟨rfl, hmem⟩
    exact splitFirst_append bs hmem

theorem splitFirst_eq_none_iff {sep : Char} {cs : List Char} :
    splitFirst sep cs = none ↔ sep ∉ cs := by
  induction cs with
  | nil => simp
  | cons c cs ih =>
      by_cases hc : c = sep
      · simp [hc]
      · simp [splitFirst_cons_ne cs hc, ih, Ne.symm hc]

/-- All the pieces between the occurrences of `sep`; there is one more of them than of `sep`. -/
def pieces (sep : Char) : List Char → List (List Char)
  | [] => [[]]
  | c :: cs =>
      if c = sep then [] :: pieces sep cs
      else match pieces sep cs with
        | [] => [[c]]
        | piece :: rest => (c :: piece) :: rest

@[simp] theorem pieces_nil (sep : Char) : pieces sep [] = [[]] := rfl

theorem pieces_ne_nil (sep : Char) (cs : List Char) : pieces sep cs ≠ [] := by
  cases cs with
  | nil => simp
  | cons c cs =>
      simp only [pieces]
      split
      · simp
      · split <;> simp

theorem pieces_of_not_mem {sep : Char} {cs : List Char} (h : sep ∉ cs) : pieces sep cs = [cs] := by
  induction cs with
  | nil => rfl
  | cons c cs ih =>
      simp only [List.mem_cons, not_or] at h
      simp [pieces, Ne.symm h.1, ih h.2]

theorem pieces_append {sep : Char} {as : List Char} (bs : List Char) (h : sep ∉ as) :
    pieces sep (as ++ sep :: bs) = as :: pieces sep bs := by
  induction as with
  | nil => simp [pieces]
  | cons a as ih =>
      simp only [List.mem_cons, not_or] at h
      simp [pieces, Ne.symm h.1, ih h.2]

/-- What is put in front of a text goes to its first piece. -/
theorem pieces_append_before {sep : Char} {before cs first : List Char}
    {rest : List (List Char)} (hbefore : sep ∉ before) (h : pieces sep cs = first :: rest) :
    pieces sep (before ++ cs) = (before ++ first) :: rest := by
  induction before with
  | nil => exact h
  | cons c before ih =>
      simp only [List.mem_cons, not_or] at hbefore
      simp [pieces, Ne.symm hbefore.1, ih hbefore.2]

/-- What is put behind a text goes to its last piece. -/
theorem pieces_append_behind {sep : Char} {behind : List Char} (hbehind : sep ∉ behind)
    {cs last : List Char} (front : List (List Char)) (h : pieces sep cs = front ++ [last]) :
    pieces sep (cs ++ behind) = front ++ [last ++ behind] := by
  induction cs generalizing front last with
  | nil =>
      obtain ⟨rfl, heq⟩ := List.append_eq_singleton_iff.mp h.symm |>.resolve_right (by simp)
      cases heq
      exact pieces_of_not_mem hbehind
  | cons c cs ih =>
      by_cases hc : c = sep
      · have hpieces : pieces sep (c :: cs) = [] :: pieces sep cs := by simp [pieces, hc]
        rw [hpieces] at h
        cases front with
        | nil => exact absurd (List.cons.inj h).2 (pieces_ne_nil sep cs)
        | cons f front =>
            obtain ⟨rfl, hrest⟩ := List.cons.inj h
            simp [pieces, hc, ih front hrest]
      · -- the character goes to the first piece, which may be the last one too
        have hnotMem : sep ∉ [c] := by simpa using Ne.symm hc
        obtain ⟨piece, rest, hpieces⟩ := List.exists_cons_of_ne_nil (pieces_ne_nil sep cs)
        have hcons := pieces_append_before hnotMem hpieces
        rw [List.singleton_append] at hcons
        rw [hcons] at h
        cases front with
        | nil =>
            obtain ⟨rfl, rfl⟩ := List.cons.inj h
            exact pieces_append_before hnotMem (ih [] hpieces)
        | cons f front =>
            obtain ⟨rfl, rfl⟩ := List.cons.inj h
            exact pieces_append_before hnotMem (ih (piece :: front) hpieces)

theorem sep_notMem_of_mem_pieces {sep : Char} {cs piece : List Char}
    (h : piece ∈ pieces sep cs) : sep ∉ piece := by
  induction cs generalizing piece with
  | nil =>
      obtain rfl : piece = [] := by simpa using h
      exact List.not_mem_nil
  | cons c cs ih =>
      by_cases hc : c = sep
      · rw [pieces, if_pos hc] at h
        rcases List.mem_cons.mp h with rfl | hrest
        · exact List.not_mem_nil
        · exact ih hrest
      · obtain ⟨first, rest, hpieces⟩ := List.exists_cons_of_ne_nil (pieces_ne_nil sep cs)
        have hnotMem : sep ∉ [c] := by simpa using Ne.symm hc
        have hcons := pieces_append_before hnotMem hpieces
        rw [List.singleton_append] at hcons
        rw [hcons] at h
        rw [hpieces] at ih
        rcases List.mem_cons.mp h with rfl | hrest
        · rw [List.mem_append, not_or]
          exact ⟨hnotMem, ih List.mem_cons_self⟩
        · exact ih (List.mem_cons_of_mem first hrest)

/-- Splitting at a separator loses nothing. -/
theorem intercalate_pieces (sep : Char) (cs : List Char) :
    [sep].intercalate (pieces sep cs) = cs := by
  induction cs with
  | nil => rfl
  | cons c cs ih =>
      obtain ⟨first, rest, hpieces⟩ := List.exists_cons_of_ne_nil (pieces_ne_nil sep cs)
      rw [hpieces] at ih
      by_cases hc : c = sep
      · rw [pieces, if_pos hc, hpieces, List.intercalate_cons_cons, ih, hc]
        rfl
      · have hnotMem : sep ∉ [c] := by simpa using Ne.symm hc
        have hcons := pieces_append_before hnotMem hpieces
        rw [List.singleton_append] at hcons
        rw [hcons]
        cases rest with
        | nil => simpa using ih
        | cons second rest =>
            rw [List.intercalate_cons_cons] at ih ⊢
            rw [List.append_assoc, List.append_assoc, ← List.append_assoc first, ih]
            rfl

theorem pieces_intercalate {sep : Char} {parts : List (List Char)} (hne : parts ≠ [])
    (h : ∀ part ∈ parts, sep ∉ part) : pieces sep ([sep].intercalate parts) = parts := by
  induction parts with
  | nil => exact absurd rfl hne
  | cons part rest ih =>
      have hpart := h part List.mem_cons_self
      cases rest with
      | nil =>
          rw [List.intercalate_singleton]
          exact pieces_of_not_mem hpart
      | cons next rest =>
          have hrest := ih (by simp) fun p hp ↦ h p (List.mem_cons_of_mem part hp)
          rw [List.intercalate_cons_cons, List.append_assoc, List.singleton_append,
            pieces_append _ hpart, hrest]

/-- The pieces are the parts without a separator in them that make up the text again. -/
theorem pieces_eq_iff {sep : Char} {cs : List Char} {parts : List (List Char)} :
    pieces sep cs = parts ↔
      parts ≠ [] ∧ (∀ part ∈ parts, sep ∉ part) ∧ [sep].intercalate parts = cs := by
  constructor
  · rintro rfl
    exact ⟨pieces_ne_nil sep cs, fun _ ↦ sep_notMem_of_mem_pieces, intercalate_pieces sep cs⟩
  · rintro ⟨hne, hparts, rfl⟩
    exact pieces_intercalate hne hparts

def afterStart (part cs : List Char) : Option (List Char) :=
  if part.isPrefixOf cs then some (cs.drop part.length) else none

theorem afterStart_eq_some_iff {part cs rest : List Char} :
    afterStart part cs = some rest ↔ cs = part ++ rest := by
  constructor
  · intro h
    simp only [afterStart] at h
    split at h
    · next hpart =>
        obtain ⟨rest', rfl⟩ := List.isPrefixOf_iff_prefix.mp hpart
        simpa using h
    · simp at h
  · rintro rfl
    simp [afterStart]

theorem afterStart_eq_none_of_head? {part cs : List Char} {c : Char} (hpart : part.head? = some c)
    (hcs : cs.head? ≠ some c) : afterStart part cs = none := by
  cases hstart : afterStart part cs with
  | none => rfl
  | some rest =>
      rw [afterStart_eq_some_iff.mp hstart, List.head?_append, hpart] at hcs
      exact absurd rfl hcs

def beforeEnd (part cs : List Char) : Option (List Char) :=
  if part.isSuffixOf cs then some (cs.take (cs.length - part.length)) else none

theorem beforeEnd_eq_some_iff {part cs rest : List Char} :
    beforeEnd part cs = some rest ↔ cs = rest ++ part := by
  constructor
  · intro h
    simp only [beforeEnd] at h
    split at h
    · next hpart =>
        obtain ⟨rest', rfl⟩ := List.isSuffixOf_iff_suffix.mp hpart
        simpa using h
    · simp at h
  · rintro rfl
    have hpart : part.isSuffixOf (rest ++ part) = true :=
      List.isSuffixOf_iff_suffix.mpr ⟨rest, rfl⟩
    simp [beforeEnd, hpart]

theorem beforeEnd_eq_none_of_getLast? {part cs : List Char} {c : Char}
    (hpart : part.getLast? = some c) (hcs : cs.getLast? ≠ some c) : beforeEnd part cs = none := by
  cases hend : beforeEnd part cs with
  | none => rfl
  | some rest =>
      rw [beforeEnd_eq_some_iff.mp hend, List.getLast?_append, hpart] at hcs
      exact absurd rfl hcs

/-- What stands before the first occurrence of `part` and what follows it.  The empty part
occurs at the very start. -/
def splitAtPart (part cs : List Char) : Option (List Char × List Char) :=
  match afterStart part cs, cs with
  | some rest, _ => some ([], rest)
  | none, [] => none
  | none, c :: cs => (splitAtPart part cs).map fun halves ↦ (c :: halves.1, halves.2)

def hasPart (part cs : List Char) : Bool := (splitAtPart part cs).isSome

theorem splitAtPart_of_afterStart {part cs rest : List Char} (h : afterStart part cs = some rest) :
    splitAtPart part cs = some ([], rest) := by
  unfold splitAtPart
  split <;> simp_all

theorem splitAtPart_cons {part cs : List Char} {c : Char}
    (h : afterStart part (c :: cs) = none) :
    splitAtPart part (c :: cs) =
      (splitAtPart part cs).map fun halves ↦ (c :: halves.1, halves.2) := by
  rw [splitAtPart.eq_def]
  split <;> simp_all

/-- A part is found at its first occurrence when its first character stands nowhere before it. -/
theorem splitAtPart_append {part as : List Char} {c : Char} (hpart : part.head? = some c)
    (h : c ∉ as) (bs : List Char) : splitAtPart part (as ++ (part ++ bs)) = some (as, bs) := by
  induction as with
  | nil => exact splitAtPart_of_afterStart (afterStart_eq_some_iff.mpr rfl)
  | cons a as ih =>
      simp only [List.mem_cons, not_or] at h
      have hstart : afterStart part (a :: (as ++ (part ++ bs))) = none :=
        afterStart_eq_none_of_head? hpart (by simpa using Ne.symm h.1)
      rw [List.cons_append, splitAtPart_cons hstart, ih h.2]
      rfl

theorem eq_of_splitAtPart {part cs as bs : List Char} (h : splitAtPart part cs = some (as, bs)) :
    cs = as ++ part ++ bs := by
  induction cs generalizing as with
  | nil =>
      cases hstart : afterStart part [] with
      | none => simp [splitAtPart, hstart] at h
      | some rest =>
          rw [splitAtPart_of_afterStart hstart] at h
          cases h
          simpa using afterStart_eq_some_iff.mp hstart
  | cons c cs ih =>
      cases hstart : afterStart part (c :: cs) with
      | none =>
          rw [splitAtPart_cons hstart, Option.map_eq_some_iff] at h
          obtain ⟨⟨as', bs'⟩, hrest, hpair⟩ := h
          cases hpair
          rw [ih hrest]
          simp
      | some rest =>
          rw [splitAtPart_of_afterStart hstart] at h
          cases h
          simpa using afterStart_eq_some_iff.mp hstart

/-- The search for a part is the infix relation on characters. -/
theorem hasPart_eq_true_iff {part cs : List Char} : hasPart part cs = true ↔ part <:+: cs := by
  constructor
  · intro h
    obtain ⟨⟨as, bs⟩, hsplit⟩ := Option.isSome_iff_exists.mp h
    exact ⟨as, bs, (eq_of_splitAtPart hsplit).symm⟩
  · rintro ⟨as, bs, rfl⟩
    induction as with
    | nil =>
        have hstart : afterStart part ([] ++ part ++ bs) = some bs :=
          afterStart_eq_some_iff.mpr (by simp)
        rw [hasPart, splitAtPart_of_afterStart hstart]
        rfl
    | cons a as ih =>
        have hcons : a :: as ++ part ++ bs = a :: (as ++ part ++ bs) := rfl
        rw [hcons]
        cases hstart : afterStart part (a :: (as ++ part ++ bs)) with
        | some rest =>
            rw [hasPart, splitAtPart_of_afterStart hstart]
            rfl
        | none =>
            rw [hasPart, splitAtPart_cons hstart, Option.isSome_map]
            exact ih

end PaperTrail.Text
