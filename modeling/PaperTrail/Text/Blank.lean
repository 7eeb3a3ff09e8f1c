import PaperTrail.Numeral

/-!
# Blank characters

A character is blank if it has the Unicode property `White_Space`.  Core's `Char.isWhitespace`
knows only a few of them, so the property is given here by its intervals of code points.
Trimming removes the blank characters at both ends of a text and nothing else.
-/

namespace PaperTrail.Text

/-- The intervals of code points with the property `White_Space`. -/
def blankIntervals : List (Nat × Nat) :=
  [(0x0009, 0x000D), (0x0020, 0x0020), (0x0085, 0x0085), (0x00A0, 0x00A0), (0x1680, 0x1680),
    (0x2000, 0x200A), (0x2028, 0x2029), (0x202F, 0x202F), (0x205F, 0x205F), (0x3000, 0x3000)]

def liesIn (intervals : List (Nat × Nat)) (c : Char) : Bool :=
  intervals.any fun interval ↦ interval.1 ≤ c.toNat && c.toNat ≤ interval.2

def isBlank (c : Char) : Bool := liesIn blankIntervals c

def trimStart (cs : List Char) : List Char := cs.dropWhile isBlank

def trimEnd (cs : List Char) : List Char := (cs.reverse.dropWhile isBlank).reverse

def trim (cs : List Char) : List Char := trimEnd (trimStart cs)

/-- No character of the text would survive trimming. -/
def allBlank (s : String) : Bool := s.toList.all isBlank

theorem not_isBlank_of_isDigit {c : Char} (h : c.isDigit = true) : isBlank c = false := by
  have hc := Numeral.isDigit_iff_toNat.mp h
  simp only [isBlank, liesIn, blankIntervals, List.any_cons, List.any_nil, Bool.or_false,
    Bool.or_eq_false_iff, Bool.and_eq_false_iff, decide_eq_false_iff_not]
  omega

theorem trimStart_of_head {c : Char} (cs : List Char) (h : isBlank c = false) :
    trimStart (c :: cs) = c :: cs := by
  simp [trimStart, h]

theorem trimEnd_concat {c : Char} (cs : List Char) (h : isBlank c = false) :
    trimEnd (cs ++ [c]) = cs ++ [c] := by
  simp [trimEnd, h]

theorem trimEnd_of_forall {cs : List Char} (h : ∀ c ∈ cs, isBlank c = false) :
    trimEnd cs = cs := by
  rcases List.eq_nil_or_concat cs with rfl | ⟨front, last, rfl⟩
  · rfl
  · simpa using trimEnd_concat front (h last (by simp))

/-- Trimming keeps a text whose first and last characters have ink. -/
theorem trim_of_ends {cs : List Char} (hfirst : ∀ c ∈ cs.head?, isBlank c = false)
    (hlast : ∀ c ∈ cs.getLast?, isBlank c = false) : trim cs = cs := by
  cases cs with
  | nil => rfl
  | cons c cs =>
      obtain ⟨front, last, heq⟩ := (List.eq_nil_or_concat (c :: cs)).resolve_left (by simp)
      have hlastBlank : isBlank last = false := hlast last (by simp [heq])
      rw [trim, trimStart_of_head cs (hfirst c rfl), heq, List.concat_eq_append,
        trimEnd_concat front hlastBlank]

theorem trim_of_forall {cs : List Char} (h : ∀ c ∈ cs, isBlank c = false) : trim cs = cs :=
  trim_of_ends (fun c hc ↦ h c (List.mem_of_head? hc)) (fun c hc ↦ h c (List.mem_of_getLast? hc))

theorem trimStart_append_of_blank {before : List Char} (h : ∀ c ∈ before, isBlank c = true)
    (cs : List Char) : trimStart (before ++ cs) = trimStart cs :=
  List.dropWhile_append_of_pos h

theorem trimStart_eq_nil_iff {cs : List Char} : trimStart cs = [] ↔ ∀ c ∈ cs, isBlank c = true := by
  constructor
  · intro h
    have hall : cs.takeWhile isBlank = cs := by
      have hcut := List.takeWhile_append_dropWhile (p := isBlank) (l := cs)
      rwa [← trimStart, h, List.append_nil] at hcut
    rw [← List.all_eq_true, ← hall]
    exact List.all_takeWhile
  · intro h
    simpa [trimStart] using trimStart_append_of_blank h []

theorem trimEnd_append_of_blank {behind : List Char} (h : ∀ c ∈ behind, isBlank c = true)
    (cs : List Char) : trimEnd (cs ++ behind) = trimEnd cs := by
  have hreverse : ∀ c ∈ behind.reverse, isBlank c = true := fun c hc ↦
    h c (List.mem_reverse.mp hc)
  rw [trimEnd, trimEnd, List.reverse_append, List.dropWhile_append_of_pos hreverse]

/-- Blanks around a text make no difference. -/
theorem trim_surrounded {before behind : List Char} (hbefore : ∀ c ∈ before, isBlank c = true)
    (hbehind : ∀ c ∈ behind, isBlank c = true) (cs : List Char) :
    trim (before ++ cs ++ behind) = trim cs := by
  rw [trim, trim, List.append_assoc, trimStart_append_of_blank hbefore]
  by_cases hcs : trimStart cs = []
  · -- of a blank text nothing is left, and then nothing of the blanks behind it
    rw [trimStart_append_of_blank (trimStart_eq_nil_iff.mp hcs), hcs,
      trimStart_eq_nil_iff.mpr hbehind]
  · have hstart : trimStart (cs ++ behind) = trimStart cs ++ behind := by
      simp only [trimStart, List.dropWhile_append, List.isEmpty_iff]
      exact if_neg hcs
    rw [hstart, trimEnd_append_of_blank hbehind]

/-- The core is what is left of a text without the blanks at its ends. -/
structure IsCore (cs core : List Char) : Prop where
  surrounded : ∃ before behind, (∀ c ∈ before, isBlank c = true) ∧
    (∀ c ∈ behind, isBlank c = true) ∧ cs = before ++ core ++ behind
  first : ∀ c ∈ core.head?, isBlank c = false
  last : ∀ c ∈ core.getLast?, isBlank c = false

theorem exists_trimStart (cs : List Char) :
    ∃ before, (∀ c ∈ before, isBlank c = true) ∧ cs = before ++ trimStart cs :=
  ⟨cs.takeWhile isBlank, List.all_eq_true.mp List.all_takeWhile,
    List.takeWhile_append_dropWhile.symm⟩

theorem exists_trimEnd (cs : List Char) :
    ∃ behind, (∀ c ∈ behind, isBlank c = true) ∧ cs = trimEnd cs ++ behind := by
  obtain ⟨before, hbefore, heq⟩ := exists_trimStart cs.reverse
  refine ⟨before.reverse, fun c hc ↦ hbefore c (List.mem_reverse.mp hc), ?_⟩
  have hreverse := congrArg List.reverse heq
  rwa [List.reverse_append, List.reverse_reverse] at hreverse

theorem not_isBlank_head?_trimStart (cs : List Char) :
    ∀ c ∈ (trimStart cs).head?, isBlank c = false := by
  intro c hc
  have hhead := List.head?_dropWhile_not isBlank cs
  rw [← trimStart, Option.mem_def.mp hc] at hhead
  exact hhead

theorem not_isBlank_getLast?_trimEnd (cs : List Char) :
    ∀ c ∈ (trimEnd cs).getLast?, isBlank c = false := by
  rw [trimEnd, List.getLast?_reverse]
  exact not_isBlank_head?_trimStart cs.reverse

/-- Trimming leaves the core, which there is only one of. -/
theorem trim_eq_iff {cs core : List Char} : trim cs = core ↔ IsCore cs core := by
  constructor
  · rintro rfl
    obtain ⟨before, hbefore, hstart⟩ := exists_trimStart cs
    obtain ⟨behind, hbehind, hend⟩ := exists_trimEnd (trimStart cs)
    refine ⟨⟨before, behind, hbefore, hbehind, ?_⟩, fun c hc ↦ ?_,
      not_isBlank_getLast?_trimEnd (trimStart cs)⟩
    · rw [List.append_assoc, trim, ← hend, ← hstart]
    · refine not_isBlank_head?_trimStart cs c ?_
      rw [hend, List.head?_append, ← trim, Option.mem_def.mp hc]
      rfl
  · rintro ⟨⟨before, behind, hbefore, hbehind, rfl⟩, hfirst, hlast⟩
    rw [trim_surrounded hbefore hbehind, trim_of_ends hfirst hlast]

theorem trim_eq_nil_iff {cs : List Char} : trim cs = [] ↔ ∀ c ∈ cs, isBlank c = true := by
  rw [trim_eq_iff]
  constructor
  · rintro ⟨⟨before, behind, hbefore, hbehind, rfl⟩, -, -⟩
    rw [List.append_nil]
    exact List.forall_mem_append.mpr ⟨hbefore, hbehind⟩
  · intro h
    exact ⟨⟨cs, [], h, List.forall_mem_nil _, by simp⟩, by simp, by simp⟩

theorem allBlank_eq_true_iff {s : String} : allBlank s = true ↔ trim s.toList = [] := by
  rw [allBlank, List.all_eq_true, trim_eq_nil_iff]

/-- The second text is the first one with blanks around it. -/
def Spaced (s s' : String) : Prop :=
  ∃ before behind : List Char, (∀ c ∈ before, isBlank c = true) ∧
    (∀ c ∈ behind, isBlank c = true) ∧ s'.toList = before ++ s.toList ++ behind

namespace Spaced

variable {s s' : String}

theorem refl (s : String) : Spaced s s :=
  ⟨[], [], List.forall_mem_nil _, List.forall_mem_nil _, by simp⟩

theorem trim_eq (h : Spaced s s') : trim s'.toList = trim s.toList := by
  obtain ⟨before, behind, hbefore, hbehind, heq⟩ := h
  rw [heq, trim_surrounded hbefore hbehind]

theorem isCore_iff (h : Spaced s s') {core : List Char} :
    IsCore s'.toList core ↔ IsCore s.toList core := by
  rw [← trim_eq_iff, h.trim_eq, trim_eq_iff]

theorem isBlank_of_mem (h : Spaced "" s') {c : Char} (hc : c ∈ s'.toList) : isBlank c = true :=
  trim_eq_nil_iff.mp h.trim_eq c hc

theorem eq_empty (h : Spaced s "") : s = "" := by
  obtain ⟨before, behind, -, -, heq⟩ := h
  simp only [String.toList_empty, List.nil_eq, List.append_eq_nil_iff] at heq
  exact String.toList_eq_nil_iff.mp heq.1.2

end Spaced

end PaperTrail.Text
