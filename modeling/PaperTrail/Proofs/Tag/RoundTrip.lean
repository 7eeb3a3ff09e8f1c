import PaperTrail.Proofs.Tag.Reading

/-!
# Reading and spelling tags

Main statements: a tag that was read is spelled as it was written, quotes around a value apart,
whatever the separators are.  Where the separators cannot be taken for parts of a date, a tag that
was spelled is read back, provided that its own texts do not get in the way of the separators.
-/

namespace PaperTrail.Separators

open Text

variable {s : Separators} {raw : String}

/-! ## Quotes around a value -/

def IsQuoted (cs : List Char) : Prop :=
  2 ≤ cs.length ∧ cs.head? = some '"' ∧ cs.getLast? = some '"'

theorem isQuoted_iff {cs : List Char} :
    IsQuoted cs ↔ ∃ inner, cs = '"' :: (inner ++ ['"']) := by
  constructor
  · rintro ⟨hlength, hhead, hlast⟩
    obtain ⟨rest, rfl⟩ := List.head?_eq_some_iff.mp hhead
    rcases List.eq_nil_or_concat rest with rfl | ⟨inner, c, rfl⟩
    · simp at hlength
    · have hc : c = '"' := by simpa [List.getLast?_cons] using hlast
      exact ⟨inner, by rw [hc, List.concat_eq_append]⟩
  · rintro ⟨inner, rfl⟩
    refine ⟨?_, rfl, ?_⟩
    · simp
    · rw [List.getLast?_cons]
      simp

theorem unquote_quoted (inner : List Char) : unquote ('"' :: (inner ++ ['"'])) = inner := by
  have hend : beforeEnd ['"'] (inner ++ ['"']) = some inner := beforeEnd_eq_some_iff.mpr rfl
  simp [unquote, hend]

theorem unquote_of_not_isQuoted {cs : List Char} (h : ¬ IsQuoted cs) : unquote cs = cs := by
  unfold unquote
  split
  · next rest =>
      cases hend : beforeEnd ['"'] rest with
      | none => rfl
      | some inner =>
          rw [beforeEnd_eq_some_iff.mp hend] at h
          exact absurd (isQuoted_iff.mpr ⟨inner, rfl⟩) h
  · rfl

theorem unquote_eq_self_iff {cs : List Char} : unquote cs = cs ↔ ¬ IsQuoted cs := by
  constructor
  · intro h hquoted
    obtain ⟨inner, rfl⟩ := isQuoted_iff.mp hquoted
    rw [unquote_quoted] at h
    have hlength := congrArg List.length h
    rw [List.length_cons, List.length_append, List.length_singleton] at hlength
    omega
  · exact unquote_of_not_isQuoted

/-! ## The text of a tag -/

theorem dayText_eq (day : Option Date) : dayText day = (day.map Date.compact).getD "" := by
  cases day with
  | none => rfl
  | some d => rfl

theorem toList_spell_value (s : Separators) (tag : ValueTag) :
    (s.spell (.value tag)).toList = tag.key.toList ++ s.keyEnd :: tag.value.toList := by
  simp [spell]

theorem toList_spell_period (s : Separators) (tag : PeriodTag) :
    (s.spell (.period tag)).toList = tag.key.toList ++ s.keyEnd ::
      ((dayText tag.period.first).toList ++
        (s.rangeMark.toList ++ (dayText tag.period.last).toList)) := by
  simp [spell]

/-! ## Read, then spelled -/

/-- The text behind the key stands in quotes, and the tag is its value. -/
def IsQuotedValue (s : Separators) (raw : String) (t : Tag) : Prop :=
  t.kind = .value ∧ ∃ key rest, raw.toList = key ++ s.keyEnd :: rest ∧ s.keyEnd ∉ key ∧
    IsQuoted rest

theorem spell_label_of_read {name : String} (h : s.read raw = .ok (.label name)) :
    s.spell (.label name) = raw :=
  (read_eq_label_iff.mp h).1

theorem spell_of_splitDays {tag : PeriodTag} {rest : List Char}
    (hsplit : s.splitKey raw = some (tag.key.toList, rest))
    (hdays : s.splitDays rest =
      some (tag.period.first.map Date.compact, tag.period.last.map Date.compact)) :
    s.spell (.period tag) = raw := by
  apply String.toList_injective
  rw [toList_spell_period, dayText_eq, dayText_eq, ← (eq_of_splitDays hdays).2,
    (splitKey_eq_some_iff.mp hsplit).1]

theorem spell_period_of_read {tag : PeriodTag} (h : s.read raw = .ok (.period tag)) :
    s.spell (.period tag) = raw := by
  obtain ⟨rest, hsplit, -, hdays, -⟩ := read_eq_period_iff.mp h
  exact spell_of_splitDays hsplit hdays

theorem spell_value_of_read {tag : ValueTag} (h : s.read raw = .ok (.value tag)) :
    ∃ rest, raw.toList = tag.key.toList ++ s.keyEnd :: rest ∧ s.keyEnd ∉ tag.key.toList ∧
      (s.spell (.value tag)).toList = tag.key.toList ++ s.keyEnd :: unquote rest := by
  obtain ⟨rest, hsplit, -, -, hvalue⟩ := read_eq_value_iff.mp h
  obtain ⟨hraw, hkey⟩ := splitKey_eq_some_iff.mp hsplit
  refine ⟨rest, hraw, hkey, ?_⟩
  rw [toList_spell_value, ← hvalue, String.toList_ofList]

/-- A tag is spelled as it was read unless its value stood between quotes. -/
theorem spell_of_not_isQuotedValue {t : Tag} (h : s.read raw = .ok t)
    (hquoted : ¬ s.IsQuotedValue raw t) : s.spell t = raw := by
  cases t with
  | label name => exact spell_label_of_read h
  | period tag => exact spell_period_of_read h
  | value tag =>
      obtain ⟨rest, hraw, hkey, hspell⟩ := spell_value_of_read h
      have hrest : ¬ IsQuoted rest := fun hrest ↦
        hquoted ⟨rfl, tag.key.toList, rest, hraw, hkey, hrest⟩
      apply String.toList_injective
      rw [hspell, unquote_of_not_isQuoted hrest, hraw]

/-- A quoted value loses its two quotes and nothing else. -/
theorem spell_of_isQuotedValue {t : Tag} (h : s.read raw = .ok t)
    (hquoted : s.IsQuotedValue raw t) :
    ∃ key inner, s.keyEnd ∉ key ∧ raw.toList = key ++ s.keyEnd :: '"' :: (inner ++ ['"']) ∧
      (s.spell t).toList = key ++ s.keyEnd :: inner := by
  obtain ⟨hkind, key, rest, hraw, hkey, hrest⟩ := hquoted
  obtain ⟨inner, rfl⟩ := isQuoted_iff.mp hrest
  cases t with
  | label name => cases hkind
  | period tag => cases hkind
  | value tag =>
      obtain ⟨rest, hraw', hkey', hspell⟩ := spell_value_of_read h
      have hsplit := (splitKey_eq_some_iff.mpr ⟨hraw, hkey⟩).symm.trans
        (splitKey_eq_some_iff.mpr ⟨hraw', hkey'⟩)
      cases hsplit
      refine ⟨tag.key.toList, inner, hkey, hraw, ?_⟩
      rw [hspell, unquote_quoted]

/-- A tag that was read is spelled as it was written, except that a value loses the quotes around
it.  So no two texts give the same tag, unless one of them has such quotes. -/
theorem spell_read {t : Tag} (h : s.read raw = .ok t) :
    (¬ s.IsQuotedValue raw t → s.spell t = raw) ∧
      (s.IsQuotedValue raw t →
        ∃ key inner, s.keyEnd ∉ key ∧ raw.toList = key ++ s.keyEnd :: '"' :: (inner ++ ['"']) ∧
          (s.spell t).toList = key ++ s.keyEnd :: inner) ∧
      ∀ other, s.read other = .ok t → ¬ s.IsQuotedValue raw t → ¬ s.IsQuotedValue other t →
        other = raw := by
  refine ⟨spell_of_not_isQuotedValue h, spell_of_isQuotedValue h, ?_⟩
  intro other hother hraw hquoted
  exact (spell_of_not_isQuotedValue hother hquoted).symm.trans (spell_of_not_isQuotedValue h hraw)

/-- An empty range mark makes every text of eight digits a period that is open at its start. -/
def emptyMark : Separators := { rangeMark := "" }

def lastOfJanuary : Date := ⟨2014, 1, 31, by decide⟩

def untilJanuary : Tag := .period ⟨"k", none, some lastOfJanuary⟩

theorem read_emptyMark : emptyMark.read "k:31012014" = .ok untilJanuary := by
  have hsplit : emptyMark.splitKey "k:31012014" = some ("k".toList, "31012014".toList) := by decide
  have hcompact : lastOfJanuary.compact = "31012014" := by decide
  have hdays : emptyMark.splitDays "31012014".toList = some (none, some lastOfJanuary.compact) := by
    rw [hcompact]
    decide
  refine read_eq_period_iff.mpr ⟨"31012014".toList, hsplit, by decide, hdays, ?_, ?_⟩
  · intro d hd
    cases hd
  · intro d hd
    cases hd
    exact ⟨by decide, by decide⟩

theorem spell_read_emptyMark :
    emptyMark.read "k:31012014" = .ok untilJanuary ∧
      (¬ emptyMark.IsQuotedValue "k:31012014" untilJanuary →
        emptyMark.spell untilJanuary = "k:31012014") ∧
      (emptyMark.IsQuotedValue "k:31012014" untilJanuary →
        ∃ key inner, emptyMark.keyEnd ∉ key ∧
          "k:31012014".toList = key ++ emptyMark.keyEnd :: '"' :: (inner ++ ['"']) ∧
          (emptyMark.spell untilJanuary).toList = key ++ emptyMark.keyEnd :: inner) ∧
      ∀ other, emptyMark.read other = .ok untilJanuary →
        ¬ emptyMark.IsQuotedValue "k:31012014" untilJanuary →
          ¬ emptyMark.IsQuotedValue other untilJanuary → other = "k:31012014" :=
  ⟨read_emptyMark, spell_read read_emptyMark⟩

/-! ## Spelled, then read -/

/-- Neither separator can be taken for a part of a date, and the end of the range mark is not taken
for the end of a key. -/
structure Unambiguous (s : Separators) : Prop where
  keyEnd_not_digit : s.keyEnd.isDigit = false
  mark_start : ∃ c, s.rangeMark.toList.head? = some c ∧ c.isDigit = false
  mark_end : ∃ c, s.rangeMark.toList.getLast? = some c ∧ c.isDigit = false ∧ c ≠ s.keyEnd

/-- The texts of the tag do not get in the way of the separators. -/
def CanSpell (s : Separators) : Tag → Prop
  | .label name => s.keyEnd ∉ name.toList
  | .value tag =>
      s.keyEnd ∉ tag.key.toList ∧ tag.value ≠ "" ∧ tag.value.toList.getLast? ≠ some s.keyEnd ∧
        ¬ s.rangeMark.toList <:+: tag.value.toList ∧ ¬ IsQuoted tag.value.toList
  | .period tag =>
      s.keyEnd ∉ tag.key.toList ∧ (tag.period.first ≠ none ∨ tag.period.last ≠ none) ∧
        (∀ d ∈ tag.period.first, d.HasShortYear) ∧ ∀ d ∈ tag.period.last, d.HasShortYear

theorem read_spell_label_iff {name : String} :
    s.read (s.spell (.label name)) = .ok (.label name) ↔ s.CanSpell (.label name) := by
  rw [read_eq_label_iff, splitKey_eq_none_iff]
  exact and_iff_right rfl

theorem getLast?_append_keyEnd (key rest : List Char) (c : Char) :
    (key ++ c :: rest).getLast? ≠ some c ↔ rest ≠ [] ∧ rest.getLast? ≠ some c := by
  rw [List.getLast?_append, List.getLast?_cons]
  cases hlast : rest.getLast? with
  | none => simp [List.getLast?_eq_none_iff.mp hlast]
  | some d =>
      have hrest : rest ≠ [] := by
        rintro rfl
        cases hlast
      simp [hrest]

theorem read_spell_value_iff {tag : ValueTag} :
    s.read (s.spell (.value tag)) = .ok (.value tag) ↔ s.CanSpell (.value tag) := by
  have hfilled : tag.value.toList ≠ [] ↔ tag.value ≠ "" := not_congr String.toList_eq_nil_iff
  rw [read_eq_value_iff]
  constructor
  · rintro ⟨rest, hsplit, hend, hmark, hvalue⟩
    obtain ⟨hraw, hkey⟩ := splitKey_eq_some_iff.mp hsplit
    rw [toList_spell_value] at hraw hend
    obtain rfl : tag.value.toList = rest := (List.cons.inj (List.append_cancel_left hraw)).2
    obtain ⟨hne, hlast⟩ := (getLast?_append_keyEnd _ _ _).mp hend
    refine ⟨hkey, hfilled.mp hne, hlast, ?_, ?_⟩
    · intro hinfix
      rw [hasPart_eq_true_iff.mpr hinfix] at hmark
      cases hmark
    · apply unquote_eq_self_iff.mp
      rw [← String.toList_ofList (l := unquote tag.value.toList), hvalue]
  · rintro ⟨hkey, hne, hlast, hmark, hquoted⟩
    refine ⟨tag.value.toList, ?_, ?_, ?_, ?_⟩
    · exact splitKey_eq_some_iff.mpr ⟨toList_spell_value s tag, hkey⟩
    · rw [toList_spell_value]
      exact (getLast?_append_keyEnd _ _ _).mpr ⟨hfilled.mpr hne, hlast⟩
    · exact Bool.eq_false_iff.mpr fun hpart ↦ hmark (hasPart_eq_true_iff.mp hpart)
    · rw [unquote_of_not_isQuoted hquoted, String.ofList_toList]

section Days

theorem head?_compactChars {d : Date} (h : d.HasShortYear) :
    ∃ c, d.compactChars.head? = some c ∧ c.isDigit = true := by
  cases hchars : d.compactChars with
  | nil => simpa [hchars] using Date.length_compactChars h
  | cons c cs =>
      exact ⟨c, rfl, Date.isDigit_of_mem_compactChars h (hchars ▸ List.mem_cons_self)⟩

theorem getLast?_compactChars {d : Date} (h : d.HasShortYear) :
    ∃ c, d.compactChars.getLast? = some c ∧ c.isDigit = true := by
  cases hlast : d.compactChars.getLast? with
  | none =>
      have hlength := Date.length_compactChars h
      rw [List.getLast?_eq_none_iff.mp hlast] at hlength
      cases hlength
  | some c => exact ⟨c, rfl, Date.isDigit_of_mem_compactChars h (List.mem_of_getLast? hlast)⟩

theorem hasDayWidth_compactChars {d : Date} (h : d.HasShortYear) :
    hasDayWidth d.compactChars = true := by
  rw [hasDayWidth, Date.length_compactChars h]
  rfl

theorem splitDays_last {last : Date} (hlast : last.HasShortYear) :
    s.splitDays (s.rangeMark.toList ++ last.compactChars) = some (none, some last.compact) := by
  have hstart : afterStart s.rangeMark.toList (s.rangeMark.toList ++ last.compactChars) =
      some last.compactChars := afterStart_eq_some_iff.mpr rfl
  simp only [splitDays, hstart, hasDayWidth_compactChars hlast, if_true]
  rfl

/-- A day in front of the range mark hides it from the start of the text. -/
theorem afterStart_first (hs : s.Unambiguous) {first : Date} (hfirst : first.HasShortYear)
    (rest : List Char) : afterStart s.rangeMark.toList (first.compactChars ++ rest) = none := by
  obtain ⟨c, hmark, hc⟩ := hs.mark_start
  obtain ⟨digit, hhead, hdigit⟩ := head?_compactChars hfirst
  apply afterStart_eq_none_of_head? hmark
  rw [List.head?_append, hhead]
  intro heq
  cases heq
  rw [hc] at hdigit
  cases hdigit

theorem splitDays_first (hs : s.Unambiguous) {first : Date} (hfirst : first.HasShortYear) :
    s.splitDays (first.compactChars ++ s.rangeMark.toList) = some (some first.compact, none) := by
  have hend : beforeEnd s.rangeMark.toList (first.compactChars ++ s.rangeMark.toList) =
      some first.compactChars := beforeEnd_eq_some_iff.mpr rfl
  simp only [splitDays, afterStart_first hs hfirst, hend, hasDayWidth_compactChars hfirst, if_true]
  rfl

theorem splitDays_both (hs : s.Unambiguous) {first last : Date} (hfirst : first.HasShortYear)
    (hlast : last.HasShortYear) :
    s.splitDays (first.compactChars ++ (s.rangeMark.toList ++ last.compactChars)) =
      some (some first.compact, some last.compact) := by
  have hend : beforeEnd s.rangeMark.toList
      (first.compactChars ++ (s.rangeMark.toList ++ last.compactChars)) = none := by
    obtain ⟨c, hmark, hc, -⟩ := hs.mark_end
    obtain ⟨digit, hdigitLast, hdigit⟩ := getLast?_compactChars hlast
    apply beforeEnd_eq_none_of_getLast? hmark
    rw [← List.append_assoc, List.getLast?_append, hdigitLast]
    intro heq
    cases heq
    rw [hc] at hdigit
    cases hdigit
  have hpart : splitAtPart s.rangeMark.toList
      (first.compactChars ++ (s.rangeMark.toList ++ last.compactChars)) =
        some (first.compactChars, last.compactChars) := by
    obtain ⟨c, hmark, hc⟩ := hs.mark_start
    refine splitAtPart_append hmark ?_ last.compactChars
    intro hmem
    rw [Date.isDigit_of_mem_compactChars hfirst hmem] at hc
    cases hc
  simp only [splitDays, afterStart_first hs hfirst, hend, hpart, hasDayWidth_compactChars hfirst,
    hasDayWidth_compactChars hlast, Bool.and_self, if_true]
  rfl

theorem splitDays_dayText (hs : s.Unambiguous) {first last : Option Date}
    (hbound : first ≠ none ∨ last ≠ none) (hfirst : ∀ d ∈ first, d.HasShortYear)
    (hlast : ∀ d ∈ last, d.HasShortYear) :
    s.splitDays ((dayText first).toList ++ (s.rangeMark.toList ++ (dayText last).toList)) =
      some (first.map Date.compact, last.map Date.compact) := by
  cases first with
  | none =>
      cases last with
      | none => simp at hbound
      | some last =>
          rw [dayText, dayText, Date.toList_compact]
          exact splitDays_last (hlast last rfl)
  | some first =>
      cases last with
      | none =>
          rw [dayText, dayText, Date.toList_compact, String.toList_empty, List.append_nil]
          exact splitDays_first hs (hfirst first rfl)
      | some last =>
          rw [dayText, dayText, Date.toList_compact, Date.toList_compact]
          exact splitDays_both hs (hfirst first rfl) (hlast last rfl)

/-- A spelled period ends with a digit or with the range mark, so it is not taken for a key without
value. -/
theorem getLast?_spell_period (hs : s.Unambiguous) {tag : PeriodTag}
    (hlast : ∀ d ∈ tag.period.last, d.HasShortYear) :
    (s.spell (.period tag)).toList.getLast? ≠ some s.keyEnd := by
  have hsplit : (s.spell (.period tag)).toList =
      (tag.key.toList ++ s.keyEnd :: (dayText tag.period.first).toList) ++
        (s.rangeMark.toList ++ (dayText tag.period.last).toList) := by
    rw [toList_spell_period, List.append_assoc, List.cons_append]
  obtain ⟨c, hmark, -, hc⟩ := hs.mark_end
  rw [hsplit, List.getLast?_append, List.getLast?_append, hmark]
  cases hday : tag.period.last with
  | none =>
      intro heq
      rw [dayText, String.toList_empty] at heq
      cases heq
      exact hc rfl
  | some d =>
      obtain ⟨digit, hend, hdigit⟩ := getLast?_compactChars (hlast d hday)
      intro heq
      rw [dayText, Date.toList_compact, hend] at heq
      cases heq
      rw [hs.keyEnd_not_digit] at hdigit
      cases hdigit

/-- Of a period only its key, its open ends and the years of its days can get in the way. -/
theorem read_spell_period_iff (hs : s.Unambiguous) {tag : PeriodTag} :
    s.read (s.spell (.period tag)) = .ok (.period tag) ↔ s.CanSpell (.period tag) := by
  rw [read_eq_period_iff]
  constructor
  · rintro ⟨rest, hsplit, -, hdays, hfirst, hlast⟩
    have hkey := (splitKey_eq_some_iff.mp hsplit).2
    have hbound := (eq_of_splitDays hdays).1
    exact ⟨hkey, by simpa using hbound, hfirst, hlast⟩
  · rintro ⟨hkey, hbound, hfirst, hlast⟩
    have hsplit := splitKey_eq_some_iff.mpr ⟨toList_spell_period s tag, hkey⟩
    have hdays := splitDays_dayText hs hbound hfirst hlast
    exact ⟨_, hsplit, getLast?_spell_period hs hlast, hdays, hfirst, hlast⟩

end Days

/-- A tag that was spelled is read back exactly if its texts leave the separators alone. -/
theorem read_spell_eq_ok_iff (hs : s.Unambiguous) (t : Tag) :
    s.read (s.spell t) = .ok t ↔ s.CanSpell t := by
  cases t with
  | label name => exact read_spell_label_iff
  | value tag => exact read_spell_value_iff
  | period tag => exact read_spell_period_iff hs

/-- The range mark may start with the character that ends a key. -/
def sharedStart : Separators := ⟨'.', ".-"⟩

/-- Separators that start alike read a period back, and no label with a separator in it. -/
theorem read_spell_sharedStart :
    sharedStart.Unambiguous ∧ sharedStart.CanSpell untilJanuary ∧
      sharedStart.read (sharedStart.spell untilJanuary) = .ok untilJanuary ∧
      ¬ sharedStart.CanSpell (.label "a.b") ∧
      sharedStart.read (sharedStart.spell (.label "a.b")) ≠ .ok (.label "a.b") := by
  have hs : sharedStart.Unambiguous :=
    ⟨by decide, ⟨'.', by decide, by decide⟩, ⟨'-', by decide, by decide, by decide⟩⟩
  have hcan : sharedStart.CanSpell untilJanuary := by
    refine ⟨by decide, Or.inr (by decide), fun d hd ↦ ?_, fun d hd ↦ ?_⟩
    · cases hd
    · cases hd
      exact ⟨by decide, by decide⟩
  have hcannot : ¬ sharedStart.CanSpell (.label "a.b") := fun hlabel ↦ hlabel (by decide)
  exact ⟨hs, hcan, (read_spell_eq_ok_iff hs untilJanuary).mpr hcan, hcannot,
    fun hread ↦ hcannot ((read_spell_eq_ok_iff hs (.label "a.b")).mp hread)⟩

end PaperTrail.Separators
