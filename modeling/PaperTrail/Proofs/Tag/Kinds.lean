import PaperTrail.Proofs.Date.Bytes
import PaperTrail.Proofs.Tag.RoundTrip

/-!
# The kind of a tag and the tag

The kind of a tag is told from its text before the tag is read.  Main statement: the two never
disagree, and what is refused behind the kind is a day of a period.
-/

namespace PaperTrail.Separators

open Text

variable {s : Separators} {raw key : String} {first last : Option String}

/-! ## From the tag to its kind -/

theorem read_of_classify_eq_error {fault : Fault} (h : s.classify raw = .error fault) :
    s.read raw = .error fault := by
  rw [read, h]
  rfl

theorem classify_of_read {t : Tag} (h : s.read raw = .ok t) : s.classify raw = .ok t.kind := by
  obtain ⟨kind, hkind, hrest⟩ := Fault.bind_eq_ok_iff.mp h
  cases kind with
  | label =>
      cases hrest
      exact hkind
  | value =>
      obtain ⟨tag, -, htag⟩ := Fault.bind_eq_ok_iff.mp hrest
      cases htag
      exact hkind
  | period =>
      obtain ⟨tag, -, htag⟩ := Fault.bind_eq_ok_iff.mp hrest
      cases htag
      exact hkind

/-! ## From the kind to the tag -/

/-- The classifier goes by the key, the last character and the separator of ranges. -/
theorem classify_ok_cases {kind : Tag.Kind} (h : s.classify raw = .ok kind) :
    (kind = .label ∧ s.splitKey raw = none) ∨
      ∃ key rest, s.splitKey raw = some (key, rest) ∧ raw.toList.getLast? ≠ some s.keyEnd ∧
        ((kind = .value ∧ hasPart s.rangeMark.toList rest = false) ∨
          kind = .period ∧ hasPart s.rangeMark.toList rest = true ∧
            ∃ days, s.splitDays rest = some days) := by
  cases hsplit : s.splitKey raw with
  | none =>
      rw [classify, hsplit] at h
      cases h
      exact Or.inl ⟨rfl, rfl⟩
  | some halves =>
      obtain ⟨key, rest⟩ := halves
      rw [classify, hsplit] at h
      refine Or.inr ⟨key, rest, rfl, ?_⟩
      dsimp only at h
      split at h
      · cases h
      · next hend =>
          refine ⟨hend, ?_⟩
          split at h
          · next hmark =>
              split at h
              · next hdays =>
                  cases h
                  exact Or.inr ⟨rfl, hmark, Option.isSome_iff_exists.mp hdays⟩
              · cases h
          · next hmark =>
              cases h
              exact Or.inl ⟨rfl, Bool.eq_false_iff.mpr hmark⟩

/-- The text is a key and a period with these texts for its days, as the reader tells them apart. -/
def HasDays (s : Separators) (raw key : String) (first last : Option String) : Prop :=
  ∃ rest, s.splitKey raw = some (key.toList, rest) ∧ s.splitDays rest = some (first, last)

theorem length_of_splitDays {cs : List Char} (h : s.splitDays cs = some (first, last)) :
    ∀ text ∈ first.toList ++ last.toList, text.length = 8 := by
  have hwidth : ∀ {day : List Char}, hasDayWidth day = true → (String.ofList day).length = 8 :=
    fun hday ↦ by rw [String.length_ofList]; exact beq_iff_eq.mp hday
  simp only [splitDays] at h
  split at h
  · split at h
    · next hlast =>
        cases h
        exact List.forall_mem_singleton.mpr (hwidth hlast)
    · cases h
  · split at h
    · split at h
      · next hfirst =>
          cases h
          exact List.forall_mem_singleton.mpr (hwidth hfirst)
      · cases h
    · split at h
      · split at h
        · next hboth =>
            cases h
            obtain ⟨hfirst, hlast⟩ := Bool.and_eq_true_iff.mp hboth
            exact List.forall_mem_cons.mpr
              ⟨hwidth hfirst, List.forall_mem_singleton.mpr (hwidth hlast)⟩
        · cases h
      · cases h

theorem HasDays.toList_eq (h : s.HasDays raw key first last) :
    raw.toList = key.toList ++ s.keyEnd ::
      ((first.getD "").toList ++ (s.rangeMark.toList ++ (last.getD "").toList)) := by
  obtain ⟨rest, hsplit, hdays⟩ := h
  rw [(splitKey_eq_some_iff.mp hsplit).1, (eq_of_splitDays hdays).2]

/-- Of two open ends none is ever read, so no period is refused for them. -/
theorem HasDays.of_eq_ok (h : s.HasDays raw key first last) {firstDay lastDay : Option Date}
    (hfirst : readDay first = .ok firstDay) (hlast : readDay last = .ok lastDay) :
    PeriodTag.of key firstDay lastDay = .ok ⟨key, firstDay, lastDay⟩ := by
  obtain ⟨rest, -, hdays⟩ := h
  obtain ⟨rfl, -⟩ := readDay_eq_ok_iff.mp hfirst
  obtain ⟨rfl, -⟩ := readDay_eq_ok_iff.mp hlast
  have hbound := (eq_of_splitDays hdays).1
  exact PeriodTag.of_eq_ok_iff.mpr ⟨rfl, by simpa using hbound⟩

/-- The first of the texts that is no date has this fault. -/
def FirstFault (texts : List String) (fault : Fault) : Prop :=
  ∃ good bad rest, texts = good ++ bad :: rest ∧
    (∀ text ∈ good, ∃ d, Date.ofCompact text = .ok d) ∧ Date.ofCompact bad = .error fault ∧
      (fault = .invalidDate bad ∨ ∃ month, fault = .invalidMonth month bad)

theorem exists_of_readDay_eq_error {text : Option String} {fault : Fault}
    (h : readDay text = .error fault) :
    ∃ bad ∈ text, Date.ofCompact bad = .error fault ∧
      (fault = .invalidDate bad ∨ ∃ month, fault = .invalidMonth month bad) := by
  cases text with
  | none => cases h
  | some bad =>
      have hbad : Date.ofCompact bad = .error fault := Fault.map_eq_error_iff.mp h
      refine ⟨bad, rfl, hbad, ?_⟩
      rcases Date.faultOf_of_ofCompact hbad with ⟨month, -, -, hmonth⟩ | ⟨-, hdate⟩
      · exact Or.inr ⟨month, hmonth⟩
      · exact Or.inl hdate

theorem exists_ofCompact_of_readDay {text : Option String} {day : Option Date}
    (h : readDay text = .ok day) : ∀ good ∈ text.toList, ∃ d, Date.ofCompact good = .ok d := by
  obtain ⟨rfl, hshort⟩ := readDay_eq_ok_iff.mp h
  cases day with
  | none => simp
  | some d => simpa using ⟨d, Date.ofCompact_compact (hshort d rfl)⟩

/-- A period with two bad days is refused for the first. -/
theorem HasDays.firstFault (h : s.HasDays raw key first last) {fault : Fault}
    (hread : s.readPeriod raw = .error fault) : FirstFault (first.toList ++ last.toList) fault := by
  obtain ⟨rest, hsplit, hdays⟩ := id h
  rw [readPeriod_of_splitDays hsplit hdays, String.ofList_toList] at hread
  rcases Fault.bind_eq_error_iff.mp hread with hfirst | ⟨firstDay, hfirst, hread⟩
  · obtain ⟨bad, hbad, hfault⟩ := exists_of_readDay_eq_error hfirst
    obtain rfl := hbad
    exact ⟨[], bad, last.toList, rfl, List.forall_mem_nil _, hfault⟩
  · have hgood := exists_ofCompact_of_readDay hfirst
    rcases Fault.bind_eq_error_iff.mp hread with hlast | ⟨lastDay, hlast, hof⟩
    · obtain ⟨bad, hbad, hfault⟩ := exists_of_readDay_eq_error hlast
      obtain rfl := hbad
      exact ⟨first.toList, bad, [], rfl, hgood, hfault⟩
    · rw [h.of_eq_ok hfirst hlast] at hof
      cases hof

theorem period_of_refused {kind : Tag.Kind} {fault : Fault} (h : s.classify raw = .ok kind)
    (hread : s.read raw = .error fault) :
    kind = .period ∧ ∃ key first last, s.HasDays raw key first last ∧
      FirstFault (first.toList ++ last.toList) fault := by
  rcases classify_ok_cases h with
    ⟨rfl, hsplit⟩ | ⟨key, rest, hsplit, hend, ⟨rfl, hmark⟩ | ⟨rfl, hmark, ⟨first, last⟩, hdays⟩⟩
  · rw [read_of_splitKey_eq_none hsplit] at hread
    cases hread
  · rw [read_of_no_rangeMark hsplit hend hmark] at hread
    cases hread
  · have hparts : s.HasDays raw (String.ofList key) first last :=
      ⟨rest, by rw [hsplit, String.toList_ofList], hdays⟩
    rw [read_of_rangeMark hsplit hend hmark] at hread
    exact ⟨rfl, String.ofList key, first, last, hparts,
      hparts.firstFault (Fault.map_eq_error_iff.mp hread)⟩

theorem read_of_kind_ne_period {kind : Tag.Kind} (h : s.classify raw = .ok kind)
    (hkind : kind ≠ .period) : ∃ t, s.read raw = .ok t := by
  cases hread : s.read raw with
  | ok t => exact ⟨t, rfl⟩
  | error fault => exact absurd (period_of_refused h hread).1 hkind

/-! ## Reading without the kind -/

theorem readValue_of_read {tag : ValueTag} (h : s.read raw = .ok (.value tag)) :
    s.readValue raw = .ok tag := by
  obtain ⟨rest, hsplit, -, -, hvalue⟩ := read_eq_value_iff.mp h
  rw [readValue_of_splitKey hsplit, String.ofList_toList, hvalue]

/-- Where no end of a period looks like the end of a key, periods may be read without their kind. -/
theorem readPeriod_eq_ok_iff_read (hs : s.Unambiguous) {tag : PeriodTag} :
    s.readPeriod raw = .ok tag ↔ s.read raw = .ok (.period tag) := by
  rw [readPeriod_eq_ok_iff, read_eq_period_iff]
  constructor
  · rintro ⟨rest, hsplit, hdays, hfirst, hlast⟩
    have hend := getLast?_spell_period hs hlast
    rw [spell_of_splitDays hsplit hdays] at hend
    exact ⟨rest, hsplit, hend, hdays, hfirst, hlast⟩
  · rintro ⟨rest, hsplit, -, hdays, hshort⟩
    exact ⟨rest, hsplit, hdays, hshort⟩

theorem unambiguous_usual : ({} : Separators).Unambiguous :=
  ⟨by decide, ⟨'.', by decide, by decide⟩, ⟨'.', by decide, by decide, by decide⟩⟩

/-- What has no kind is no tag, and for the same reason; a tag is of the kind that was told.  A text
that has a kind and is no tag is a period, and the first of its days that is no date is to blame:
labels and values are always read, and no period is refused for having no days.  With the usual
separators a period can be read without its kind, and a value with any. -/
theorem read_agrees_classify (s : Separators) (raw : String) :
    (∀ fault, s.classify raw = .error fault → s.read raw = .error fault) ∧
      (∀ t, s.read raw = .ok t → s.classify raw = .ok t.kind) ∧
      (∀ kind fault, s.classify raw = .ok kind → s.read raw = .error fault →
        kind = .period ∧ ∃ key first last, s.HasDays raw key first last ∧
          FirstFault (first.toList ++ last.toList) fault) ∧
      (∀ kind, s.classify raw = .ok kind → kind ≠ .period → ∃ t, s.read raw = .ok t) ∧
      (∀ key first last, s.HasDays raw key first last →
        (∀ text ∈ first.toList ++ last.toList, text.length = 8) ∧
          raw.toList = key.toList ++ s.keyEnd ::
            ((first.getD "").toList ++ (s.rangeMark.toList ++ (last.getD "").toList)) ∧
          ∀ firstDay lastDay, readDay first = .ok firstDay → readDay last = .ok lastDay →
            PeriodTag.of key firstDay lastDay = .ok ⟨key, firstDay, lastDay⟩) ∧
      (∀ tag, ({} : Separators).readPeriod raw = .ok tag ↔
        ({} : Separators).read raw = .ok (.period tag)) ∧
      ∀ tag, s.read raw = .ok (.value tag) → s.readValue raw = .ok tag := by
  refine ⟨fun _ ↦ read_of_classify_eq_error, fun _ ↦ classify_of_read,
    fun _ _ ↦ period_of_refused, fun _ ↦ read_of_kind_ne_period, ?_,
    fun _ ↦ readPeriod_eq_ok_iff_read unambiguous_usual, fun _ ↦ readValue_of_read⟩
  intro key first last h
  obtain ⟨rest, -, hdays⟩ := id h
  exact ⟨length_of_splitDays hdays, h.toList_eq, fun _ _ ↦ h.of_eq_ok⟩

-- both days are none, and the first is to blame
example :
    ({} : Separators).classify "k:31022014..01132014" = .ok .period ∧
      ({} : Separators).read "k:31022014..01132014" = .error (.invalidDate "31022014") :=
  ⟨rfl, rfl⟩

end PaperTrail.Separators
