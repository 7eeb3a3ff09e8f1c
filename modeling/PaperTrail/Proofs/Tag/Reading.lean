import PaperTrail.Proofs.Date.Compact
import PaperTrail.Tag.Spelling

/-!
# Which texts give which tags

Three equivalences say from which texts a label, a value and a period are read.  They hold for all
separators.
-/

namespace PaperTrail.Separators

open Text

variable {s : Separators} {raw : String}

theorem splitKey_eq_some_iff {key rest : List Char} :
    s.splitKey raw = some (key, rest) ↔ raw.toList = key ++ s.keyEnd :: rest ∧ s.keyEnd ∉ key :=
  splitFirst_eq_some_iff

theorem splitKey_eq_none_iff : s.splitKey raw = none ↔ s.keyEnd ∉ raw.toList :=
  splitFirst_eq_none_iff

/-! ## Days -/

/-- A day of a period is the eight-digit text of its date. -/
theorem readDay_eq_ok_iff {text : Option String} {day : Option Date} :
    readDay text = .ok day ↔ text = day.map Date.compact ∧ ∀ d ∈ day, d.HasShortYear := by
  constructor
  · intro h
    cases text with
    | none =>
        cases h
        simp
    | some text =>
        cases hread : Date.ofCompact text with
        | error fault =>
            rw [readDay, hread] at h
            cases h
        | ok d =>
            rw [readDay, hread] at h
            cases h
            obtain ⟨hshort, rfl⟩ := Date.ofCompact_eq_ok_iff.mp hread
            simpa using hshort
  · rintro ⟨rfl, hshort⟩
    cases day with
    | none => rfl
    | some d =>
        rw [Option.map_some, readDay, Date.ofCompact_eq_ok_iff.mpr ⟨hshort d rfl, rfl⟩]
        rfl

/-- A period has at least one day, and its text is made of the days and the range mark. -/
theorem eq_of_splitDays {cs : List Char} {first last : Option String}
    (h : s.splitDays cs = some (first, last)) :
    (first ≠ none ∨ last ≠ none) ∧
      cs = (first.getD "").toList ++ (s.rangeMark.toList ++ (last.getD "").toList) := by
  simp only [splitDays] at h
  split at h
  · next text hstart =>
      split at h
      · cases h
        refine ⟨Or.inr (by simp), ?_⟩
        simpa using afterStart_eq_some_iff.mp hstart
      · cases h
  · split at h
    · next text hend =>
        split at h
        · cases h
          refine ⟨Or.inl (by simp), ?_⟩
          simpa using beforeEnd_eq_some_iff.mp hend
        · cases h
    · split at h
      · next start text hpart =>
          split at h
          · cases h
            refine ⟨Or.inl (by simp), ?_⟩
            simpa using eq_of_splitAtPart hpart
          · cases h
      · cases h

theorem rangeMark_infix_of_splitDays {cs : List Char} {days : Option String × Option String}
    (h : s.splitDays cs = some days) : s.rangeMark.toList <:+: cs := by
  obtain ⟨-, hcs⟩ := eq_of_splitDays h
  exact ⟨_, _, by rw [List.append_assoc]; exact hcs.symm⟩

/-! ## The four ways of reading -/

theorem read_of_splitKey_eq_none (h : s.splitKey raw = none) : s.read raw = .ok (.label raw) := by
  have hclass : s.classify raw = .ok .label := by rw [classify, h]
  rw [read, hclass]
  rfl

section Split

variable {key rest : List Char}

theorem read_of_keyEnd_at_end (hsplit : s.splitKey raw = some (key, rest))
    (hend : raw.toList.getLast? = some s.keyEnd) : s.read raw = .error (.missingValue raw) := by
  have hclass : s.classify raw = .error (.missingValue raw) := by
    rw [classify, hsplit]
    exact if_pos hend
  rw [read, hclass]
  rfl

theorem readValue_of_splitKey (hsplit : s.splitKey raw = some (key, rest)) :
    s.readValue raw = .ok ⟨String.ofList key, String.ofList (unquote rest)⟩ := by
  rw [readValue, hsplit]

theorem read_of_no_rangeMark (hsplit : s.splitKey raw = some (key, rest))
    (hend : raw.toList.getLast? ≠ some s.keyEnd) (hmark : hasPart s.rangeMark.toList rest = false) :
    s.read raw = .ok (.value ⟨String.ofList key, String.ofList (unquote rest)⟩) := by
  have hclass : s.classify raw = .ok .value := by
    rw [classify, hsplit]
    simp [hend, hmark]
  rw [read, hclass]
  simp only [readValue_of_splitKey hsplit]
  rfl

theorem readPeriod_of_splitDays_eq_none (hsplit : s.splitKey raw = some (key, rest))
    (hdays : s.splitDays rest = none) : s.readPeriod raw = .error (.invalidRange raw) := by
  simp [readPeriod, hsplit, hdays]

/-- Where the range mark occurs, the text is a period or nothing. -/
theorem read_of_rangeMark (hsplit : s.splitKey raw = some (key, rest))
    (hend : raw.toList.getLast? ≠ some s.keyEnd) (hmark : hasPart s.rangeMark.toList rest = true) :
    s.read raw = (s.readPeriod raw).map .period := by
  cases hdays : s.splitDays rest with
  | none =>
      have hclass : s.classify raw = .error (.invalidRange raw) := by
        rw [classify, hsplit]
        simp [hend, hmark, hdays]
      rw [read, hclass, readPeriod_of_splitDays_eq_none hsplit hdays]
      rfl
  | some days =>
      have hclass : s.classify raw = .ok .period := by
        rw [classify, hsplit]
        simp [hend, hmark, hdays]
      rw [read, hclass]
      cases s.readPeriod raw with
      | error fault => rfl
      | ok tag => rfl

end Split

/-- The reader goes by the key, the last character and the separator of ranges. -/
theorem read_cases (s : Separators) (raw : String) :
    (s.splitKey raw = none ∧ s.read raw = .ok (.label raw)) ∨
      ∃ key rest, s.splitKey raw = some (key, rest) ∧
        ((raw.toList.getLast? = some s.keyEnd ∧ s.read raw = .error (.missingValue raw)) ∨
          raw.toList.getLast? ≠ some s.keyEnd ∧
            ((hasPart s.rangeMark.toList rest = false ∧
                s.read raw = .ok (.value ⟨String.ofList key, String.ofList (unquote rest)⟩)) ∨
              (hasPart s.rangeMark.toList rest = true ∧
                s.read raw = (s.readPeriod raw).map .period))) := by
  cases hsplit : s.splitKey raw with
  | none => exact Or.inl ⟨rfl, read_of_splitKey_eq_none hsplit⟩
  | some halves =>
      obtain ⟨key, rest⟩ := halves
      refine Or.inr ⟨key, rest, rfl, ?_⟩
      by_cases hend : raw.toList.getLast? = some s.keyEnd
      · exact Or.inl ⟨hend, read_of_keyEnd_at_end hsplit hend⟩
      · refine Or.inr ⟨hend, ?_⟩
        cases hmark : hasPart s.rangeMark.toList rest with
        | false => exact Or.inl ⟨rfl, read_of_no_rangeMark hsplit hend hmark⟩
        | true => exact Or.inr ⟨rfl, read_of_rangeMark hsplit hend hmark⟩

/-- What has been read when a tag came out. -/
theorem read_ok_cases {t : Tag} (h : s.read raw = .ok t) :
    (s.splitKey raw = none ∧ t = .label raw) ∨
      ∃ key rest, s.splitKey raw = some (key, rest) ∧ raw.toList.getLast? ≠ some s.keyEnd ∧
        ((hasPart s.rangeMark.toList rest = false ∧
            t = .value ⟨String.ofList key, String.ofList (unquote rest)⟩) ∨
          ∃ tag, s.readPeriod raw = .ok tag ∧ t = .period tag) := by
  rcases read_cases s raw with ⟨hsplit, hread⟩ | ⟨key, rest, hsplit, ⟨-, hread⟩ | ⟨hend, hrest⟩⟩
  · rw [hread] at h
    cases h
    exact Or.inl ⟨hsplit, rfl⟩
  · rw [hread] at h
    cases h
  · refine Or.inr ⟨key, rest, hsplit, hend, ?_⟩
    rcases hrest with ⟨hmark, hread⟩ | ⟨-, hread⟩
    · rw [hread] at h
      cases h
      exact Or.inl ⟨hmark, rfl⟩
    · rw [hread] at h
      obtain ⟨tag, hperiod, rfl⟩ := Fault.map_eq_ok_iff.mp h
      exact Or.inr ⟨tag, hperiod, rfl⟩

/-! ## The texts of a tag -/

theorem readPeriod_of_splitDays {key rest : List Char} {first last : Option String}
    (hsplit : s.splitKey raw = some (key, rest)) (hdays : s.splitDays rest = some (first, last)) :
    s.readPeriod raw = readDay first >>= fun firstDay ↦ readDay last >>= fun lastDay ↦
      PeriodTag.of (String.ofList key) firstDay lastDay := by
  rw [readPeriod, hsplit]
  simp only [hdays]

theorem readPeriod_eq_ok_iff {tag : PeriodTag} :
    s.readPeriod raw = .ok tag ↔
      ∃ rest, s.splitKey raw = some (tag.key.toList, rest) ∧
        s.splitDays rest =
          some (tag.period.first.map Date.compact, tag.period.last.map Date.compact) ∧
        (∀ d ∈ tag.period.first, d.HasShortYear) ∧ ∀ d ∈ tag.period.last, d.HasShortYear := by
  constructor
  · intro h
    cases hsplit : s.splitKey raw with
    | none =>
        rw [readPeriod, hsplit] at h
        cases h
    | some halves =>
        obtain ⟨key, rest⟩ := halves
        cases hdays : s.splitDays rest with
        | none =>
            rw [readPeriod_of_splitDays_eq_none hsplit hdays] at h
            cases h
        | some days =>
            obtain ⟨first, last⟩ := days
            rw [readPeriod_of_splitDays hsplit hdays] at h
            obtain ⟨firstDay, hfirst, h⟩ := Fault.bind_eq_ok_iff.mp h
            obtain ⟨lastDay, hlast, h⟩ := Fault.bind_eq_ok_iff.mp h
            obtain ⟨rfl, -⟩ := PeriodTag.of_eq_ok_iff.mp h
            obtain ⟨rfl, hfirstShort⟩ := readDay_eq_ok_iff.mp hfirst
            obtain ⟨rfl, hlastShort⟩ := readDay_eq_ok_iff.mp hlast
            exact ⟨rest, by rw [String.toList_ofList], hdays, hfirstShort, hlastShort⟩
  · rintro ⟨rest, hsplit, hdays, hfirst, hlast⟩
    rw [readPeriod_of_splitDays hsplit hdays, readDay_eq_ok_iff.mpr ⟨rfl, hfirst⟩,
      readDay_eq_ok_iff.mpr ⟨rfl, hlast⟩]
    have hbound := (eq_of_splitDays hdays).1
    refine PeriodTag.of_eq_ok_iff.mpr ⟨by rw [String.ofList_toList], ?_⟩
    simpa using hbound

theorem read_eq_label_iff {name : String} :
    s.read raw = .ok (.label name) ↔ name = raw ∧ s.splitKey raw = none := by
  constructor
  · intro h
    rcases read_ok_cases h with ⟨hsplit, htag⟩ | ⟨_, _, -, -, ⟨-, htag⟩ | ⟨_, -, htag⟩⟩
    · cases htag
      exact ⟨rfl, hsplit⟩
    · cases htag
    · cases htag
  · rintro ⟨rfl, hsplit⟩
    exact read_of_splitKey_eq_none hsplit

theorem read_eq_value_iff {tag : ValueTag} :
    s.read raw = .ok (.value tag) ↔
      ∃ rest, s.splitKey raw = some (tag.key.toList, rest) ∧
        raw.toList.getLast? ≠ some s.keyEnd ∧ hasPart s.rangeMark.toList rest = false ∧
        String.ofList (unquote rest) = tag.value := by
  constructor
  · intro h
    rcases read_ok_cases h with ⟨-, htag⟩ | ⟨key, rest, hsplit, hend, ⟨hmark, htag⟩ | ⟨_, -, htag⟩⟩
    · cases htag
    · cases htag
      exact ⟨rest, by rw [hsplit, String.toList_ofList], hend, hmark, rfl⟩
    · cases htag
  · rintro ⟨rest, hsplit, hend, hmark, hvalue⟩
    rw [read_of_no_rangeMark hsplit hend hmark, String.ofList_toList, hvalue]

/-- A period is read exactly from the texts of its days around the separator of ranges. -/
theorem read_eq_period_iff {tag : PeriodTag} :
    s.read raw = .ok (.period tag) ↔
      ∃ rest, s.splitKey raw = some (tag.key.toList, rest) ∧
        raw.toList.getLast? ≠ some s.keyEnd ∧
        s.splitDays rest =
          some (tag.period.first.map Date.compact, tag.period.last.map Date.compact) ∧
        (∀ d ∈ tag.period.first, d.HasShortYear) ∧ ∀ d ∈ tag.period.last, d.HasShortYear := by
  constructor
  · intro h
    rcases read_ok_cases h with ⟨-, htag⟩ | ⟨_, _, -, hend, ⟨-, htag⟩ | ⟨_, hperiod, htag⟩⟩
    · cases htag
    · cases htag
    · cases htag
      obtain ⟨rest, hsplit, hdays, hshort⟩ := readPeriod_eq_ok_iff.mp hperiod
      exact ⟨rest, hsplit, hend, hdays, hshort⟩
  · rintro ⟨rest, hsplit, hend, hdays, hshort⟩
    have hmark := hasPart_eq_true_iff.mpr (rangeMark_infix_of_splitDays hdays)
    rw [read_of_rangeMark hsplit hend hmark,
      readPeriod_eq_ok_iff.mpr ⟨rest, hsplit, hdays, hshort⟩]
    rfl

end PaperTrail.Separators
