import PaperTrail.Export.Source
import PaperTrail.Proofs.Export.Scan

/-!
# Steps of the scanner

A byte is passed over between two records, or it ends a record, or the scanner goes on with the
record.  Which of the three it is, and what the scanner has in hand afterwards, does not hang on
the place of the byte or on what was found before.  Main statement: two scanners with the same in
hand find records with the same fields from there on.
-/

namespace PaperTrail.Export

theorem ne_of_isLineEnd {b c : UInt8} (hb : isLineEnd b = true) (hc : isLineEnd c = false) :
    b ≠ c := by
  rintro rfl
  rw [hb] at hc
  cases hc

namespace Scanner

theorem unquoted_cases (bytes : List UInt8) (fields : List (List UInt8)) (b : UInt8) :
    (isLineEnd b = true ∧
      ∀ mode here start done, unquoted ⟨mode, here, start, bytes, fields, done⟩ b =
        idle here (⟨start, (bytes.reverse :: fields).reverse⟩ :: done)) ∨
    (isLineEnd b = false ∧ ∃ mode' bytes' fields', mode' ≠ .lineStart ∧
      ∀ mode here start done, unquoted ⟨mode, here, start, bytes, fields, done⟩ b =
        ⟨mode', here, start, bytes', fields', done⟩) := by
  by_cases hline : isLineEnd b = true
  · refine .inl ⟨hline, fun mode here start done ↦ ?_⟩
    rw [unquoted, if_neg (ne_of_isLineEnd hline (by decide)), if_pos hline]
    rfl
  · refine .inr ⟨Bool.eq_false_iff.mpr hline, ?_⟩
    by_cases hdelimiter : b = delimiter
    · refine ⟨.fieldStart, [], bytes.reverse :: fields, by decide, fun mode here start done ↦ ?_⟩
      rw [unquoted, if_pos hdelimiter]
      rfl
    · refine ⟨.bare, b :: bytes, fields, by decide, fun mode here start done ↦ ?_⟩
      rw [unquoted, if_neg hdelimiter, if_neg hline]
      rfl

/-- What a byte can do, wherever it stands. -/
theorem step_cases (mode : Mode) (bytes : List UInt8) (fields : List (List UInt8)) (b : UInt8) :
    (mode = .lineStart ∧ isLineEnd b = true ∧
      ∀ here start done, step ⟨mode, here, start, bytes, fields, done⟩ b =
        ⟨mode, here.after b, start, bytes, fields, done⟩) ∨
    (mode ≠ .lineStart ∧ isLineEnd b = true ∧
      ∀ here start done, step ⟨mode, here, start, bytes, fields, done⟩ b =
        idle (here.after b) (⟨start, (bytes.reverse :: fields).reverse⟩ :: done)) ∨
    ((mode = .lineStart → isLineEnd b = false) ∧ ∃ mode' bytes' fields', mode' ≠ .lineStart ∧
      ∀ here start done, step ⟨mode, here, start, bytes, fields, done⟩ b =
        ⟨mode', here.after b, start, bytes', fields', done⟩) := by
  by_cases hpassed : mode = .lineStart ∧ isLineEnd b = true
  · obtain ⟨rfl, hline⟩ := hpassed
    exact .inl ⟨rfl, hline, fun here start done ↦ by simp [step, hline]⟩
  have hopen : mode = .lineStart → isLineEnd b = false := fun hmode ↦
    Bool.eq_false_iff.mpr fun hline ↦ hpassed ⟨hmode, hline⟩
  by_cases hquote : b = quoteMark
  · -- a quote mark opens, closes or continues a quoted field, or is a byte of a bare one
    subst hquote
    refine .inr (.inr ⟨hopen, ?_⟩)
    cases mode with
    | lineStart => exact ⟨.quoted, bytes, fields, by decide, fun here start done ↦ rfl⟩
    | fieldStart => exact ⟨.quoted, bytes, fields, by decide, fun here start done ↦ rfl⟩
    | bare => exact ⟨.bare, quoteMark :: bytes, fields, by decide, fun here start done ↦ rfl⟩
    | quoted => exact ⟨.closing, bytes, fields, by decide, fun here start done ↦ rfl⟩
    | closing => exact ⟨.quoted, quoteMark :: bytes, fields, by decide, fun here start done ↦ rfl⟩
  by_cases hinside : mode = .quoted
  · subst hinside
    refine .inr (.inr ⟨hopen, .quoted, b :: bytes, fields, by decide, fun here start done ↦ ?_⟩)
    simp [step, hquote, take]
  have hstep : ∀ here start done, step ⟨mode, here, start, bytes, fields, done⟩ b =
      unquoted ⟨mode, here.after b, start, bytes, fields, done⟩ b := fun here start done ↦
    step_eq_unquoted hinside hquote hopen
  rcases unquoted_cases bytes fields b with
    ⟨hline, hends⟩ | ⟨-, mode', bytes', fields', hmode, hgoes⟩
  · have hbegun : mode ≠ .lineStart := fun hmode ↦ by
      rw [hopen hmode] at hline
      cases hline
    exact .inr (.inl ⟨hbegun, hline, fun here start done ↦ by rw [hstep, hends]⟩)
  · exact .inr (.inr ⟨hopen, mode', bytes', fields', hmode, fun here start done ↦ by
      rw [hstep, hgoes]⟩)

/-- The scanners have the same in hand, and what they found since `earlier` and `earlier'` has the
same fields. -/
structure Alongside (earlier earlier' : List Record) (s t : Scanner) : Prop where
  mode : s.mode = t.mode
  bytes : s.bytes = t.bytes
  fields : s.fields = t.fields
  done : ∃ found found', s.done = found ++ earlier ∧ t.done = found' ++ earlier' ∧
    found.map Record.fields = found'.map Record.fields

namespace Alongside

variable {earlier earlier' : List Record} {s t : Scanner}

theorem refl (s : Scanner) : Alongside s.done s.done s s :=
  ⟨rfl, rfl, rfl, [], [], rfl, rfl, rfl⟩

theorem endRecord (h : Alongside earlier earlier' s t) :
    Alongside earlier earlier' s.endRecord t.endRecord := by
  obtain ⟨found, found', hs, ht, hfound⟩ := h.done
  refine ⟨rfl, rfl, rfl, ⟨s.start, s.allFields⟩ :: found, ⟨t.start, t.allFields⟩ :: found',
    ?_, ?_, ?_⟩
  · rw [Scanner.endRecord, hs]
    rfl
  · rw [Scanner.endRecord, ht]
    rfl
  · have hall : s.allFields = t.allFields := by rw [allFields, allFields, h.bytes, h.fields]
    rw [List.map_cons, List.map_cons, hfound, hall]

/-- Two scanners that differ in their finished records make the same step. -/
theorem step (h : Alongside earlier earlier' s t) (b : UInt8) :
    Alongside earlier earlier' (s.step b) (t.step b) := by
  obtain ⟨mode, here, start, bytes, fields, done⟩ := s
  obtain ⟨mode', here', start', bytes', fields', done'⟩ := t
  obtain ⟨rfl, rfl, rfl, hdone⟩ := h
  rcases step_cases mode bytes fields b with
    ⟨-, -, hstep⟩ | ⟨-, -, hstep⟩ | ⟨-, mode', bytes', fields', -, hstep⟩
  · rw [hstep, hstep]
    exact ⟨rfl, rfl, rfl, hdone⟩
  · have hends := endRecord (s := ⟨mode, here, start, bytes, fields, done⟩)
      (t := ⟨mode, here', start', bytes, fields, done'⟩) ⟨rfl, rfl, rfl, hdone⟩
    rw [hstep, hstep]
    exact ⟨rfl, rfl, rfl, hends.done⟩
  · rw [hstep, hstep]
    exact ⟨rfl, rfl, rfl, hdone⟩

theorem run (h : Alongside earlier earlier' s t) (bs : List UInt8) :
    Alongside earlier earlier' (s.run bs) (t.run bs) := by
  induction bs generalizing s t with
  | nil => exact h
  | cons b bs ih => exact ih (h.step b)

theorem finish (h : Alongside earlier earlier' s t) :
    Alongside earlier earlier' s.finish t.finish := by
  rw [Scanner.finish, Scanner.finish, ← h.mode]
  split
  · exact h
  · exact h.endRecord

end Alongside

/-! ### Between two records -/

def Tidy (s : Scanner) : Prop := s.mode = .lineStart → s.bytes = [] ∧ s.fields = []

theorem Tidy.step {s : Scanner} (h : s.Tidy) (b : UInt8) : (s.step b).Tidy := by
  obtain ⟨mode, here, start, bytes, fields, done⟩ := s
  rcases step_cases mode bytes fields b with
    ⟨-, -, hstep⟩ | ⟨-, -, hstep⟩ | ⟨-, mode', bytes', fields', hmode, hstep⟩
  · rw [hstep]
    exact h
  · rw [hstep]
    exact fun _ ↦ ⟨rfl, rfl⟩
  · rw [hstep]
    exact fun hline ↦ absurd hline hmode

theorem Tidy.run {s : Scanner} (h : s.Tidy) (bs : List UInt8) : (s.run bs).Tidy := by
  induction bs generalizing s with
  | nil => exact h
  | cons b bs ih => exact ih (h.step b)

theorem tidy_idle (p : Position) (done : List Record) : (idle p done).Tidy := fun _ ↦ ⟨rfl, rfl⟩

variable {s : Scanner} {b : UInt8} {bs : List UInt8}

theorem mode_unquoted (s : Scanner) (b : UInt8) : (s.unquoted b).mode ≠ .quoted := by
  rw [unquoted]
  split
  · simp [endField]
  · split
    · simp [Scanner.endRecord]
    · simp [take]

theorem mode_step_of_ne_quoteMark (hs : s.mode ≠ .quoted) (hb : b ≠ quoteMark) :
    (s.step b).mode ≠ .quoted := by
  obtain ⟨mode, here, start, bytes, fields, done⟩ := s
  by_cases hpassed : mode = .lineStart ∧ isLineEnd b = true
  · obtain ⟨rfl, hline⟩ := hpassed
    simp [step, hline]
  · rw [step_eq_unquoted hs hb fun hmode ↦ Bool.eq_false_iff.mpr fun hline ↦ hpassed ⟨hmode, hline⟩]
    exact mode_unquoted _ b

/-- Without a quotation mark no scanner comes to stand inside quotes. -/
theorem mode_run_of_notMem_quoteMark (hs : s.mode ≠ .quoted) (hbs : quoteMark ∉ bs) :
    (s.run bs).mode ≠ .quoted := by
  induction bs generalizing s with
  | nil => exact hs
  | cons b bs ih =>
      obtain ⟨hb, hrest⟩ := not_or.mp (mt List.mem_cons.mpr hbs)
      exact ih (mode_step_of_ne_quoteMark hs (Ne.symm hb)) hrest

/-- Outside of quotes a line end leaves the scanner between two records. -/
theorem mode_step_of_isLineEnd (hs : s.mode ≠ .quoted) (hb : isLineEnd b = true) :
    (s.step b).mode = .lineStart := by
  have hquote : b ≠ quoteMark := ne_of_isLineEnd hb (by decide)
  have hdelimiter : b ≠ delimiter := ne_of_isLineEnd hb (by decide)
  by_cases hmode : s.mode = .lineStart
  · simp [step, hmode, hb]
  · rw [step_eq_unquoted hs hquote fun hline ↦ absurd hline hmode, unquoted, if_neg hdelimiter,
      if_pos hb]
    rfl

theorem mode_run_of_lines (hs : s.mode = .lineStart) (hquote : quoteMark ∉ bs)
    (hends : bs = [] ∨ ∃ front, bs = front ++ [lineFeed]) : (s.run bs).mode = .lineStart := by
  rcases hends with rfl | ⟨front, rfl⟩
  · exact hs
  · have hfront : (s.run front).mode ≠ .quoted :=
      mode_run_of_notMem_quoteMark (by rw [hs]; nofun) fun h ↦ hquote (List.mem_append_left _ h)
    rw [run_append]
    exact mode_step_of_isLineEnd hfront (by decide)

/-- Without a line end no record is found, and one is at hand once there was a byte. -/
theorem run_of_no_lineEnd (hbs : ∀ b ∈ bs, isLineEnd b = false) :
    (s.run bs).done = s.done ∧ (bs ≠ [] ∨ s.mode ≠ .lineStart → (s.run bs).mode ≠ .lineStart) := by
  induction bs generalizing s with
  | nil => exact ⟨rfl, fun h ↦ h.resolve_left (absurd rfl)⟩
  | cons b bs ih =>
      obtain ⟨mode, here, start, bytes, fields, done⟩ := s
      obtain ⟨hb, hrest⟩ := List.forall_mem_cons.mp hbs
      rcases step_cases mode bytes fields b with
        ⟨-, hline, -⟩ | ⟨-, hline, -⟩ | ⟨-, mode', bytes', fields', hmode, hstep⟩
      · exact absurd hline (by rw [hb]; nofun)
      · exact absurd hline (by rw [hb]; nofun)
      · rw [run_cons, hstep]
        obtain ⟨hdone, hbegun⟩ := ih hrest
        exact ⟨hdone, fun _ ↦ hbegun (.inr hmode)⟩

/-- A line is one record. -/
theorem run_line (hne : bs ≠ []) (hquote : quoteMark ∉ bs) (hbs : ∀ b ∈ bs, isLineEnd b = false)
    (p : Position) : ∃ q heading, (initial p).run (bs ++ [lineFeed]) = idle q [heading] := by
  obtain ⟨hdone, hbegun⟩ := run_of_no_lineEnd (s := initial p) hbs
  have hmode := hbegun (.inl hne)
  have hoff : ((initial p).run bs).mode ≠ .quoted := mode_run_of_notMem_quoteMark nofun hquote
  have hstep := step_eq_unquoted (b := lineFeed) hoff (by decide) fun hline ↦ absurd hline hmode
  refine ⟨((initial p).run bs).here.after lineFeed,
    ⟨((initial p).run bs).start, ((initial p).run bs).allFields⟩, ?_⟩
  rw [run_append, run_cons, run_nil, hstep, unquoted, if_neg (by decide), if_pos (by decide),
    endRecord, hdone]
  rfl

end Scanner

end PaperTrail.Export
