import Mathlib.Data.List.Forall2
import PaperTrail.Export.Record

/-!
# Scanning what was written

A field is written as it is, where it has no mark in it, or between double quotes with the quotes
in it doubled.  Main statement: a scanner between two records reads a written record of two
fields or more, and is then between two records again.
-/

namespace PaperTrail.Export

def Position.past (p : Position) (bs : List UInt8) : Position := bs.foldl Position.after p

theorem Position.past_append (p : Position) (as bs : List UInt8) :
    p.past (as ++ bs) = (p.past as).past bs :=
  List.foldl_append

theorem Position.line_past (p : Position) (bs : List UInt8) :
    (p.past bs).line = p.line + bs.count lineFeed := by
  induction bs generalizing p with
  | nil => rfl
  | cons b bs ih =>
      have hpast : p.past (b :: bs) = (p.after b).past bs := rfl
      rw [hpast, ih]
      by_cases hb : b = lineFeed
      · have hline : (p.after b).line = p.line + 1 := if_pos hb
        rw [hline, hb, List.count_cons_self, Nat.add_right_comm, Nat.add_assoc]
      · have hline : (p.after b).line = p.line := if_neg hb
        rw [hline, List.count_cons_of_ne hb]

def isMark (b : UInt8) : Bool := b == delimiter || b == quoteMark || isLineEnd b

theorem isMark_eq_false_iff {b : UInt8} :
    isMark b = false ↔ b ≠ delimiter ∧ b ≠ quoteMark ∧ isLineEnd b = false := by
  simp [isMark, and_assoc]

def doubled (b : UInt8) : List UInt8 := if b = quoteMark then [quoteMark, quoteMark] else [b]

inductive WrittenAs : List UInt8 → List UInt8 → Prop
  | bare {field : List UInt8} (h : ∀ b ∈ field, isMark b = false) : WrittenAs field field
  | quoted (field : List UInt8) :
      WrittenAs (quoteMark :: (field.flatMap doubled ++ [quoteMark])) field

def writtenRecord (raws : List (List UInt8)) : List UInt8 :=
  [delimiter].intercalate raws ++ [lineFeed]

theorem writtenRecord_cons_cons (raw next : List UInt8) (raws : List (List UInt8)) :
    writtenRecord (raw :: next :: raws) = raw ++ [delimiter] ++ writtenRecord (next :: raws) := by
  simp [writtenRecord, List.intercalate_cons_cons]

namespace Scanner

/-- Between two records. -/
def idle (p : Position) (done : List Record) : Scanner := ⟨.lineStart, p, p, [], [], done⟩

/-- Behind the bytes `raw`, of which those in `field` count. -/
def ahead (s : Scanner) (mode : Mode) (raw field : List UInt8) : Scanner :=
  { s with mode, here := s.here.past raw, bytes := field.reverse ++ s.bytes }

theorem ahead_ahead (s : Scanner) (mode mode' : Mode) (raw raw' field field' : List UInt8) :
    (s.ahead mode raw field).ahead mode' raw' field' =
      s.ahead mode' (raw ++ raw') (field ++ field') := by
  simp [ahead, Position.past_append]

theorem step_eq_unquoted {s : Scanner} {b : UInt8} (hs : s.mode ≠ .quoted) (hb : b ≠ quoteMark)
    (hline : s.mode = .lineStart → isLineEnd b = false) :
    s.step b = ({ s with here := s.here.after b } : Scanner).unquoted b := by
  obtain ⟨mode, here, start, bytes, fields, done⟩ := s
  cases mode with
  | lineStart => simp [step, openField, hline rfl, hb]
  | fieldStart => simp [step, openField, hb]
  | bare => rfl
  | quoted => exact absurd rfl hs
  | closing => simp [step, hb]

theorem step_of_not_isMark {s : Scanner} {b : UInt8} (hs : s.mode ≠ .quoted)
    (hb : isMark b = false) : s.step b = s.ahead .bare [b] [b] := by
  obtain ⟨hdelimiter, hquote, hline⟩ := isMark_eq_false_iff.mp hb
  rw [step_eq_unquoted hs hquote fun _ ↦ hline, unquoted, if_neg hdelimiter, hline]
  rfl

theorem run_bare {field : List UInt8} (h : ∀ b ∈ field, isMark b = false) {s : Scanner}
    (hs : s.mode ≠ .quoted) :
    ∃ mode, s.run field = s.ahead mode field field ∧ mode ≠ .quoted ∧
      (mode = .lineStart → s.mode = .lineStart) := by
  induction field generalizing s with
  | nil => exact ⟨s.mode, rfl, hs, id⟩
  | cons b field ih =>
      have hb := step_of_not_isMark hs (h b List.mem_cons_self)
      have hbare : (s.ahead .bare [b] [b]).mode ≠ .quoted := nofun
      obtain ⟨mode, hrun, hquoted, hline⟩ := ih (fun c hc ↦ h c (List.mem_cons_of_mem b hc)) hbare
      refine ⟨mode, ?_, hquoted, fun hmode ↦ nomatch hline hmode⟩
      rw [run_cons, hb, hrun, ahead_ahead]
      rfl

/-- A byte inside quotes is read back from its escape. -/
theorem run_doubled {s : Scanner} (hs : s.mode = .quoted) (b : UInt8) :
    s.run (doubled b) = s.ahead .quoted (doubled b) [b] := by
  obtain ⟨mode, here, start, bytes, fields, done⟩ := s
  obtain rfl : mode = .quoted := hs
  by_cases hb : b = quoteMark
  · subst hb
    rfl
  · simp [doubled, hb, step, take, ahead, Position.past]

theorem run_flatMap_doubled {s : Scanner} (hs : s.mode = .quoted) (field : List UInt8) :
    s.run (field.flatMap doubled) = s.ahead .quoted (field.flatMap doubled) field := by
  induction field generalizing s with
  | nil =>
      obtain ⟨mode, here, start, bytes, fields, done⟩ := s
      obtain rfl : mode = .quoted := hs
      rfl
  | cons b field ih =>
      rw [List.flatMap_cons, run_append, run_doubled hs b, ih rfl, ahead_ahead]
      rfl

variable {raw field : List UInt8} {s : Scanner}

theorem step_quoteMark (hs : s.mode = .lineStart ∨ s.mode = .fieldStart) :
    s.step quoteMark = s.ahead .quoted [quoteMark] [] := by
  obtain ⟨mode, here, start, bytes, fields, done⟩ := s
  rcases hs with rfl | rfl <;> rfl

/-- However a field is written, it ends where the scanner now meets a delimiter or a line end. -/
theorem run_written (h : WrittenAs raw field) (hs : s.mode = .lineStart ∨ s.mode = .fieldStart) :
    ∃ mode, s.run raw = s.ahead mode raw field ∧ mode ≠ .quoted ∧
      (mode = .lineStart → s.mode = .lineStart) := by
  cases h with
  | bare h =>
      apply run_bare h
      rcases hs with hs | hs <;> rw [hs] <;> nofun
  | quoted =>
      refine ⟨.closing, ?_, nofun, nofun⟩
      have hclose : ∀ t : Scanner, t.mode = .quoted →
          t.run [quoteMark] = t.ahead .closing [quoteMark] [] := by
        rintro ⟨mode, here, start, bytes, fields, done⟩ rfl
        rfl
      rw [run_cons, step_quoteMark hs, run_append, run_flatMap_doubled rfl, hclose _ rfl,
        ahead_ahead, ahead_ahead]
      simp

theorem run_field (h : WrittenAs raw field) (hs : s.mode = .lineStart ∨ s.mode = .fieldStart)
    (hbytes : s.bytes = []) :
    s.run (raw ++ [delimiter]) =
      ⟨.fieldStart, s.here.past (raw ++ [delimiter]), s.start, [], field :: s.fields, s.done⟩ := by
  obtain ⟨mode, hrun, hquoted, -⟩ := run_written h hs
  have hstep := step_eq_unquoted (s := s.ahead mode raw field) (b := delimiter) hquoted
    (by decide) fun _ ↦ by decide
  rw [run_append, hrun, run_cons, run_nil, hstep]
  simp [unquoted, endField, ahead, hbytes, Position.past]

theorem run_lastField (h : WrittenAs raw field) (hs : s.mode = .fieldStart)
    (hbytes : s.bytes = []) :
    s.run (raw ++ [lineFeed]) =
      idle (s.here.past (raw ++ [lineFeed]))
        (⟨s.start, (field :: s.fields).reverse⟩ :: s.done) := by
  obtain ⟨mode, hrun, hquoted, hline⟩ := run_written h (.inr hs)
  -- A line end would be passed over if no byte of the record had been seen.
  have hbegun : mode ≠ .lineStart := fun hmode ↦ by
    have hstart := hline hmode
    rw [hs] at hstart
    cases hstart
  have hstep := step_eq_unquoted (s := s.ahead mode raw field) (b := lineFeed) hquoted
    (by decide) fun hmode ↦ absurd hmode hbegun
  rw [run_append, hrun, run_cons, run_nil, hstep]
  simp [unquoted, delimiter, lineFeed, isLineEnd, endRecord, allFields, idle, ahead, hbytes,
    Position.past]

theorem run_lastFields {raws fields : List (List UInt8)} (h : List.Forall₂ WrittenAs raws fields)
    (hne : raws ≠ []) {s : Scanner} (hs : s.mode = .fieldStart) (hbytes : s.bytes = []) :
    s.run (writtenRecord raws) =
      idle (s.here.past (writtenRecord raws))
        (⟨s.start, s.fields.reverse ++ fields⟩ :: s.done) := by
  induction h generalizing s with
  | nil => exact absurd rfl hne
  | @cons raw field raws fields hfirst hrest ih =>
      cases hrest with
      | nil =>
          rw [writtenRecord, List.intercalate_singleton, run_lastField hfirst hs hbytes]
          simp
      | cons hnext hrest =>
          rw [writtenRecord_cons_cons, run_append, run_field hfirst (.inr hs) hbytes,
            ih (List.cons_ne_nil _ _) rfl rfl, ← Position.past_append]
          simp

/-- A record of one field that is written as nothing would be an empty line. -/
theorem run_writtenRecord {raws fields : List (List UInt8)}
    (h : List.Forall₂ WrittenAs raws fields) (hwide : 2 ≤ raws.length) (p : Position)
    (done : List Record) :
    (idle p done).run (writtenRecord raws) =
      idle (p.past (writtenRecord raws)) (⟨p, fields⟩ :: done) := by
  cases h with
  | nil => cases hwide
  | cons hfirst hrest =>
      cases hrest with
      | nil => simp at hwide
      | cons hnext hrest =>
          rw [writtenRecord_cons_cons, run_append, run_field hfirst (.inl rfl) rfl,
            run_lastFields (.cons hnext hrest) (List.cons_ne_nil _ _) rfl rfl,
            ← Position.past_append]
          rfl

end Scanner

end PaperTrail.Export
