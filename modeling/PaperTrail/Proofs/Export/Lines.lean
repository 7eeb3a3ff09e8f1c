import Mathlib.Data.List.Induction
import PaperTrail.Proofs.Export.Rows
import PaperTrail.Proofs.Export.Steps

/-!
# The lines of records

A record is found where the one before it ended, and begins behind the line ends that follow there:
the line feed of a carriage return, and empty lines.  Main statement: the row that a fault or a skip
names falls short of the line on which its record begins by the line feeds among them.
-/

namespace PaperTrail.Export

open Text

def Begins (bytes : List UInt8) : Prop :=
  ∃ first rest, bytes = first :: rest ∧ isLineEnd first = false

theorem Begins.append {bytes : List UInt8} (h : Begins bytes) (more : List UInt8) :
    Begins (bytes ++ more) := by
  obtain ⟨first, rest, rfl, hfirst⟩ := h
  exact ⟨first, rest ++ more, rfl, hfirst⟩

/-- From these bytes alone one record is read, with these fields. -/
def ReadsAlone (bytes : List UInt8) (fields : List (List UInt8)) : Prop :=
  ((Scanner.initial .origin).run bytes).finish.records.map Record.fields = [fields]

/-- Where a record stands, behind those that are found `earlier`: it is found behind `before`, and
begins behind the line ends of `gap`. -/
structure Standing (scan : List UInt8 → Scanner) (bytes : List UInt8) (earlier : List Record)
    (record : Record) where
  before : List UInt8
  gap : List UInt8
  own : List UInt8
  rest : List UInt8
  whole : bytes = before ++ gap ++ own ++ rest
  found : scan before = .idle record.start earlier.reverse
  isLineEnd_gap : ∀ b ∈ gap, isLineEnd b = true
  begins : Begins own
  alone : ReadsAlone own record.fields

namespace Standing

variable {scan : List UInt8 → Scanner} {bytes : List UInt8} {earlier : List Record}
  {record : Record}

def extend (place : Standing scan bytes earlier record) (more : List UInt8) :
    Standing scan (bytes ++ more) earlier record :=
  { place with
    rest := place.rest ++ more
    whole := by rw [← List.append_assoc, ← place.whole] }

/-- The line on which the record begins.  The first line is line 1, and a line feed ends a line. -/
def line (place : Standing scan bytes earlier record) : Nat :=
  1 + (place.before ++ place.gap).count lineFeed

end Standing

/-- Each of the records stands among the bytes, behind those before it. -/
def AllStand (scan : List UInt8 → Scanner) (bytes : List UInt8) (records : List Record) : Prop :=
  ∀ earlier record later, records = earlier ++ record :: later →
    Nonempty (Standing scan bytes earlier record)

namespace AllStand

variable {scan : List UInt8 → Scanner} {bytes : List UInt8} {records : List Record}

theorem extend (h : AllStand scan bytes records) (more : List UInt8) :
    AllStand scan (bytes ++ more) records := by
  intro earlier record later hrecords
  obtain ⟨place⟩ := h earlier record later hrecords
  exact ⟨place.extend more⟩

theorem concat (h : AllStand scan bytes records) {last : Record}
    (hlast : Standing scan bytes records last) : AllStand scan bytes (records ++ [last]) := by
  intro earlier record later hrecords
  rcases List.eq_nil_or_concat later with rfl | ⟨later, b, rfl⟩
  · obtain ⟨rfl, hrecord⟩ := List.append_inj' hrecords rfl
    cases hrecord
    exact ⟨hlast⟩
  · rw [List.concat_eq_append, ← List.cons_append, ← List.append_assoc] at hrecords
    obtain ⟨hrecords, -⟩ := List.append_inj' hrecords rfl
    exact h earlier record later hrecords

end AllStand

namespace Scanner

theorem here_run (s : Scanner) (bs : List UInt8) : (s.run bs).here = s.here.past bs := by
  induction bs generalizing s with
  | nil => rfl
  | cons b bs ih =>
      obtain ⟨mode, here, start, bytes, fields, done⟩ := s
      have hstep : (step ⟨mode, here, start, bytes, fields, done⟩ b).here = here.after b := by
        rcases step_cases mode bytes fields b with
          ⟨-, -, hstep⟩ | ⟨-, -, hstep⟩ | ⟨-, mode', bytes', fields', -, hstep⟩
        · rw [hstep]
        · rw [hstep]
          rfl
        · rw [hstep]
      rw [run_cons, ih, hstep]
      rfl

/-- The scanner has come to the end of `bs`, and what it has in hand are the bytes `own`. -/
structure AtHand (p : Position) (bs before gap own : List UInt8) (s : Scanner) : Prop where
  whole : bs = before ++ gap ++ own
  found : (initial p).run before = idle s.start s.done
  isLineEnd_gap : ∀ b ∈ gap, isLineEnd b = true
  eq_nil : s.mode = .lineStart → own = []
  begins : s.mode ≠ .lineStart → Begins own
  alone : ∃ q, (initial .origin).run own = ⟨s.mode, q, .origin, s.bytes, s.fields, []⟩

/-- The record at hand, once it is found to end with `more`. -/
def AtHand.standing {p : Position} {bs before gap own more : List UInt8} {s : Scanner}
    (h : AtHand p bs before gap own s) (hbegun : s.mode ≠ .lineStart)
    {fields : List (List UInt8)} (halone : ReadsAlone (own ++ more) fields) :
    Standing (initial p).run (bs ++ more) s.records ⟨s.start, fields⟩ where
  before := before
  gap := gap
  own := own ++ more
  rest := []
  whole := by rw [h.whole, List.append_nil, List.append_assoc]
  found := by rw [h.found, records, List.reverse_reverse]
  isLineEnd_gap := h.isLineEnd_gap
  begins := (h.begins hbegun).append more
  alone := halone

/-- What was found stands where it was found, and so does what is at hand. -/
def Located (p : Position) (bs : List UInt8) (s : Scanner) : Prop :=
  (∃ before gap own, AtHand p bs before gap own s) ∧ AllStand (initial p).run bs s.records

theorem located_initial (p : Position) : Located p [] (initial p) := by
  refine ⟨⟨[], [], [], rfl, rfl, nofun, fun _ ↦ rfl, fun hmode ↦ absurd rfl hmode, .origin,
    rfl⟩, ?_⟩
  intro earlier record later hrecords
  exact absurd hrecords.symm (List.append_ne_nil_of_right_ne_nil _ (List.cons_ne_nil _ _))

theorem Located.step {p : Position} {bs : List UInt8} {s : Scanner}
    (hs : (initial p).run bs = s) (h : Located p bs s) (b : UInt8) :
    Located p (bs ++ [b]) (s.step b) := by
  obtain ⟨⟨before, gap, own, hand⟩, hstand⟩ := h
  obtain ⟨q, halone⟩ := hand.alone
  obtain ⟨mode, here, start, bytes, fields, done⟩ := s
  rcases step_cases mode bytes fields b with
    ⟨hmode, hline, hstep⟩ | ⟨hmode, -, hstep⟩ | ⟨hline, mode', bytes', fields', hmode', hstep⟩
  · -- the gap grows
    obtain rfl := hand.eq_nil hmode
    rw [hstep]
    refine ⟨⟨before, gap ++ [b], [], ?_, hand.found, ?_, fun _ ↦ rfl, hand.begins, q, halone⟩,
      hstand.extend [b]⟩
    · rw [hand.whole, List.append_nil, List.append_nil, List.append_assoc]
    · exact List.forall_mem_append.mpr ⟨hand.isLineEnd_gap, List.forall_mem_singleton.mpr hline⟩
  · -- the record at hand is found, and a new gap begins
    have hrun : (initial p).run (bs ++ [b]) =
        idle (here.after b) (⟨start, (bytes.reverse :: fields).reverse⟩ :: done) := by
      rw [run_append, hs, run_cons, run_nil, hstep]
    have hown : ReadsAlone (own ++ [b]) (bytes.reverse :: fields).reverse := by
      rw [ReadsAlone, run_append, halone, run_cons, run_nil, hstep]
      rfl
    have hnew := (hstand.extend [b]).concat (hand.standing hmode hown)
    rw [hstep]
    refine ⟨⟨bs ++ [b], [], [], ?_, hrun, nofun, fun _ ↦ rfl, fun hidle ↦ absurd rfl hidle, .origin,
      rfl⟩, ?_⟩
    · rw [List.append_nil, List.append_nil]
    · rw [records, idle, List.reverse_cons]
      exact hnew
  · -- the record at hand grows
    rw [hstep]
    refine ⟨⟨before, gap, own ++ [b], ?_, hand.found, hand.isLineEnd_gap,
      fun hidle ↦ absurd hidle hmode', fun _ ↦ ?_, q.after b, ?_⟩, hstand.extend [b]⟩
    · rw [hand.whole, List.append_assoc]
    · by_cases hmode : mode = .lineStart
      · obtain rfl := hand.eq_nil hmode
        exact ⟨b, [], rfl, hline hmode⟩
      · exact (hand.begins hmode).append [b]
    · rw [run_append, halone, run_cons, run_nil, hstep]

theorem located_run (p : Position) (bs : List UInt8) : Located p bs ((initial p).run bs) := by
  induction bs using List.reverseRecOn with
  | nil => exact located_initial p
  | append_singleton bs b ih =>
      rw [run_append]
      exact ih.step rfl b

theorem finish_of_ne_lineStart {s : Scanner} (h : s.mode ≠ .lineStart) :
    s.finish = s.endRecord := by
  rw [finish]
  split
  · exact absurd ‹_› h
  · rfl

theorem allStand_run_finish (p : Position) (bs : List UInt8) :
    AllStand (initial p).run bs ((initial p).run bs).finish.records := by
  obtain ⟨⟨before, gap, own, hand⟩, hstand⟩ := located_run p bs
  generalize (initial p).run bs = s at hand hstand
  by_cases hmode : s.mode = .lineStart
  · rw [finish, hmode]
    exact hstand
  · obtain ⟨q, halone⟩ := hand.alone
    have hown : ReadsAlone (own ++ []) s.allFields := by
      have hfinish :=
        finish_of_ne_lineStart (s := ⟨s.mode, q, .origin, s.bytes, s.fields, []⟩) hmode
      rw [ReadsAlone, List.append_nil, halone, hfinish]
      rfl
    have hlast := hand.standing hmode hown
    rw [List.append_nil] at hlast
    rw [finish_of_ne_lineStart hmode, records, endRecord, List.reverse_cons]
    exact hstand.concat hlast

end Scanner

/-! ### Records of an export -/

def scanned (bytes : List UInt8) : Scanner := ({ bytes } : Source).scan

theorem scanned_marked (body : List UInt8) :
    scanned (byteOrderMark ++ body) =
      (Scanner.initial ⟨1, byteOrderMark.length⟩).run body := by
  rw [scanned, scan_of_marked (List.prefix_append _ _), List.drop_left]

theorem scanned_unmarked {bytes : List UInt8} (h : ¬ byteOrderMark <+: bytes) :
    scanned bytes = (Scanner.initial .origin).run bytes :=
  scan_of_unmarked h

/-- Every record of a scan has its place among the bytes. -/
theorem allStand_scanned (bytes : List UInt8) :
    AllStand scanned bytes (scanned bytes).finish.records := by
  intro earlier record later hrecords
  by_cases hmark : byteOrderMark <+: bytes
  · obtain ⟨body, rfl⟩ := hmark
    rw [scanned_marked] at hrecords
    obtain ⟨place⟩ := Scanner.allStand_run_finish _ body earlier record later hrecords
    exact ⟨{ place with
      before := byteOrderMark ++ place.before
      whole := by simp [place.whole]
      found := by rw [scanned_marked, place.found] }⟩
  · rw [scanned_unmarked hmark] at hrecords
    obtain ⟨place⟩ := Scanner.allStand_run_finish _ bytes earlier record later hrecords
    have hbefore : ¬ byteOrderMark <+: place.before := fun hmarked ↦
      hmark (hmarked.trans ⟨place.gap ++ place.own ++ place.rest, by simp [place.whole]⟩)
    exact ⟨{ place with found := by rw [scanned_unmarked hbefore, place.found] }⟩

theorem line_scanned (bytes : List UInt8) :
    (scanned bytes).here.line = 1 + bytes.count lineFeed := by
  by_cases hmark : byteOrderMark <+: bytes
  · obtain ⟨body, rfl⟩ := hmark
    have hcount : byteOrderMark.count lineFeed = 0 := by decide
    rw [scanned_marked, Scanner.here_run, Position.line_past, List.count_append, hcount,
      Nat.zero_add]
    rfl
  · rw [scanned_unmarked hmark, Scanner.here_run, Position.line_past]
    rfl

/-- The place that is noted for a record misses the line feeds of the gap. -/
theorem Standing.line_eq {bytes : List UInt8} {earlier : List Record} {record : Record}
    (place : Standing scanned bytes earlier record) :
    place.line = record.start.line + place.gap.count lineFeed := by
  have hstart : record.start.line = 1 + place.before.count lineFeed := by
    rw [← line_scanned, place.found]
    rfl
  rw [Standing.line, List.count_append, hstart, Nat.add_assoc]

/-! ### What a row number names -/

theorem exists_damage_of_textFields {place : Nat × Position} {before : Nat}
    {fields : List (List UInt8)} {fault : Fault}
    (h : textFields place before fields = .error fault) :
    ∃ damage, fault = .damagedExport damage := by
  induction fields generalizing before with
  | nil => cases h
  | cons bytes rest ih =>
      rw [textFields] at h
      cases hbytes : decode bytes with
      | error sound =>
          rw [hbytes] at h
          cases h
          exact ⟨_, rfl⟩
      | ok text =>
          rw [hbytes] at h
          cases hrest : textFields place (before + 1) rest with
          | error fault' =>
              simp only [hrest] at h
              cases h
              exact ih hrest
          | ok texts =>
              simp only [hrest] at h
              cases h

theorem exists_cause_of_readRow {row : Nat} {fields : List String} {fault : Fault}
    (h : (readRow row fields).answer = .error fault) : ∃ cause, fault = .invalidRow row cause := by
  rw [readRow] at h
  split at h
  · cases h
  · rcases Logged.exists_of_answer_bind_eq_error h with hrow | ⟨b, -, h⟩
    · cases hfields : Booking.ofFields fields with
      | ok b =>
          rw [hfields] at hrow
          cases hrow
      | error cause =>
          rw [hfields] at hrow
          cases hrow
          exact ⟨cause, rfl⟩
    · split at h
      · cases h
      · cases h

theorem eq_skipped_of_mem_readRow {row : Nat} {fields : List String} {event : Event}
    (h : event ∈ (readRow row fields).events) :
    event = .skippedBlankRow row ∨ event = .skippedEmptyRow row := by
  rw [readRow] at h
  split at h
  · exact .inl (List.mem_singleton.mp h)
  · rcases Logged.exists_of_mem_events_bind h with hrow | ⟨b, -, h⟩
    · cases hrow
    · split at h
      · exact .inr (List.mem_singleton.mp h)
      · cases h

/-- A fault is put down to the line where the scanner had its record begin. -/
theorem row_eq_of_readRecord {record : Record} {before row : Nat} {cause : Fault}
    (h : (readRecord (record, before)).answer = .error (.invalidRow row cause)) :
    row = record.start.line := by
  rcases Logged.exists_of_answer_bind_eq_error h with htexts | ⟨texts, -, h⟩
  · obtain ⟨damage, hdamage⟩ := exists_damage_of_textFields htexts
    cases hdamage
  · obtain ⟨cause', hcause⟩ := exists_cause_of_readRow h
    cases hcause
    rfl

theorem eq_skipped_of_mem_readRecord {record : Record} {before : Nat} {event : Event}
    (h : event ∈ (readRecord (record, before)).events) :
    event = .skippedBlankRow record.start.line ∨ event = .skippedEmptyRow record.start.line := by
  rcases Logged.exists_of_mem_events_bind h with htexts | ⟨texts, -, h⟩
  · cases htexts
  · exact eq_skipped_of_mem_readRow h

/-- The row is that of a record behind the heading which tells this when it is read.  It falls short
of the line on which the record begins by the line feeds between the end of the record before it
and its first byte, and is that line if there are none. -/
def RowOf (text : String) (row : Nat) (tells : Logged (Option Booking) → Prop) : Prop :=
  ∃ heading earlier record later,
    (scanned (encode text)).finish.records = heading :: earlier ++ record :: later ∧
    tells (readRecord (record, earlier.length)) ∧
    ∃ place : Standing scanned (encode text) (heading :: earlier) record,
      place.line = row + place.gap.count lineFeed ∧ (row = place.line ↔ lineFeed ∉ place.gap)

theorem exists_split_of_mem_zipIdx {α : Type} {as : List α} {a : α} {n : Nat}
    (h : (a, n) ∈ as.zipIdx) : ∃ before behind, as = before ++ a :: behind ∧ before.length = n := by
  have hget : as[n]? = some a := List.mem_zipIdx_iff_getElem?.mp h
  obtain ⟨hn, rfl⟩ := List.getElem?_eq_some_iff.mp hget
  refine ⟨as.take n, as.drop (n + 1), ?_, List.length_take_of_le (Nat.le_of_lt hn)⟩
  rw [← List.drop_eq_getElem_cons hn, List.take_append_drop]

theorem rowOf_of_mem {text : String} {record : Record} {n : Nat}
    {tells : Logged (Option Booking) → Prop} (htells : tells (readRecord (record, n)))
    (hmem : (record, n) ∈ (Source.ofText text).effective.rows.zipIdx) :
    RowOf text record.start.line tells := by
  obtain ⟨earlier, later, hrows, rfl⟩ := exists_split_of_mem_zipIdx hmem
  rw [rows_ofText] at hrows
  have hrecords : (scanned (encode text)).finish.records.drop 1 =
      earlier ++ record :: later := hrows
  cases hall : (scanned (encode text)).finish.records with
  | nil =>
      rw [hall] at hrecords
      exact absurd hrecords.symm (List.append_ne_nil_of_right_ne_nil _ (List.cons_ne_nil _ _))
  | cons heading rest =>
      rw [hall, List.drop_one, List.tail_cons] at hrecords
      have hsplit : (scanned (encode text)).finish.records =
          heading :: earlier ++ record :: later := by
        rw [hall, hrecords, List.cons_append]
      obtain ⟨place⟩ := allStand_scanned (encode text) _ _ _ hsplit
      refine ⟨heading, earlier, record, later, hsplit, htells, place, place.line_eq, ?_⟩
      rw [place.line_eq, ← List.count_eq_zero]
      omega

/-- The row that a fault or a skip names is that of the record it is about. -/
theorem rowOf_of_read (text : String) :
    (∀ row cause, (read (.ofText text)).answer = .error (.invalidRow row cause) →
      RowOf text row fun reading ↦ reading.answer = .error (.invalidRow row cause)) ∧
    ∀ row event, event = .skippedBlankRow row ∨ event = .skippedEmptyRow row →
      event ∈ (read (.ofText text)).events →
        RowOf text row fun reading ↦ event ∈ reading.events := by
  refine ⟨fun row cause hread ↦ ?_, fun row event hevent hread ↦ ?_⟩
  · have heach : (Logged.each readRecord (Source.ofText text).effective.rows.zipIdx).answer =
        .error (.invalidRow row cause) := by
      rcases Logged.exists_of_answer_bind_eq_error hread with heach | ⟨outcomes, -, hbreak⟩
      · exact heach
      · rw [Source.breakOff, failure_effective_ofText] at hbreak
        cases hbreak
    obtain ⟨⟨record, n⟩, hmem, hrecord⟩ := Logged.exists_of_answer_each_eq_error heach
    obtain rfl := row_eq_of_readRecord hrecord
    exact rowOf_of_mem hrecord hmem
  · have heach : event ∈
        (Logged.each readRecord (Source.ofText text).effective.rows.zipIdx).events := by
      rcases Logged.exists_of_mem_events_bind hread with heach | ⟨outcomes, -, hlast⟩
      · exact heach
      · rw [Source.breakOff, failure_effective_ofText] at hlast
        rw [List.mem_singleton.mp hlast] at hevent
        rcases hevent with hevent | hevent <;> cases hevent
    obtain ⟨⟨record, n⟩, hmem, hrecord⟩ := Logged.exists_of_mem_events_each heach
    have hrow : row = record.start.line := by
      rcases hevent with rfl | rfl <;> rcases eq_skipped_of_mem_readRecord hrecord with h | h <;>
        cases h <;> rfl
    subst hrow
    exact rowOf_of_mem hrecord hmem

/-- With carriage returns, the record on line 2 is told of as row 1. -/
theorem row_behind_carriageReturn :
    (read (.ofText "day\r\nfee\r\n")).answer = .error (.invalidRow 1 (.columnCount 13 1)) ∧
    ∃ heading record, (scanned (encode "day\r\nfee\r\n")).finish.records = [heading, record] ∧
      ∃ place : Standing scanned (encode "day\r\nfee\r\n") [heading] record, place.line = 2 := by
  refine ⟨rfl, ⟨.origin, [[100, 97, 121]]⟩, ⟨⟨1, 4⟩, [[102, 101, 101]]⟩, rfl, ?_⟩
  exact ⟨{
    before := [100, 97, 121, 13]
    gap := [10]
    own := [102, 101, 101]
    rest := [13, 10]
    whole := rfl
    found := rfl
    isLineEnd_gap := List.forall_mem_singleton.mpr rfl
    begins := ⟨102, [101, 101], rfl, rfl⟩
    alone := rfl }, by decide⟩

end PaperTrail.Export
