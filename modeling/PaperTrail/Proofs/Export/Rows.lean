import PaperTrail.Proofs.Export.Rendering

/-!
# Importing a rendered export

Main statement: an import keeps the bookings of the rows in their order, without the empty ones,
and tells of each row that it skips; or it fails with the fault of the first row that is neither
blank nor a booking.
-/

namespace PaperTrail.Export

open Text

theorem textFields_map_encode (place : Nat × Position) (before : Nat) (texts : List String) :
    textFields place before (texts.map encode) = .ok texts := by
  induction texts generalizing before with
  | nil => rfl
  | cons text texts ih =>
      rw [List.map_cons, textFields, decode_encode]
      simp only [ih]
      rfl

theorem readRecord_record (row : Row) (p : Position) (before : Nat) :
    readRecord (row.record p, before) = readRow p.line row.texts := by
  rw [readRecord, Row.record, textFields_map_encode, Logged.ofExcept_ok_bind]

/-- The rows with the lines where they start, the first one at `line`. -/
def placed (line : Nat) : List Row → List (Nat × Row)
  | [] => []
  | row :: rows => (line, row) :: placed (line + row.height) rows

theorem map_snd_placed (line : Nat) (rows : List Row) : (placed line rows).map Prod.snd = rows := by
  induction rows generalizing line with
  | nil => rfl
  | cons row rows ih => rw [placed, List.map_cons, ih]

/-- The line behind the rows, of which the first one starts at `line`. -/
def lineBehind (line : Nat) (rows : List Row) : Nat :=
  rows.foldl (fun behind row ↦ behind + row.height) line

theorem placed_append (line : Nat) (before : List Row) (row : Row) (rest : List Row) :
    placed line (before ++ row :: rest) =
      placed line before ++
        (lineBehind line before, row) :: placed (lineBehind line before + row.height) rest := by
  induction before generalizing line with
  | nil => rfl
  | cons first before ih =>
      rw [List.cons_append, placed, ih, placed]
      rfl

theorem each_readRecord (rows : List Row) (p : Position) (before : Nat) :
    Logged.each readRecord ((recordsAt p rows).zipIdx before) =
      Logged.each (fun numbered ↦ readRow numbered.1 numbered.2.texts) (placed p.line rows) := by
  induction rows generalizing p before with
  | nil => rfl
  | cons row rows ih =>
      rw [recordsAt, List.zipIdx_cons, placed, Logged.each_cons, Logged.each_cons,
        readRecord_record, ih, row.line_past]

namespace Row

def booksNothing (row : Row) : Bool :=
  match Booking.ofFields row.texts with
  | .ok booking => booking.isEmpty
  | .error _ => false

def skip? (row : Row) (line : Nat) : Option Event :=
  if row.isBlank then some (.skippedBlankRow line)
  else if row.booksNothing then some (.skippedEmptyRow line)
  else none

def kept? (row : Row) : Option Booking :=
  if row.isBlank || row.booksNothing then none
  else (Booking.ofFields row.texts).toOption

def Reads (row : Row) : Prop := row.isBlank = true ∨ ∃ b, Booking.ofFields row.texts = .ok b

variable {row : Row}

/-- A row that reads is kept or skipped with its event, whatever its line. -/
theorem readRow_of_reads (h : row.Reads) (line : Nat) :
    readRow line row.texts = ⟨(row.skip? line).toList, .ok row.kept?⟩ := by
  have hblank_eq : row.texts.all allBlank = row.isBlank := rfl
  rw [readRow, hblank_eq, skip?, kept?]
  by_cases hblank : row.isBlank = true
  · simp only [hblank, if_true, Bool.true_or]
    rfl
  · obtain ⟨b, hb⟩ := h.resolve_left hblank
    have hempty : row.booksNothing = b.isEmpty := by rw [booksNothing, hb]
    simp only [hblank, hempty, hb, inRow, Logged.ofExcept_ok_bind, Bool.false_or,
      Bool.false_eq_true, if_false]
    cases b.isEmpty with
    | true => rfl
    | false => rfl

theorem readRow_of_error {cause : Fault} (hblank : row.isBlank = false)
    (h : Booking.ofFields row.texts = .error cause) (line : Nat) :
    readRow line row.texts = ⟨[], .error (.invalidRow line cause)⟩ := by
  have hblank_eq : row.texts.all allBlank = row.isBlank := rfl
  rw [readRow, hblank_eq, hblank, h]
  rfl

/-- Either a row is skipped, with an event, or its booking is kept. -/
theorem skipped_or_kept (h : row.Reads) (line : Nat) :
    (row.kept? = none ∧ ∃ event, row.skip? line = some event) ∨
      (∃ b, row.kept? = some b) ∧ row.skip? line = none := by
  by_cases hblank : row.isBlank = true
  · exact .inl ⟨by simp [kept?, hblank], .skippedBlankRow line, if_pos hblank⟩
  · obtain ⟨b, hb⟩ := h.resolve_left hblank
    by_cases hempty : row.booksNothing = true
    · exact .inl ⟨by simp [kept?, hempty], .skippedEmptyRow line, by simp [skip?, hblank, hempty]⟩
    · exact .inr ⟨⟨b, by simp [kept?, hblank, hempty, hb, Except.toOption]⟩,
        by simp [skip?, hblank, hempty]⟩

theorem level_of_skip?_eq_some {line : Nat} {event : Event} (h : row.skip? line = some event) :
    event.level = .debug := by
  rw [skip?] at h
  split at h
  · cases h
    rfl
  · split at h
    · cases h
      rfl
    · cases h

end Row

/-- The bookings of the rows that are not blank, in the order of the rows. -/
def ReadAs (rows : List Row) (bookings : List Booking) : Prop :=
  List.Forall₂ (fun row b ↦ Booking.ofFields row.texts = .ok b)
    (rows.filter fun row ↦ !row.isBlank) bookings

theorem readAs_cons_of_isBlank {row : Row} {rows : List Row} {bookings : List Booking}
    (h : row.isBlank = true) : ReadAs (row :: rows) bookings ↔ ReadAs rows bookings := by
  simp [ReadAs, h]

theorem readAs_cons_of_not_isBlank {row : Row} {rows : List Row} {bookings : List Booking}
    (h : row.isBlank = false) :
    ReadAs (row :: rows) bookings ↔
      ∃ b rest, Booking.ofFields row.texts = .ok b ∧ ReadAs rows rest ∧ bookings = b :: rest := by
  simp [ReadAs, h, List.forall₂_cons_left_iff]

theorem exists_readAs_iff {rows : List Row} :
    (∃ bookings, ReadAs rows bookings) ↔ ∀ row ∈ rows, row.Reads := by
  induction rows with
  | nil => simp [ReadAs]
  | cons row rows ih =>
      rw [List.forall_mem_cons, ← ih]
      by_cases h : row.isBlank = true
      · simp [readAs_cons_of_isBlank h, Row.Reads, h]
      · simp [readAs_cons_of_not_isBlank (Bool.eq_false_iff.mpr h), Row.Reads, h]

/-- The events of the rows that are skipped, where the first row starts at `line`. -/
def skips (line : Nat) (rows : List Row) : List Event :=
  (placed line rows).flatMap fun numbered ↦ (numbered.2.skip? numbered.1).toList

theorem filterMap_kept?_of_readAs {rows : List Row} {bookings : List Booking}
    (h : ReadAs rows bookings) :
    rows.filterMap Row.kept? = bookings.filter fun b ↦ !b.isEmpty := by
  induction rows generalizing bookings with
  | nil =>
      cases h
      rfl
  | cons row rows ih =>
      by_cases hblank : row.isBlank = true
      · have hkept : row.kept? = none := by simp [Row.kept?, hblank]
        rw [List.filterMap_cons_none hkept, ih ((readAs_cons_of_isBlank hblank).mp h)]
      · obtain ⟨b, rest, hb, hrest, rfl⟩ :=
          (readAs_cons_of_not_isBlank (Bool.eq_false_iff.mpr hblank)).mp h
        by_cases hempty : b.isEmpty = true
        · have hkept : row.kept? = none := by simp [Row.kept?, Row.booksNothing, hb, hempty]
          rw [List.filterMap_cons_none hkept, ih hrest, List.filter_cons_of_neg (by simp [hempty])]
        · have hkept : row.kept? = some b := by
            simp [Row.kept?, Row.booksNothing, hb, hempty, hblank, Except.toOption]
          rw [List.filterMap_cons_some hkept, ih hrest, List.filter_cons_of_pos (by simp [hempty])]

theorem level_of_mem_skips {line : Nat} {rows : List Row} {event : Event}
    (h : event ∈ skips line rows) : event.level = .debug := by
  obtain ⟨numbered, -, hskip⟩ := List.mem_flatMap.mp h
  exact Row.level_of_skip?_eq_some (Option.mem_toList.mp hskip)

theorem length_kept_add_length_skips {rows : List Row} (h : ∀ row ∈ rows, row.Reads)
    (line : Nat) :
    (rows.filterMap Row.kept?).length + (skips line rows).length = rows.length := by
  induction rows generalizing line with
  | nil => rfl
  | cons row rows ih =>
      obtain ⟨hrow, hrows⟩ := List.forall_mem_cons.mp h
      have hskips : skips line (row :: rows) =
          (row.skip? line).toList ++ skips (line + row.height) rows := List.flatMap_cons
      have hrest := ih hrows (line + row.height)
      rcases row.skipped_or_kept hrow line with ⟨hkept, event, hskip⟩ | ⟨⟨b, hkept⟩, hskip⟩
      · rw [hskips, hskip, List.filterMap_cons_none hkept]
        simp only [Option.toList_some, List.length_append, List.length_cons, List.length_nil]
        omega
      · rw [hskips, hskip, List.filterMap_cons_some hkept]
        simp only [Option.toList_none, List.nil_append, List.length_cons]
        omega

theorem exists_first_failure {rows : List Row} (h : ¬ ∀ row ∈ rows, row.Reads) :
    ∃ before row rest cause, rows = before ++ row :: rest ∧ (∀ r ∈ before, r.Reads) ∧
      row.isBlank = false ∧ Booking.ofFields row.texts = .error cause := by
  induction rows with
  | nil => exact absurd (List.forall_mem_nil Row.Reads) h
  | cons first rows ih =>
      by_cases hfirst : first.Reads
      · have hrows : ¬ ∀ row ∈ rows, row.Reads := fun hrows ↦
          h (List.forall_mem_cons.mpr ⟨hfirst, hrows⟩)
        obtain ⟨before, row, rest, cause, rfl, hbefore, hrow⟩ := ih hrows
        exact ⟨first :: before, row, rest, cause, rfl,
          List.forall_mem_cons.mpr ⟨hfirst, hbefore⟩, hrow⟩
      · obtain ⟨hblank, hfields⟩ := not_or.mp hfirst
        cases hcause : Booking.ofFields first.texts with
        | ok b => exact absurd ⟨b, hcause⟩ hfields
        | error cause =>
            exact ⟨[], first, rows, cause, rfl, List.forall_mem_nil _,
              Bool.eq_false_iff.mpr hblank, hcause⟩

theorem failure_effective_ofText (text : String) :
    (Source.ofText text).effective.failure = none := by
  rw [Source.effective]
  split
  · rfl
  · rfl

theorem rows_ofText (text : String) :
    (Source.ofText text).effective.rows = (Source.ofText text).scan.finish.records.drop 1 := by
  rw [Source.ofText, Source.rows_effective_of_whole]
  rfl

theorem each_rendered (header : Row) (rows : List Row) :
    Logged.each readRecord (Source.ofText (rendered header rows)).effective.rows.zipIdx =
      Logged.each (fun numbered ↦ readRow numbered.1 numbered.2.texts)
        (placed (1 + header.height) rows) := by
  obtain ⟨p, hp, hrows⟩ := rows_rendered header rows
  rw [hrows, each_readRecord, hp]

theorem readRow_of_mem_placed {rows : List Row} (h : ∀ row ∈ rows, row.Reads) {line : Nat}
    {numbered : Nat × Row} (hmem : numbered ∈ placed line rows) :
    readRow numbered.1 numbered.2.texts =
      ⟨(numbered.2.skip? numbered.1).toList, .ok numbered.2.kept?⟩ := by
  have hrow := List.mem_map_of_mem (f := Prod.snd) hmem
  rw [map_snd_placed] at hrow
  exact Row.readRow_of_reads (h _ hrow) _

/-- An export whose rows read is imported, with an event for every row that is skipped. -/
theorem read_of_reads (header : Row) {rows : List Row} (h : ∀ row ∈ rows, row.Reads) :
    read (.ofText (rendered header rows)) =
      ⟨skips (1 + header.height) rows ++
          [.importedExport (rows.filterMap Row.kept?).length
            (skips (1 + header.height) rows).length],
        .ok (rows.filterMap Row.kept?)⟩ := by
  have heach : Logged.each readRecord
      (Source.ofText (rendered header rows)).effective.rows.zipIdx =
        ⟨skips (1 + header.height) rows, .ok (rows.map Row.kept?)⟩ := by
    have houtcomes : ((placed (1 + header.height) rows).map Prod.snd).map Row.kept? =
        rows.map Row.kept? := by rw [map_snd_placed]
    rw [each_rendered, Logged.each_of_ok fun _ hmem ↦ readRow_of_mem_placed h hmem, skips,
      ← houtcomes, List.map_map]
    rfl
  have hskipped : (rows.map Row.kept?).length - (rows.filterMap Row.kept?).length =
      (skips (1 + header.height) rows).length := by
    have hlength := length_kept_add_length_skips h (1 + header.height)
    rw [List.length_map]
    omega
  have hkept : (rows.map Row.kept?).filterMap id = rows.filterMap Row.kept? := by
    rw [List.filterMap_map, Function.id_comp]
  simp only [read, heach, Source.breakOff, failure_effective_ofText, Logged.bind_ok, hkept,
    hskipped, Logged.pure_eq, Logged.log, List.nil_append, List.append_nil]

/-- The import ends with the first row that does not read, whatever follows. -/
theorem read_of_failure (header : Row) {before : List Row} (hbefore : ∀ r ∈ before, r.Reads)
    {row : Row} {cause : Fault} (hblank : row.isBlank = false)
    (hrow : Booking.ofFields row.texts = .error cause) (rest : List Row) :
    read (.ofText (rendered header (before ++ row :: rest))) =
      ⟨skips (1 + header.height) before,
        .error (.invalidRow (lineBehind (1 + header.height) before) cause)⟩ := by
  have heach : Logged.each readRecord
      (Source.ofText (rendered header (before ++ row :: rest))).effective.rows.zipIdx =
        ⟨skips (1 + header.height) before ++ [],
          .error (.invalidRow (lineBehind (1 + header.height) before) cause)⟩ := by
    rw [each_rendered, placed_append]
    exact Logged.each_append_of_error (fun _ hmem ↦ readRow_of_mem_placed hbefore hmem)
      (Row.readRow_of_error hblank hrow _) _
  simp only [read, heach, Logged.bind_error, List.append_nil]

/-- Where every row is blank or a booking, the import gives the bookings that are not empty and
tells of each other row.  Where one is neither, the first such row ends the import, whatever comes
behind it. -/
theorem read_rendered (header : Row) (rows : List Row) :
    (∀ bookings, ReadAs rows bookings →
      ∃ kept told, kept = bookings.filter (fun b ↦ !b.isEmpty) ∧
        told = skips (1 + header.height) rows ∧
        read (.ofText (rendered header rows)) =
          ⟨told ++ [.importedExport kept.length told.length], .ok kept⟩ ∧
        (∀ event ∈ told, event.level = .debug) ∧
        kept.length + told.length = rows.length) ∧
    ((¬ ∃ bookings, ReadAs rows bookings) →
      ∃ before row rest cause, rows = before ++ row :: rest ∧
        (∃ bookings, ReadAs before bookings) ∧
        row.isBlank = false ∧ Booking.ofFields row.texts = .error cause ∧
        read (.ofText (rendered header rows)) =
          ⟨skips (1 + header.height) before,
            .error (.invalidRow (lineBehind (1 + header.height) before) cause)⟩) := by
  refine ⟨fun bookings hread ↦ ?_, fun hfails ↦ ?_⟩
  · have hrows := exists_readAs_iff.mp ⟨bookings, hread⟩
    have hlength := length_kept_add_length_skips hrows (1 + header.height)
    have himport := read_of_reads header hrows
    rw [filterMap_kept?_of_readAs hread] at hlength himport
    exact ⟨_, _, rfl, rfl, himport, fun _ ↦ level_of_mem_skips, hlength⟩
  · rw [exists_readAs_iff] at hfails
    obtain ⟨before, row, rest, cause, rfl, hbefore, hblank, hrow⟩ := exists_first_failure hfails
    exact ⟨before, row, rest, cause, rfl, exists_readAs_iff.mpr hbefore, hblank, hrow,
      read_of_failure header hbefore hblank hrow rest⟩

-- the heading takes two lines, and the first row is blank
example :
    let header : Row := ⟨[.bare "day" (by simp [fieldMarks]), .quoted "sum\n"], by decide⟩
    let blank : Row := ⟨[.bare "" (by simp), .quoted " "], by decide⟩
    let fee : Row := ⟨["", "", "", "", "\"Fee\"", "1", "1", "2", "", "", "", "1", ""].map .quoted,
      by decide⟩
    read (.ofText (rendered header [blank, fee])) =
      ⟨[.skippedBlankRow 3, .importedExport 1 1],
        .ok [⟨none, none, "", "", "\"Fee\"", ⟨1, 0⟩, 1, 2, -1, "", "", ⟨1, 0⟩, ""⟩]⟩ := by
  cbv

example :
    let header : Row := ⟨[.bare "day" (by simp [fieldMarks]), .quoted "sum\n"], by decide⟩
    let blank : Row := ⟨[.bare "" (by simp), .quoted " "], by decide⟩
    let short : Row := ⟨[.quoted "a\"b", .bare "c" (by simp [fieldMarks])], by decide⟩
    read (.ofText (rendered header [blank, short, blank])) =
      ⟨[.skippedBlankRow 3], .error (.invalidRow 4 (.columnCount 13 2))⟩ :=
  rfl

end PaperTrail.Export
