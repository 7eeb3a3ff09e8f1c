import PaperTrail.Export.Import
import PaperTrail.Proofs.Export.Scan

/-!
# Rendered exports

An export is rendered row by row, a line for each.  Main statement: the records that are found in
it behind the heading are those of its rows, each at the line where its row starts.
-/

namespace PaperTrail.Export

open Text

/-- The characters that a field has to be quoted for. -/
def fieldMarks : List Char := [';', '"', '\r', '\n']

def doubledQuote (c : Char) : List Char := if c = '"' then ['"', '"'] else [c]

/-- A field together with the way it is written.  Quotes may be put around any field. -/
inductive Cell
  | bare (text : String) (plain : ∀ c ∈ text.toList, c ∉ fieldMarks)
  | quoted (text : String)

namespace Cell

def text : Cell → String
  | bare text _ => text
  | quoted text => text

def written : Cell → List Char
  | bare text _ => text.toList
  | quoted text => '"' :: (text.toList.flatMap doubledQuote ++ ['"'])

end Cell

/-- A row of one empty field would be an empty line, which is no row. -/
structure Row where
  cells : List Cell
  wide : 2 ≤ cells.length

namespace Row

def texts (row : Row) : List String := row.cells.map Cell.text

def written (row : Row) : List Char := [';'].intercalate (row.cells.map Cell.written) ++ ['\n']

/-- How many lines the row takes.  Line ends in quoted fields count. -/
def height (row : Row) : Nat := row.written.count '\n'

def isBlank (row : Row) : Bool := row.texts.all allBlank

end Row

def rendered (header : Row) (rows : List Row) : String :=
  String.ofList ((header :: rows).flatMap Row.written)

/-! ### Bytes of a row -/

def utf8 (cs : List Char) : List UInt8 := cs.flatMap String.utf8EncodeChar

theorem encode_eq_utf8 (s : String) : encode s = utf8 s.toList := encode_eq_flatMap s

theorem utf8_cons (c : Char) (cs : List Char) :
    utf8 (c :: cs) = String.utf8EncodeChar c ++ utf8 cs :=
  List.flatMap_cons

theorem utf8_append (cs ds : List Char) : utf8 (cs ++ ds) = utf8 cs ++ utf8 ds :=
  List.flatMap_append

theorem utf8_intercalate (sep : List Char) (parts : List (List Char)) :
    utf8 (sep.intercalate parts) = (utf8 sep).intercalate (parts.map utf8) := by
  induction parts with
  | nil => rfl
  | cons part parts ih =>
      cases parts with
      | nil => simp
      | cons next parts =>
          rw [List.intercalate_cons_cons, utf8_append, utf8_append, ih, List.map_cons]
          exact List.intercalate_cons_cons.symm

theorem count_utf8 {a : Char} (ha : a.toNat < 128) (cs : List Char) :
    (utf8 cs).count (UInt8.ofNat a.toNat) = cs.count a := by
  induction cs with
  | nil => rfl
  | cons c cs ih =>
      rw [utf8_cons, List.count_append, ih]
      by_cases hc : c = a
      · rw [hc, utf8EncodeChar_of_lt ha, List.count_singleton_self, List.count_cons_self,
          Nat.add_comm]
      · rw [List.count_eq_zero_of_not_mem (notMem_utf8EncodeChar ha hc), Nat.zero_add,
          List.count_cons_of_ne hc]

theorem flatMap_doubled_of_notMem {bs : List UInt8} (h : quoteMark ∉ bs) :
    bs.flatMap doubled = bs := by
  induction bs with
  | nil => rfl
  | cons b bs ih =>
      have hb : b ≠ quoteMark := fun hb ↦ h (hb ▸ List.mem_cons_self)
      rw [List.flatMap_cons, doubled, if_neg hb, ih fun hmem ↦ h (List.mem_cons_of_mem b hmem)]
      rfl

theorem utf8_flatMap_doubledQuote (cs : List Char) :
    utf8 (cs.flatMap doubledQuote) = (utf8 cs).flatMap doubled := by
  induction cs with
  | nil => rfl
  | cons c cs ih =>
      rw [List.flatMap_cons, utf8_append, ih, utf8_cons, List.flatMap_append]
      congr 1
      by_cases hc : c = '"'
      · subst hc
        decide
      · have hquote := notMem_utf8EncodeChar (a := '"') (by decide) hc
        rw [doubledQuote, if_neg hc, flatMap_doubled_of_notMem hquote]
        simp [utf8]

theorem not_isMark_of_mem_utf8 {cs : List Char} (h : ∀ c ∈ cs, c ∉ fieldMarks) {b : UInt8}
    (hb : b ∈ utf8 cs) : isMark b = false := by
  obtain ⟨c, hc, hb⟩ := List.mem_flatMap.mp hb
  have hascii : ∀ a ∈ fieldMarks, a.toNat < 128 := by
    intro a ha
    simp only [fieldMarks, List.mem_cons, List.not_mem_nil, or_false] at ha
    rcases ha with rfl | rfl | rfl | rfl <;> decide
  have hmark : ∀ a ∈ fieldMarks, b ≠ UInt8.ofNat a.toNat := by
    rintro a ha rfl
    have hne : c ≠ a := fun hca ↦ h c hc (hca ▸ ha)
    exact notMem_utf8EncodeChar (hascii a ha) hne hb
  have hdelimiter : b ≠ delimiter := hmark ';' (by decide)
  have hquote : b ≠ quoteMark := hmark '"' (by decide)
  have hreturn : b ≠ carriageReturn := hmark '\r' (by decide)
  have hfeed : b ≠ lineFeed := hmark '\n' (by decide)
  simp [isMark, isLineEnd, hdelimiter, hquote, hreturn, hfeed]

theorem Cell.writtenAs (cell : Cell) : WrittenAs (utf8 cell.written) (encode cell.text) := by
  rw [encode_eq_utf8]
  cases cell with
  | bare text plain => exact .bare fun b hb ↦ not_isMark_of_mem_utf8 plain hb
  | quoted text =>
      have hquoted : utf8 (Cell.quoted text).written =
          quoteMark :: ((utf8 text.toList).flatMap doubled ++ [quoteMark]) := by
        rw [written, utf8_cons, utf8_append, utf8_flatMap_doubledQuote]
        rfl
      rw [hquoted]
      exact .quoted _

namespace Row

def bytes (row : Row) : List UInt8 := utf8 row.written

theorem bytes_eq (row : Row) :
    row.bytes = writtenRecord (row.cells.map fun cell ↦ utf8 cell.written) := by
  rw [bytes, written, utf8_append, utf8_intercalate, List.map_map]
  rfl

theorem writtenAs (row : Row) :
    List.Forall₂ WrittenAs (row.cells.map fun cell ↦ utf8 cell.written)
      (row.texts.map encode) := by
  rw [texts, List.map_map, List.forall₂_map_left_iff, List.forall₂_map_right_iff,
    List.forall₂_same]
  exact fun cell _ ↦ cell.writtenAs

theorem height_eq (row : Row) : row.height = row.bytes.count lineFeed :=
  (count_utf8 (a := '\n') (by decide) row.written).symm

theorem line_past (row : Row) (p : Position) :
    (p.past row.bytes).line = p.line + row.height := by
  rw [Position.line_past, height_eq]

def record (row : Row) (p : Position) : Record := ⟨p, row.texts.map encode⟩

/-- A written row, scanned from the start of a line, is one record more. -/
theorem run_bytes (row : Row) (p : Position) (done : List Record) :
    (Scanner.idle p done).run row.bytes = .idle (p.past row.bytes) (row.record p :: done) := by
  rw [bytes_eq]
  exact Scanner.run_writtenRecord row.writtenAs (by simpa using row.wide) p done

end Row

/-- The records of the rows, where the first one starts at `p`. -/
def recordsAt (p : Position) : List Row → List Record
  | [] => []
  | row :: rows => row.record p :: recordsAt (p.past row.bytes) rows

theorem run_rows (rows : List Row) (p : Position) (done : List Record) :
    (Scanner.idle p done).run (rows.flatMap Row.bytes) =
      .idle (p.past (rows.flatMap Row.bytes)) ((recordsAt p rows).reverse ++ done) := by
  induction rows generalizing p done with
  | nil => rfl
  | cons row rows ih =>
      rw [List.flatMap_cons, Scanner.run_append, row.run_bytes, ih, ← Position.past_append]
      simp [recordsAt]

theorem encode_rendered (header : Row) (rows : List Row) :
    encode (rendered header rows) = header.bytes ++ rows.flatMap Row.bytes := by
  rw [rendered, encode_ofList, List.flatMap_cons, List.flatMap_append, List.flatMap_assoc]
  rfl

/-! ### The byte order mark -/

/-- The mark cannot go on behind a byte that is not in it. -/
theorem marked_of_marked_append {b : UInt8} (hb : b ∉ byteOrderMark) {raw rest : List UInt8}
    (hmarked : byteOrderMark <+: raw ++ [b] ++ rest) : byteOrderMark <+: raw := by
  rcases List.prefix_or_prefix_of_prefix hmarked (List.prefix_append _ rest) with hle | hge
  · rcases List.prefix_concat_iff.mp hle with heq | hraw
    · exact absurd (heq ▸ by simp) hb
    · exact hraw
  · exact absurd (hge.subset (by simp)) hb

theorem eq_append_of_marked {raw field rest : List UInt8} (h : WrittenAs raw field)
    (hmarked : byteOrderMark <+: raw ++ [delimiter] ++ rest) :
    ∃ behind, raw = byteOrderMark ++ behind ∧ WrittenAs behind behind := by
  cases h with
  | bare h =>
      obtain ⟨behind, rfl⟩ := marked_of_marked_append (by decide) hmarked
      exact ⟨behind, rfl, .bare fun b hb ↦ h b (List.mem_append_right _ hb)⟩
  | quoted =>
      obtain ⟨heq, -⟩ := List.cons_prefix_cons.mp hmarked
      exact absurd heq (by decide)

/-- Only the first field of the heading gets shorter without the mark, and it needs no quotes. -/
theorem writtenRecord_of_marked {raws fields : List (List UInt8)} {rest : List UInt8}
    (h : List.Forall₂ WrittenAs raws fields) (hwide : 2 ≤ raws.length)
    (hmarked : byteOrderMark <+: writtenRecord raws ++ rest) :
    ∃ raws' fields', writtenRecord raws = byteOrderMark ++ writtenRecord raws' ∧
      List.Forall₂ WrittenAs raws' fields' ∧ 2 ≤ raws'.length := by
  cases h with
  | nil => cases hwide
  | cons hfirst hrest =>
      cases hrest with
      | nil => simp at hwide
      | cons hnext hrest =>
          rw [writtenRecord_cons_cons, List.append_assoc] at hmarked
          obtain ⟨behind, rfl, hbehind⟩ := eq_append_of_marked hfirst hmarked
          refine ⟨_, _, ?_, .cons hbehind (.cons hnext hrest), by simp⟩
          rw [writtenRecord_cons_cons, writtenRecord_cons_cons]
          simp

theorem records_behind {p q : Position} {bytes : List UInt8} {heading : Record}
    (h : (Scanner.initial p).run bytes = .idle q [heading]) (rows : List Row) :
    ((Scanner.initial p).run (bytes ++ rows.flatMap Row.bytes)).finish.records.drop 1 =
      recordsAt q rows := by
  rw [Scanner.run_append, h, run_rows]
  simp [Scanner.finish, Scanner.idle, Scanner.records]

theorem scan_of_marked {bytes : List UInt8} (h : byteOrderMark <+: bytes) :
    ({ bytes } : Source).scan =
      (Scanner.initial ⟨1, byteOrderMark.length⟩).run (bytes.drop byteOrderMark.length) :=
  if_pos (List.isPrefixOf_iff_prefix.mpr h)

theorem scan_of_unmarked {bytes : List UInt8} (h : ¬ byteOrderMark <+: bytes) :
    ({ bytes } : Source).scan = (Scanner.initial .origin).run bytes :=
  if_neg fun hmark ↦ h (List.isPrefixOf_iff_prefix.mp hmark)

/-- The records of a rendered export are its rows behind the heading. -/
theorem rows_rendered (header : Row) (rows : List Row) :
    ∃ p : Position, p.line = 1 + header.height ∧
      (Source.ofText (rendered header rows)).effective.rows = recordsAt p rows := by
  rw [Source.ofText, Source.rows_effective_of_whole, encode_rendered, Source.rows]
  by_cases h : byteOrderMark <+: header.bytes ++ rows.flatMap Row.bytes
  · have hmarked := h
    rw [Row.bytes_eq] at hmarked
    obtain ⟨raws, fields, hbytes, hwritten, hwide⟩ :=
      writtenRecord_of_marked header.writtenAs (by simpa using header.wide) hmarked
    rw [← Row.bytes_eq] at hbytes
    refine ⟨Position.past ⟨1, byteOrderMark.length⟩ (writtenRecord raws), ?_, ?_⟩
    · rw [Position.line_past, header.height_eq, hbytes, List.count_append]
      have hmark : byteOrderMark.count lineFeed = 0 := by decide
      rw [hmark, Nat.zero_add]
    · simp only [scan_of_marked h]
      rw [hbytes, List.append_assoc, List.drop_left]
      exact records_behind (Scanner.run_writtenRecord hwritten hwide _ []) rows
  · simp only [scan_of_unmarked h]
    exact ⟨_, header.line_past .origin, records_behind (header.run_bytes .origin []) rows⟩

end PaperTrail.Export
