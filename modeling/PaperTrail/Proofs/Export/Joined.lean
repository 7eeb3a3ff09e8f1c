import PaperTrail.Proofs.Export.Import
import PaperTrail.Proofs.Export.Rows
import PaperTrail.Proofs.Export.Steps

/-!
# Joined exports

Two exports under the same heading can be joined behind the lines of the first one.  Main
statement: the bookings of the joined export are those of the first and then those of the second,
and the first fault of either stays the fault, but for the row that it names in the second.
-/

namespace PaperTrail.Export

open Text

/-- The same answer, but for the place that a fault names. -/
inductive SameButForPlace {α : Type} : Except Fault α → Except Fault α → Prop
  | ok (a : α) : SameButForPlace (.ok a) (.ok a)
  | invalidRow (row row' : Nat) (cause : Fault) :
      SameButForPlace (.error (.invalidRow row cause)) (.error (.invalidRow row' cause))
  | damagedExport (damage damage' : Damage) :
      SameButForPlace (.error (.damagedExport damage)) (.error (.damagedExport damage'))

namespace SameButForPlace

variable {α β : Type}

theorem bind {first first' : Except Fault α} {next next' : α → Except Fault β}
    (h : SameButForPlace first first') (hnext : ∀ a, SameButForPlace (next a) (next' a)) :
    SameButForPlace (first >>= next) (first' >>= next') := by
  cases h with
  | ok a => exact hnext a
  | invalidRow row row' cause => exact .invalidRow row row' cause
  | damagedExport damage damage' => exact .damagedExport damage damage'

end SameButForPlace

theorem textFields_sameButForPlace (place place' : Nat × Position) (before : Nat)
    (fields : List (List UInt8)) :
    SameButForPlace (textFields place before fields) (textFields place' before fields) := by
  induction fields generalizing before with
  | nil => exact .ok []
  | cons bytes rest ih =>
      rw [textFields, textFields]
      cases decode bytes with
      | error sound => exact .damagedExport _ _
      | ok text => exact (ih (before + 1)).bind fun texts ↦ .ok (text :: texts)

theorem readRow_sameButForPlace (row row' : Nat) (fields : List String) :
    SameButForPlace (readRow row fields).answer (readRow row' fields).answer := by
  rw [readRow, readRow]
  split
  · exact .ok none
  · rw [Logged.answer_bind, Logged.answer_bind]
    apply SameButForPlace.bind
    · cases Booking.ofFields fields with
      | ok b => exact .ok b
      | error cause => exact .invalidRow row row' cause
    · intro b
      split
      · exact .ok none
      · exact .ok (some b)

theorem readRecord_sameButForPlace {record record' : Record} (h : record.fields = record'.fields)
    (before before' : Nat) :
    SameButForPlace (readRecord (record, before)).answer
      (readRecord (record', before')).answer := by
  rw [readRecord, readRecord, Logged.answer_bind, Logged.answer_bind, h]
  exact (textFields_sameButForPlace _ _ 0 record'.fields).bind fun fields ↦
    readRow_sameButForPlace _ _ fields

/-- Records with the same fields are read alike, wherever they stand. -/
theorem each_readRecord_sameButForPlace {records records' : List Record}
    (h : records.map Record.fields = records'.map Record.fields) (before before' : Nat) :
    SameButForPlace (Logged.each readRecord (records.zipIdx before)).answer
      (Logged.each readRecord (records'.zipIdx before')).answer := by
  induction records generalizing records' before before' with
  | nil =>
      obtain rfl := List.map_eq_nil_iff.mp h.symm
      exact .ok []
  | cons record records ih =>
      obtain ⟨record', rest, rfl, hrecord, hrest⟩ := List.map_eq_cons_iff.mp h.symm
      rw [List.zipIdx_cons, List.zipIdx_cons, Logged.answer_each_cons, Logged.answer_each_cons]
      exact (readRecord_sameButForPlace hrecord.symm before before').bind fun outcome ↦
        (ih hrest.symm (before + 1) (before' + 1)).bind fun outcomes ↦ .ok (outcome :: outcomes)

/-! ### Bytes and characters -/

theorem byte_mem_encode_iff {a : Char} (ha : a.toNat < 128) {s : String} :
    UInt8.ofNat a.toNat ∈ encode s ↔ a ∈ s.toList := by
  rw [encode_eq_utf8, ← List.count_pos_iff, count_utf8 ha, List.count_pos_iff]

theorem eq_of_encode_eq {s t : String} (h : encode s = encode t) : s = t := by
  have hdecode := decode_encode s
  rw [h, decode_encode] at hdecode
  cases hdecode
  rfl

/-- A heading is one line that is not empty.  A byte order mark alone would be passed over, and the
line would be empty. -/
structure IsHeading (header : String) : Prop where
  ne_empty : header ≠ ""
  ne_mark : header ≠ "\uFEFF"
  no_quote : '"' ∉ header.toList
  no_return : '\r' ∉ header.toList
  no_feed : '\n' ∉ header.toList

namespace IsHeading

variable {header : String} (h : IsHeading header)
include h

theorem quoteMark_notMem : quoteMark ∉ encode header :=
  mt (byte_mem_encode_iff (a := '"') (by decide)).mp h.no_quote

theorem not_isLineEnd : ∀ b ∈ encode header, isLineEnd b = false := by
  intro b hb
  have hfeed : lineFeed ∉ encode header :=
    mt (byte_mem_encode_iff (a := '\n') (by decide)).mp h.no_feed
  have hreturn : carriageReturn ∉ encode header :=
    mt (byte_mem_encode_iff (a := '\r') (by decide)).mp h.no_return
  simp only [isLineEnd, Bool.or_eq_false_iff, beq_eq_false_iff_ne]
  exact ⟨fun heq ↦ hfeed (heq ▸ hb), fun heq ↦ hreturn (heq ▸ hb)⟩

theorem encode_ne_mark : encode header ≠ byteOrderMark := fun heq ↦
  h.ne_mark (eq_of_encode_eq heq)

/-- Behind the heading the scanner stands between two records, whatever comes then. -/
theorem exists_scan : ∃ q heading, ∀ text,
    (Source.ofText (header ++ "\n" ++ text)).scan =
      (Scanner.idle q [heading]).run (encode text) := by
  have hbytes : ∀ text, Source.ofText (header ++ "\n" ++ text) =
      { bytes := encode header ++ [lineFeed] ++ encode text } := by
    intro text
    rw [Source.ofText, encode_append, encode_append]
    rfl
  by_cases hmark : byteOrderMark <+: encode header
  · obtain ⟨bytes, hheader⟩ := hmark
    have hne : bytes ≠ [] := by
      rintro rfl
      exact h.encode_ne_mark (by rw [← hheader, List.append_nil])
    have hmem : ∀ b ∈ bytes, b ∈ encode header := fun b hb ↦
      hheader ▸ List.mem_append_right byteOrderMark hb
    obtain ⟨q, heading, hrun⟩ := Scanner.run_line hne (fun hq ↦ h.quoteMark_notMem (hmem _ hq))
      (fun b hb ↦ h.not_isLineEnd b (hmem b hb)) ⟨1, byteOrderMark.length⟩
    refine ⟨q, heading, fun text ↦ ?_⟩
    have hprefix : byteOrderMark <+: encode header ++ [lineFeed] ++ encode text :=
      ⟨bytes ++ [lineFeed] ++ encode text, by rw [← hheader]; simp⟩
    rw [hbytes, scan_of_marked hprefix, ← hheader, List.append_assoc, List.append_assoc,
      List.drop_left, ← List.append_assoc, Scanner.run_append, hrun]
  · obtain ⟨q, heading, hrun⟩ := Scanner.run_line
      (fun hnil ↦ h.ne_empty (eq_of_encode_eq hnil)) h.quoteMark_notMem h.not_isLineEnd .origin
    refine ⟨q, heading, fun text ↦ ?_⟩
    have hunmarked : ¬ byteOrderMark <+: encode header ++ [lineFeed] ++ encode text :=
      fun hmarked ↦ hmark (marked_of_marked_append (by decide) hmarked)
    rw [hbytes, scan_of_unmarked hunmarked, Scanner.run_append, hrun]

end IsHeading

/-! ### The joined export -/

/-- The text is empty or ends with a line end. -/
def IsLines (text : String) : Prop := text = "" ∨ ∃ front, text = front ++ "\n"

/-- The rows of the first export are found again, and behind them those of the second. -/
theorem rows_joined {header first : String} (hheader : IsHeading header)
    (hlines : IsLines first) (hquote : '"' ∉ first.toList) (second : String) :
    ∃ later, (Source.ofText (header ++ "\n" ++ first ++ second)).effective.rows =
        (Source.ofText (header ++ "\n" ++ first)).effective.rows ++ later ∧
      later.map Record.fields =
        (Source.ofText (header ++ "\n" ++ second)).effective.rows.map Record.fields := by
  obtain ⟨q, heading, hscan⟩ := hheader.exists_scan
  have hmode : ((Scanner.idle q [heading]).run (encode first)).mode = .lineStart := by
    refine Scanner.mode_run_of_lines rfl
      (mt (byte_mem_encode_iff (a := '"') (by decide)).mp hquote) ?_
    rcases hlines with rfl | ⟨front, rfl⟩
    · exact .inl rfl
    · exact .inr ⟨encode front, encode_append front "\n"⟩
  have htidy := (Scanner.tidy_idle q [heading]).run (encode first) hmode
  have hgrown := ((Scanner.Alongside.refl (Scanner.idle q [heading])).run (encode first)).done
  obtain ⟨grown, -, hgrown, -⟩ := hgrown
  generalize hs : (Scanner.idle q [heading]).run (encode first) = s at hmode htidy hgrown
  have halong : Scanner.Alongside s.done [heading] s (Scanner.idle q [heading]) :=
    ⟨hmode, htidy.1, htidy.2, [], [], rfl, rfl, rfl⟩
  obtain ⟨found, found', hdone, hdone', hfound⟩ := (halong.run (encode second)).finish.done
  have hfirst : s.finish = s := by rw [Scanner.finish, hmode]
  refine ⟨found.reverse, ?_, ?_⟩
  · have hassoc : header ++ "\n" ++ first ++ second = header ++ "\n" ++ (first ++ second) :=
      String.append_assoc
    rw [rows_ofText, rows_ofText, hassoc, hscan, hscan, encode_append, Scanner.run_append, hs,
      hfirst, Scanner.records, Scanner.records, hdone, hgrown]
    simp [Scanner.idle]
  · rw [rows_ofText, hscan, Scanner.records, hdone', List.reverse_append, List.reverse_singleton,
      List.singleton_append, List.drop_one, List.tail_cons, List.map_reverse, List.map_reverse,
      hfound]

def imported (text : String) : Except Fault (List Booking) := (read (.ofText text)).answer

theorem imported_eq (text : String) :
    imported text =
      (Logged.each readRecord (Source.ofText text).effective.rows.zipIdx).answer.map
        (List.filterMap id) := by
  rw [imported, read, Logged.answer_bind, Source.breakOff, failure_effective_ofText]
  cases (Logged.each readRecord (Source.ofText text).effective.rows.zipIdx).answer with
  | ok outcomes => rfl
  | error fault => rfl

/-- What can be said of the joined export: its bookings, or the fault that is met first. -/
theorem imported_joined {header first second : String} (hheader : IsHeading header)
    (hlines : IsLines first) (hquote : '"' ∉ first.toList) :
    (∀ xs ys, imported (header ++ "\n" ++ first) = .ok xs →
      imported (header ++ "\n" ++ second) = .ok ys →
        imported (header ++ "\n" ++ first ++ second) = .ok (xs ++ ys)) ∧
    (∀ fault, imported (header ++ "\n" ++ first) = .error fault →
      imported (header ++ "\n" ++ first ++ second) = .error fault) ∧
    (∀ xs row cause, imported (header ++ "\n" ++ first) = .ok xs →
      imported (header ++ "\n" ++ second) = .error (.invalidRow row cause) →
        ∃ row',
          imported (header ++ "\n" ++ first ++ second) = .error (.invalidRow row' cause)) := by
  obtain ⟨later, hrows, hlater⟩ := rows_joined hheader hlines hquote second
  have hsame := each_readRecord_sameButForPlace hlater
    (0 + (Source.ofText (header ++ "\n" ++ first)).effective.rows.length) 0
  simp only [imported_eq, hrows, List.zipIdx_append, Logged.answer_each_append]
  generalize (Logged.each readRecord
    (Source.ofText (header ++ "\n" ++ first)).effective.rows.zipIdx).answer = before
  revert hsame
  generalize (Logged.each readRecord (later.zipIdx _)).answer = behind
  generalize (Logged.each readRecord
    (Source.ofText (header ++ "\n" ++ second)).effective.rows.zipIdx).answer = alone
  intro hsame
  refine ⟨fun xs ys hbefore halone ↦ ?_, fun fault hbefore ↦ ?_,
    fun xs row cause hbefore halone ↦ ?_⟩
  · obtain ⟨outcomes, rfl, rfl⟩ := Fault.map_eq_ok_iff.mp hbefore
    obtain ⟨outcomes', rfl, rfl⟩ := Fault.map_eq_ok_iff.mp halone
    cases hsame
    exact congrArg Except.ok List.filterMap_append
  · cases before with
    | ok outcomes => cases hbefore
    | error fault' =>
        cases hbefore
        rfl
  · obtain ⟨outcomes, rfl, rfl⟩ := Fault.map_eq_ok_iff.mp hbefore
    cases hsame with
    | ok outcomes' => cases halone
    | damagedExport damage damage' => cases halone
    | invalidRow row' row'' cause' =>
        cases halone
        exact ⟨row', rfl⟩

/-- Two lines join behind a heading with a byte order mark, and a failing first line fails alone.
-/
theorem imported_joined_sample :
    imported ("\uFEFFday" ++ "\n" ++ ";;;;Fee;1;1;2;;;;1;\n\n" ++ "\r\n;;;;\"a\nb\";2;1;2;;;;2;") =
      .ok [⟨none, none, "", "", "Fee", ⟨1, 0⟩, 1, 2, -1, "", "", ⟨1, 0⟩, ""⟩,
        ⟨none, none, "", "", "a\nb", ⟨2, 0⟩, 1, 2, -1, "", "", ⟨2, 0⟩, ""⟩] ∧
    imported ("\uFEFFday" ++ "\n" ++ "x;y\n" ++ "\"") =
      .error (.invalidRow 2 (.columnCount 13 2)) ∧
    ∃ row, imported ("\uFEFFday" ++ "\n" ++ ";;;;Fee;1;1;2;;;;1;\n\n" ++ "x;\"y") =
      .error (.invalidRow row (.columnCount 13 2)) := by
  have hheading : IsHeading "\uFEFFday" :=
    ⟨by decide, by decide, by decide, by decide, by decide⟩
  have hfee : IsLines ";;;;Fee;1;1;2;;;;1;\n\n" := .inr ⟨";;;;Fee;1;1;2;;;;1;\n", rfl⟩
  have hfee_read : imported ("\uFEFFday" ++ "\n" ++ ";;;;Fee;1;1;2;;;;1;\n\n") =
      .ok [⟨none, none, "", "", "Fee", ⟨1, 0⟩, 1, 2, -1, "", "", ⟨1, 0⟩, ""⟩] := rfl
  refine ⟨?_, ?_, ?_⟩
  · exact (imported_joined hheading hfee (by decide)).1 _ _ hfee_read rfl
  · exact (imported_joined hheading (.inr ⟨"x;y", rfl⟩) (by decide)).2.1 _ rfl
  · exact (imported_joined hheading hfee (by decide)).2.2 _ 2 _ hfee_read rfl

end PaperTrail.Export
