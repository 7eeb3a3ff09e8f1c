import PaperTrail.Export.Record
import PaperTrail.Text.Utf8

/-!
# Sources of an export

The bytes of an export come from a source, which hands them over in portions and may break off
behind them.  Where the portions are cut makes a difference only for a byte order mark: it is
looked for in the first portion and nowhere else.  Main statement: a source that hands over all
its bytes at once and ends properly has the records of those bytes.
-/

namespace PaperTrail.Export

open Text

def byteOrderMark : List UInt8 := [0xEF, 0xBB, 0xBF]

structure Source where
  bytes : List UInt8
  /-- The most bytes that are handed over at once, if there is a limit. -/
  portion : Option Nat := none
  /-- Why the source broke off behind these bytes, if it did. -/
  failure : Option String := none

namespace Source

def ofText (text : String) : Source := { bytes := encode text }

/-- The first portion.  Each portion holds at least one byte, as long as there are any. -/
def opening (source : Source) : List UInt8 :=
  match source.portion with
  | none => source.bytes
  | some most => source.bytes.take (max 1 most)

/-- A first portion that is a byte order mark and nothing else is taken for a whole export without
records, so what would come behind it is never asked for. -/
def effective (source : Source) : Source :=
  if source.opening = byteOrderMark then { bytes := [] } else source

def scan (source : Source) : Scanner :=
  if byteOrderMark.isPrefixOf source.opening then
    (Scanner.initial ⟨1, byteOrderMark.length⟩).run (source.bytes.drop byteOrderMark.length)
  else (Scanner.initial .origin).run source.bytes

/-- The records behind the heading.  A record that the source breaks off in is lost. -/
def rows (source : Source) : List Record :=
  match source.failure with
  | none => source.scan.finish.records.drop 1
  | some _ => source.scan.records.drop 1

/-- Where all bytes come at once, a lone byte order mark makes no difference to the records. -/
theorem rows_effective_of_whole (bytes : List UInt8) :
    ({ bytes } : Source).effective.rows = ({ bytes } : Source).rows := by
  by_cases h : bytes = byteOrderMark
  · subst h
    rfl
  · simp [effective, opening, h]

end Source

end PaperTrail.Export
