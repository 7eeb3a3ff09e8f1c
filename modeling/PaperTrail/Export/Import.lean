import PaperTrail.Booking.Row
import PaperTrail.Export.Source
import PaperTrail.Logged

/-!
# Importing an export

The first record is the heading and is dropped unseen.  The others are read in order.  Rows of
blanks and rows that book nothing are skipped; the first fault ends the import.  Faults of a row
name the line where its record was found.
-/

namespace PaperTrail.Export

open Text

/-- Where damage in a record is reported, given how many data records came before it.  The first
one is reported at the start of the export, as record 0. -/
def damagePlace (before : Nat) (record : Record) : Nat × Position :=
  if before = 0 then (0, .origin) else (before + 1, record.start)

/-- Reads the fields as text, given how many fields came before them. -/
def textFields (place : Nat × Position) (before : Nat) :
    List (List UInt8) → Except Fault (List String)
  | [] => .ok []
  | bytes :: rest =>
      match decode bytes with
      | .error sound => .error (.damagedExport (.notText place.1 place.2 before sound))
      | .ok text => do
          let texts ← textFields place (before + 1) rest
          return text :: texts

def inRow {α : Type} (row : Nat) : Except Fault α → Except Fault α
  | .ok a => .ok a
  | .error cause => .error (.invalidRow row cause)

/-- The booking of a row, or `none` if the row is skipped. -/
def readRow (row : Nat) (fields : List String) : Logged (Option Booking) :=
  if fields.all allBlank then do
    Logged.log (.skippedBlankRow row)
    return none
  else do
    let booking ← Logged.ofExcept (inRow row (Booking.ofFields fields))
    if booking.isEmpty then
      Logged.log (.skippedEmptyRow row)
      return none
    else return some booking

def readRecord (numbered : Record × Nat) : Logged (Option Booking) := do
  let (record, before) := numbered
  let fields ← Logged.ofExcept (textFields (damagePlace before record) 0 record.fields)
  readRow record.start.line fields

def Source.breakOff (source : Source) : Logged Unit :=
  match source.failure with
  | none => pure ()
  | some reason => Logged.fail (.damagedExport (.sourceFailed reason))

def read (source : Source) : Logged (List Booking) := do
  let source := source.effective
  let outcomes ← Logged.each readRecord source.rows.zipIdx
  source.breakOff
  let bookings := outcomes.filterMap id
  Logged.log (.importedExport bookings.length (outcomes.length - bookings.length))
  return bookings

end PaperTrail.Export
