import PaperTrail.Booking.Basic
import PaperTrail.Document.Search
import PaperTrail.Logged

/-!
# Reconciliation

Bookings are paired with the documents that evidence them.  A worksheet has a line for each
booking.  The first pass settles the lines whose document number is on exactly one document, and
gives up at a number that is on several.  The second pass settles lines that are still open with
the first statement that fits.  Empty bookings are never open.
-/

namespace PaperTrail

inductive Evidence
  | documentNumber
  | statement
deriving DecidableEq

structure Match where
  booking : Booking
  document : Document
  evidence : Evidence
deriving DecidableEq

structure Report where
  matched : List Match
  unmatched : List Booking
deriving DecidableEq

namespace Report

def matchedBy (r : Report) (evidence : Evidence) : List Match :=
  r.matched.filter fun m ↦ m.evidence == evidence

end Report

namespace Reconciliation

structure Line where
  booking : Booking
  found : Option (Evidence × Document)
deriving DecidableEq

namespace Line

def isOpen (line : Line) : Bool := line.found.isNone && !line.booking.isEmpty

def matchBy? (evidence : Evidence) (line : Line) : Option Match :=
  match line.found with
  | some (kind, document) =>
      if kind = evidence then some ⟨line.booking, document, kind⟩ else none
  | none => none

end Line

abbrev Worksheet := List Line

namespace Worksheet

def ofBookings (bookings : List Booking) : Worksheet := bookings.map fun b ↦ ⟨b, none⟩

def matchesBy (sheet : Worksheet) (evidence : Evidence) : List Match :=
  sheet.filterMap (Line.matchBy? evidence)

def openBookings (sheet : Worksheet) : List Booking :=
  (sheet.filter Line.isOpen).map Line.booking

end Worksheet

def settleByNumber (v : Vocabulary) (documents : List Document) (line : Line) : Logged Line :=
  let number := line.booking.fullNumber
  if line.isOpen && number != "" then
    match search documents (Document.numberQuery v number) with
    | [] => return line
    | [document] => do
        Logged.log (.matchedByNumber number document.filename)
        return { line with found := some (.documentNumber, document) }
    | several => do
        let filenames := several.map Document.filename
        Logged.log (.numberOnSeveralFiles number filenames)
        Logged.fail (.duplicateDocumentNumber number filenames)
  else return line

/-- Settles an open line by the first statement that covers its date.  A line without a date is
not on any statement. -/
def settleByStatement (v : Vocabulary) (documents : List Document) (line : Line) : Logged Line :=
  match line.isOpen, line.booking.documentDate with
  | true, some day =>
      let booking := line.booking
      match searchStatements v documents day booking.debitAccount booking.creditAccount with
      | [] => return line
      | document :: others => do
          Logged.log (.matchedByStatement day document.filename (others.length + 1))
          return { line with found := some (.statement, document) }
  | _, _ => return line

/-- The worksheet after both passes, with its lines in the order of the bookings. -/
def worksheet (v : Vocabulary) (bookings : List Booking) (documents : List Document) :
    Logged Worksheet := do
  let numbered ← Logged.each (settleByNumber v documents) (Worksheet.ofBookings bookings)
  Logged.each (settleByStatement v documents) numbered

def unmatchedEvent (b : Booking) : Event := .leftUnmatched b.fullNumber b.text b.amount

/-- The matches come in the order of the passes.  What is left open is reported on demand and
counted in any case. -/
def run (v : Vocabulary) (bookings : List Booking) (documents : List Document)
    (reportUnmatched : Bool) : Logged Report := do
  let sheet ← worksheet v bookings documents
  let byNumber := sheet.matchesBy .documentNumber
  let byStatement := sheet.matchesBy .statement
  let unmatched := sheet.openBookings
  let reported := if reportUnmatched then unmatched else []
  Logged.logAll (reported.map unmatchedEvent)
  Logged.log (.reconciled bookings.length documents.length byNumber.length byStatement.length
    unmatched.length)
  return ⟨byNumber ++ byStatement, reported⟩

end Reconciliation

end PaperTrail
