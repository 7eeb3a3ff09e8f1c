import PaperTrail.Date.Text
import PaperTrail.Decimal.Text
import PaperTrail.Fault
import PaperTrail.Text.Quoted

/-!
# Events

What the archive tells about its work while it goes on.  An event has a level, a message and
named fields; a field is a number or a text.
-/

namespace PaperTrail

inductive Event
  | skippedBlankRow (row : Nat)
  | skippedEmptyRow (row : Nat)
  | importedExport (bookings skipped : Nat)
  | matchedByNumber (number filename : String)
  | numberOnSeveralFiles (number : String) (filenames : List String)
  | matchedByStatement (day : Date) (filename : String) (candidates : Nat)
  | leftUnmatched (number text : String) (amount : Decimal)
  | reconciled (bookings documents byNumber byStatement unmatched : Nat)
  | filed (filename : String) (added total : Nat)
deriving DecidableEq

namespace Event

inductive Level
  | debug
  | info
  | warn
deriving DecidableEq

inductive Value
  | number (n : Nat)
  | text (s : String)
deriving DecidableEq

def level : Event → Level
  | skippedBlankRow _ => .debug
  | skippedEmptyRow _ => .debug
  | importedExport _ _ => .info
  | matchedByNumber _ _ => .debug
  | numberOnSeveralFiles _ _ => .warn
  | matchedByStatement _ _ _ => .debug
  | leftUnmatched _ _ _ => .warn
  | reconciled _ _ _ _ _ => .info
  | filed _ _ _ => .debug

def message : Event → String
  | skippedBlankRow _ => "skipping blank ledger row"
  | skippedEmptyRow _ => "skipping empty ledger row"
  | importedExport _ _ => "imported ledger export"
  | matchedByNumber _ _ => "matched ledger entry by document number"
  | numberOnSeveralFiles _ _ => "document number tagged on several files"
  | matchedByStatement _ _ _ => "matched ledger entry by statement"
  | leftUnmatched _ _ _ => "no document found for ledger entry"
  | reconciled _ _ _ _ _ => "reconciliation finished"
  | filed _ _ _ => "annotated file"

def quotedList (names : List String) : String :=
  "[" ++ ", ".intercalate (names.map Text.quoted) ++ "]"

def fields : Event → List (String × Value)
  | skippedBlankRow row => [("row", .number row)]
  | skippedEmptyRow row => [("row", .number row)]
  | importedExport bookings skipped =>
      [("entries", .number bookings), ("skipped", .number skipped)]
  | matchedByNumber number filename =>
      [("document_number", .text number), ("filename", .text filename)]
  | numberOnSeveralFiles number filenames =>
      [("document_number", .text number), ("files", .text (quotedList filenames))]
  | matchedByStatement day filename candidates =>
      [("date", .text day.iso), ("filename", .text filename), ("candidates", .number candidates)]
  | leftUnmatched number text amount =>
      [("document_number", .text number), ("posting_text", .text text),
        ("amount", .text amount.text)]
  | reconciled bookings documents byNumber byStatement unmatched =>
      [("entries", .number bookings), ("files", .number documents),
        ("document_matches", .number byNumber), ("statement_matches", .number byStatement),
        ("unmatched", .number unmatched)]
  | filed filename added total =>
      [("filename", .text filename), ("added", .number added), ("total", .number total)]

end Event

end PaperTrail
