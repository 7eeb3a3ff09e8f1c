/-!
# Typed columns

An exported row has thirteen columns.  These are the ones whose text has to be read as a date, an
amount or a number, in the order of the row.
-/

namespace PaperTrail.Booking

inductive Column
  | documentDate
  | entryDate
  | amount
  | debitAccount
  | creditAccount
  | taxCode
  | amountEur
deriving DecidableEq

namespace Column

def label : Column → String
  | documentDate => "document date"
  | entryDate => "date of entry"
  | amount => "posted amount"
  | debitAccount => "debit account"
  | creditAccount => "credit account"
  | taxCode => "tax code"
  | amountEur => "posted amount EUR"

/-- The place in the row, counted from zero. -/
def index : Column → Nat
  | documentDate => 0
  | entryDate => 1
  | amount => 5
  | debitAccount => 6
  | creditAccount => 7
  | taxCode => 8
  | amountEur => 11

end Column

end PaperTrail.Booking
