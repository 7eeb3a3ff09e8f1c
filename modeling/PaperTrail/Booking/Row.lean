import PaperTrail.Booking.Basic
import PaperTrail.Date.Text
import PaperTrail.Decimal.Text

/-!
# Rows of the export

A row has thirteen columns.  Dates are written with points.  In amounts the point groups the
digits and the comma divides them.  The faults of the typed columns come up in the order of the
row.  Where the first four columns are empty the row continues the one above and its dates are
not read.
-/

namespace PaperTrail.Booking

open Numeral Text

def columnCount : Nat := 13

def inColumn {α : Type} (column : Column) : Except Fault α → Except Fault α
  | .ok a => .ok a
  | .error cause => .error (.invalidField column cause)

def readDate (column : Column) (raw : String) : Except Fault Date :=
  inColumn column (Date.ofDelimited '.' raw)

/-- Takes the points out of an amount and puts one in the place of a comma. -/
def plainAmount (cs : List Char) : List Char :=
  ((trim cs).filter fun c ↦ c ≠ '.').map fun c ↦ if c = ',' then '.' else c

def readAmount (column : Column) (raw : String) : Except Fault Decimal :=
  match Decimal.ofChars? (plainAmount raw.toList) with
  | some amount => .ok amount
  | none => inColumn column (.error (.malformedNumber raw))

/-- Reads an account or a tax code, which may be left blank. -/
def readCode (column : Column) (raw : String) : Except Fault Int :=
  let cs := trim raw.toList
  if cs = [] then .ok unset
  else match signed? 64 cs with
    | some code => .ok code
    | none => inColumn column (.error (.malformedNumber (String.ofList cs)))

def ofFields : List String → Except Fault Booking
  | [documentDate, entryDate, numberRange, number, text, amount, debitAccount, creditAccount,
      taxCode, costUnit1, costUnit2, amountEur, currency] => do
      let continues := documentDate == "" && entryDate == "" && numberRange == "" && number == ""
      let documentDay ← if continues then pure none
        else some <$> readDate .documentDate documentDate
      let entryDay ← if continues then pure none
        else some <$> readDate .entryDate entryDate
      let posted ← readAmount .amount amount
      let debit ← readCode .debitAccount debitAccount
      let credit ← readCode .creditAccount creditAccount
      let tax ← readCode .taxCode taxCode
      let postedEur ← readAmount .amountEur amountEur
      return ⟨documentDay, entryDay, numberRange, number, text, posted, debit, credit, tax,
        costUnit1, costUnit2, postedEur, currency⟩
  | fields => .error (.columnCount columnCount fields.length)

end PaperTrail.Booking
