import PaperTrail.Date.Basic
import PaperTrail.Decimal.Basic

/-!
# Bookings

A booking is one line of the accounting export.  A line may continue the one above it; it then has
neither dates nor a document number.
-/

namespace PaperTrail

structure Booking where
  documentDate : Option Date
  entryDate : Option Date
  /-- The letters in front of the document number. -/
  numberRange : String
  number : String
  text : String
  amount : Decimal
  debitAccount : Int
  creditAccount : Int
  taxCode : Int
  costUnit1 : String
  costUnit2 : String
  amountEur : Decimal
  currency : String
deriving DecidableEq

namespace Booking

/-- Stands for an account or a tax code that was left blank.  Account 0 is a number like others. -/
def unset : Int := -1

/-- The document number as it is printed on the document. -/
def fullNumber (b : Booking) : String := b.numberRange ++ b.number

def isContinuation (b : Booking) : Bool :=
  b.documentDate.isNone && b.entryDate.isNone && b.numberRange == "" && b.number == ""

/-- Nothing is booked.  An account or a tax code that was left blank is no zero. -/
def isEmpty (b : Booking) : Bool :=
  b.isContinuation && b.text == "" &&
    b.amount.isZero && b.debitAccount == 0 && b.creditAccount == 0 && b.taxCode == 0 &&
      b.costUnit1 == "" && b.costUnit2 == "" && b.amountEur.isZero && b.currency == ""

theorem documentDate_of_isContinuation {b : Booking} (h : b.isContinuation = true) :
    b.documentDate = none := by
  simp only [isContinuation, Bool.and_eq_true, Option.isNone_iff_eq_none] at h
  exact h.1.1.1

end Booking

end PaperTrail
