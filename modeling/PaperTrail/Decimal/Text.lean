import PaperTrail.Decimal.Basic
import PaperTrail.Numeral
import PaperTrail.Text.Split

/-!
# Written decimals

Reading takes an optional sign, digits with at most one point among them, and an optional
exponent after `e` or `E`.  Underscores group the digits once a first digit has been seen.
Writing is positional while few zeros have to be filled in and uses an exponent otherwise.
-/

namespace PaperTrail.Decimal

open Numeral Text

/-- Digits and underscores, with a digit in front.  The underscores do not count. -/
def grouped? : List Char → Option Nat
  | [] => none
  | c :: cs =>
      if c.isDigit && cs.all (fun d ↦ d.isDigit || d == '_') then
        some (Nat.ofDigitChars 10 ((c :: cs).filter Char.isDigit) 0)
      else none

def units? (cs : List Char) : Option Int :=
  let (negative, magnitude) := splitSign cs
  (grouped? magnitude).map (signed negative)

/-- How many characters that follow the point count as places. -/
def places (cs : List Char) : Nat := cs.countP (· ≠ '_')

def mantissa? (cs : List Char) : Option (Int × Nat) :=
  match splitFirst '.' cs with
  | none => (units? cs).map (·, 0)
  | some (whole, fraction) => (units? (whole ++ fraction)).map (·, places fraction)

def isExponentMark (c : Char) : Bool := c == 'e' || c == 'E'

/-- The exponent after the mark, a 128-bit number; without a mark it is zero. -/
def exponent? : List Char → Option Int
  | [] => some 0
  | _mark :: cs => signed? 128 cs

/-- Scales are 64-bit numbers. -/
def ofMantissa? (mantissa : Int × Nat) (exponent : Int) : Option Decimal :=
  let scale := mantissa.2 - exponent
  if fits 64 scale then some ⟨mantissa.1, scale⟩ else none

def ofChars? (cs : List Char) : Option Decimal := do
  let exponent ← exponent? (cs.dropWhile fun c ↦ !isExponentMark c)
  let mantissa ← mantissa? (cs.takeWhile fun c ↦ !isExponentMark c)
  ofMantissa? mantissa exponent

def ofText? (s : String) : Option Decimal := ofChars? s.toList

/-- The most zeros that are filled in between the point and the first digit. -/
def mostLeadingZeros : Nat := 5

/-- The most zeros that are appended to a whole number. -/
def mostTrailingZeros : Nat := 15

/-- One digit, the remaining ones after a point if there are any, and the exponent. -/
def scientific (ds : List Char) (exponent : Nat) : List Char :=
  let fraction := if ds.length ≤ 1 then [] else '.' :: ds.drop 1
  ds.take 1 ++ fraction ++ 'E' :: '-' :: digits exponent

def positional (ds : List Char) (places : Nat) : List Char :=
  let filled := ds.leftpad (places + 1) '0'
  filled.take (filled.length - places) ++ '.' :: filled.drop (filled.length - places)

def magnitudeText (ds : List Char) (scale : Int) : List Char :=
  if scale - ds.length > mostLeadingZeros then
    scientific ds (scale - ds.length + 1).toNat
  else if scale < -mostTrailingZeros then
    ds ++ 'e' :: '+' :: digits (-scale).toNat
  else if scale ≤ 0 then
    ds ++ List.replicate (-scale).toNat '0'
  else
    positional ds scale.toNat

def toChars (d : Decimal) : List Char :=
  if d.isZero then ['0']
  else
    let magnitude := magnitudeText (digits d.units.natAbs) d.scale
    if d.units < 0 then '-' :: magnitude else magnitude

def text (d : Decimal) : String := String.ofList d.toChars

end PaperTrail.Decimal
