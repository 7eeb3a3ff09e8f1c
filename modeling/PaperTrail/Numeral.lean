/-!
# Written integers

Decimal digits are ASCII digits, and leading zeros are allowed when reading.  A reader refuses a
value outside its word size; a plus sign is always accepted, a minus sign only where the word has
negative values.
-/

namespace PaperTrail.Numeral

def digits (n : Nat) : List Char := Nat.toDigits 10 n

/-- The digits of `n`, filled up with zeros on the left to the given width. -/
def padded (width n : Nat) : List Char := (digits n).leftpad width '0'

/-- The value of one or more digits. -/
def nat? (cs : List Char) : Option Nat :=
  if cs ≠ [] ∧ cs.all Char.isDigit then some (Nat.ofDigitChars 10 cs 0) else none

/-- The digits have the code points from 48 to 57. -/
theorem isDigit_iff_toNat {c : Char} : c.isDigit = true ↔ 48 ≤ c.toNat ∧ c.toNat ≤ 57 := by
  simp only [Char.isDigit, Bool.and_eq_true, decide_eq_true_eq, ge_iff_le, UInt32.le_iff_toNat_le]
  rfl

theorem isDigit_of_mem_digits {n : Nat} {c : Char} (h : c ∈ digits n) : c.isDigit = true :=
  Nat.isDigit_of_mem_toDigits (by decide) (by decide) h

theorem digits_ne_nil (n : Nat) : digits n ≠ [] := Nat.toDigits_ne_nil

theorem isDigit_of_mem_padded {width n : Nat} {c : Char} (h : c ∈ padded width n) :
    c.isDigit = true := by
  simp only [padded, List.leftpad, List.mem_append] at h
  rcases h with hzero | hdigit
  · rw [List.eq_of_mem_replicate hzero]
    decide
  · exact isDigit_of_mem_digits hdigit

theorem padded_ne_nil (width n : Nat) : padded width n ≠ [] := by
  simp [padded, List.leftpad, digits_ne_nil]

@[simp] theorem ofDigitChars_padded (width n : Nat) :
    Nat.ofDigitChars 10 (padded width n) 0 = n := by
  simp [padded, List.leftpad, digits, Nat.ofDigitChars_append, Nat.ofDigitChars_replicate_zero]

@[simp] theorem nat?_padded (width n : Nat) : nat? (padded width n) = some n := by
  have hall : (padded width n).all Char.isDigit = true :=
    List.all_eq_true.mpr fun c hc ↦ isDigit_of_mem_padded hc
  simp only [nat?, ne_eq, padded_ne_nil, not_false_eq_true, hall, and_self, if_true,
    ofDigitChars_padded]

theorem length_padded {width n : Nat} (h : (digits n).length ≤ width) :
    (padded width n).length = width := by
  simp [padded, List.leftpad]
  omega

def ofInt : Int → List Char
  | .ofNat n => digits n
  | .negSucc n => '-' :: digits (n + 1)

def text (i : Int) : String := String.ofList (ofInt i)

/-- Splits a sign off; the flag is set for a minus sign. -/
def splitSign : List Char → Bool × List Char
  | '-' :: cs => (true, cs)
  | '+' :: cs => (false, cs)
  | cs => (false, cs)

def signed (negative : Bool) (n : Nat) : Int := if negative then -n else n

/-- A number without minus sign below `2 ^ bits`. -/
def unsigned? (bits : Nat) (cs : List Char) : Option Nat :=
  let magnitude := match cs with
    | '+' :: rest => rest
    | _ => cs
  (nat? magnitude).filter (· < 1 <<< bits)

def fits (bits : Nat) (i : Int) : Bool :=
  -Int.ofNat (1 <<< (bits - 1)) ≤ i && i < Int.ofNat (1 <<< (bits - 1))

/-- A number with an optional sign, if it fits. -/
def signed? (bits : Nat) (cs : List Char) : Option Int :=
  let (negative, magnitude) := splitSign cs
  ((nat? magnitude).map (signed negative)).filter (fits bits)

end PaperTrail.Numeral
