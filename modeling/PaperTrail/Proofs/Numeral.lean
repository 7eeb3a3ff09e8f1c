import Mathlib.Algebra.Group.Int.Defs
import Mathlib.Algebra.Group.Nat.Defs
import PaperTrail.Numeral

/-!
# The digits of a number

Main statements: padding writes a number back with the very digits that it was read from, and a
number is written with its plain digits, behind a minus sign if it is negative.
-/

namespace PaperTrail.Numeral

theorem ofDigitChars_cons_ten (c : Char) (cs : List Char) (init : Nat) :
    Nat.ofDigitChars 10 (c :: cs) init = Nat.ofDigitChars 10 cs (10 * init + (c.toNat - 48)) :=
  Nat.ofDigitChars_cons

theorem ofDigitChars_lt_mul {cs : List Char} (h : ∀ c ∈ cs, c.isDigit = true) (init : Nat) :
    Nat.ofDigitChars 10 cs init < 10 ^ cs.length * (init + 1) := by
  induction cs generalizing init with
  | nil => simp
  | cons c cs ih =>
      have hc := isDigit_iff_toNat.mp (h c List.mem_cons_self)
      have hrest := ih (fun d hd ↦ h d (List.mem_cons_of_mem c hd))
        (10 * init + (c.toNat - 48))
      rw [ofDigitChars_cons_ten, List.length_cons, Nat.pow_succ, Nat.mul_assoc]
      exact Nat.lt_of_lt_of_le hrest (Nat.mul_le_mul_left _ (by omega))

theorem ofDigitChars_lt {cs : List Char} (h : ∀ c ∈ cs, c.isDigit = true) :
    Nat.ofDigitChars 10 cs 0 < 10 ^ cs.length := by
  have hlt := ofDigitChars_lt_mul h 0
  rwa [Nat.zero_add, Nat.mul_one] at hlt

/-- The digits and what stood in front of them are told from the number. -/
theorem ofDigitChars_injective {cs ds : List Char} {a b : Nat} (hlength : cs.length = ds.length)
    (hcs : ∀ c ∈ cs, c.isDigit = true) (hds : ∀ d ∈ ds, d.isDigit = true)
    (h : Nat.ofDigitChars 10 cs a = Nat.ofDigitChars 10 ds b) : a = b ∧ cs = ds := by
  induction cs generalizing ds a b with
  | nil =>
      obtain rfl := List.eq_nil_of_length_eq_zero hlength.symm
      exact ⟨by simpa using h, rfl⟩
  | cons c cs ih =>
      obtain ⟨d, ds, rfl⟩ := List.exists_cons_of_length_eq_add_one hlength.symm
      have hc := isDigit_iff_toNat.mp (hcs c List.mem_cons_self)
      have hd := isDigit_iff_toNat.mp (hds d List.mem_cons_self)
      rw [ofDigitChars_cons_ten, ofDigitChars_cons_ten] at h
      obtain ⟨hinit, rfl⟩ := ih (Nat.succ.inj hlength)
        (fun e he ↦ hcs e (List.mem_cons_of_mem c he))
        (fun e he ↦ hds e (List.mem_cons_of_mem d he)) h
      obtain rfl : c = d := Char.toNat_inj.mp (by omega)
      exact ⟨by omega, rfl⟩

/-- Padding the value of some digits to their number gives them back. -/
theorem padded_ofDigitChars {width : Nat} {cs : List Char} (hwidth : 0 < width)
    (hlength : cs.length = width) (h : ∀ c ∈ cs, c.isDigit = true) :
    padded width (Nat.ofDigitChars 10 cs 0) = cs := by
  have hlt : Nat.ofDigitChars 10 cs 0 < 10 ^ width := hlength ▸ ofDigitChars_lt h
  have hshort := (Nat.length_toDigits_le_iff (by decide : 1 < 10) hwidth).mpr hlt
  refine (ofDigitChars_injective ?_ ?_ h (ofDigitChars_padded width _)).2
  · rw [length_padded hshort, hlength]
  · intro c hc
    exact isDigit_of_mem_padded hc

/-! ### Numbers of a word size -/

/-- One or more digits, which a plus sign may precede, that make up a number below `2 ^ bits`. -/
def IsWord (bits : Nat) (cs : List Char) (n : Nat) : Prop :=
  ∃ ds, (cs = ds ∨ cs = '+' :: ds) ∧ ds ≠ [] ∧ (∀ c ∈ ds, c.isDigit = true) ∧
    Nat.ofDigitChars 10 ds 0 = n ∧ n < 2 ^ bits

theorem nat?_eq_some_iff {cs : List Char} {n : Nat} :
    nat? cs = some n ↔
      cs ≠ [] ∧ (∀ c ∈ cs, c.isDigit = true) ∧ Nat.ofDigitChars 10 cs 0 = n := by
  rw [nat?]
  split
  · next h => simpa [h.1] using fun _ ↦ List.all_eq_true.mp h.2
  · next h =>
      simp only [reduceCtorEq, false_iff]
      rintro ⟨hne, hdigits, -⟩
      exact h ⟨hne, List.all_eq_true.mpr hdigits⟩

theorem unsigned?_plus (bits : Nat) (cs : List Char) :
    unsigned? bits ('+' :: cs) = (nat? cs).filter (· < 1 <<< bits) := rfl

theorem unsigned?_of_isDigit (bits : Nat) {cs : List Char} (h : ∀ c ∈ cs, c.isDigit = true) :
    unsigned? bits cs = (nat? cs).filter (· < 1 <<< bits) := by
  rw [unsigned?]
  rintro rest rfl
  exact absurd (h '+' List.mem_cons_self) (by decide)

/-- The reader of unsigned numbers accepts the words of its width and nothing else. -/
theorem unsigned?_eq_some_iff {bits : Nat} {cs : List Char} {n : Nat} :
    unsigned? bits cs = some n ↔ IsWord bits cs n := by
  have hfits : ∀ ds, (nat? ds).filter (· < 1 <<< bits) = some n ↔
      ds ≠ [] ∧ (∀ c ∈ ds, c.isDigit = true) ∧ Nat.ofDigitChars 10 ds 0 = n ∧ n < 2 ^ bits := by
    intro ds
    rw [Option.filter_eq_some_iff, nat?_eq_some_iff, decide_eq_true_eq, Nat.one_shiftLeft]
    simp only [and_assoc]
  constructor
  · intro h
    simp only [unsigned?] at h
    split at h
    · next ds => exact ⟨ds, Or.inr rfl, (hfits ds).mp h⟩
    · exact ⟨cs, Or.inl rfl, (hfits cs).mp h⟩
  · rintro ⟨ds, rfl | rfl, hds⟩
    · rw [unsigned?_of_isDigit bits hds.2.1]
      exact (hfits _).mpr hds
    · rw [unsigned?_plus]
      exact (hfits ds).mpr hds

/-! ### Numbers with a sign -/

inductive Sign
  | absent
  | plus
  | minus
deriving DecidableEq

namespace Sign

def chars : Sign → List Char
  | absent => []
  | plus => ['+']
  | minus => ['-']

def negative : Sign → Bool
  | absent => false
  | plus => false
  | minus => true

def factor : Sign → Int
  | absent => 1
  | plus => 1
  | minus => -1

end Sign

/-- One or more digits behind a sign, which may be absent, that make up a number from
`-2 ^ (bits - 1)` to below `2 ^ (bits - 1)`. -/
def IsInteger (bits : Nat) (cs : List Char) (i : Int) : Prop :=
  ∃ (sign : Sign) (ds : List Char), cs = sign.chars ++ ds ∧ ds ≠ [] ∧
    (∀ c ∈ ds, c.isDigit = true) ∧ sign.factor * Nat.ofDigitChars 10 ds 0 = i ∧
      -2 ^ (bits - 1) ≤ i ∧ i < 2 ^ (bits - 1)

theorem signed_negative (sign : Sign) (n : Nat) : signed sign.negative n = sign.factor * n := by
  cases sign <;> simp [signed, Sign.negative, Sign.factor]

theorem ne_of_isDigit {c d : Char} (h : c.isDigit = true) (hd : d.isDigit = false) : c ≠ d := by
  rintro rfl
  rw [h] at hd
  cases hd

theorem splitSign_chars (sign : Sign) {cs : List Char} (h : ∀ c ∈ cs, c.isDigit = true) :
    splitSign (sign.chars ++ cs) = (sign.negative, cs) := by
  cases sign with
  | plus => rfl
  | minus => rfl
  | absent =>
      cases cs with
      | nil => rfl
      | cons c cs =>
          have hc := h c List.mem_cons_self
          have hminus := ne_of_isDigit hc (d := '-') (by decide)
          have hplus := ne_of_isDigit hc (d := '+') (by decide)
          simp [Sign.chars, Sign.negative, splitSign, hminus, hplus]

theorem exists_sign (cs : List Char) :
    ∃ sign : Sign, (splitSign cs).1 = sign.negative ∧ cs = sign.chars ++ (splitSign cs).2 := by
  unfold splitSign
  split
  · exact ⟨.minus, rfl, rfl⟩
  · exact ⟨.plus, rfl, rfl⟩
  · exact ⟨.absent, rfl, rfl⟩

theorem fits_eq_true_iff {bits : Nat} {i : Int} :
    fits bits i = true ↔ -2 ^ (bits - 1) ≤ i ∧ i < 2 ^ (bits - 1) := by
  simp [fits, Nat.one_shiftLeft]

/-- Numbers are read with either sign and with zeros in front, and are told by their value. -/
theorem signed?_eq_some_iff {bits : Nat} {cs : List Char} {i : Int} :
    signed? bits cs = some i ↔ IsInteger bits cs i := by
  have hsigned : signed? bits cs =
      ((nat? (splitSign cs).2).map (signed (splitSign cs).1)).filter (fits bits) := rfl
  rw [hsigned]
  constructor
  · intro h
    obtain ⟨hvalue, hfits⟩ := Option.filter_eq_some_iff.mp h
    obtain ⟨n, hnat, hn⟩ := Option.map_eq_some_iff.mp hvalue
    obtain ⟨hne, hdigits, rfl⟩ := nat?_eq_some_iff.mp hnat
    obtain ⟨sign, hsplit, hcs⟩ := exists_sign cs
    rw [hsplit, signed_negative] at hn
    exact ⟨sign, _, hcs, hne, hdigits, hn, fits_eq_true_iff.mp hfits⟩
  · rintro ⟨sign, ds, rfl, hne, hdigits, rfl, hfits⟩
    rw [splitSign_chars sign hdigits, nat?_eq_some_iff.mpr ⟨hne, hdigits, rfl⟩, Option.map_some,
      signed_negative]
    exact Option.filter_eq_some_iff.mpr ⟨rfl, fits_eq_true_iff.mpr hfits⟩

/-! ### Plain numbers -/

/-- The digits of the number, with no zero in front that could be left out. -/
structure IsPlainNat (ds : List Char) (n : Nat) : Prop where
  isDigit : ∀ c ∈ ds, c.isDigit = true
  ne_nil : ds ≠ []
  eq_zero_of_head? : ds.head? = some '0' → ds = ['0']
  value : Nat.ofDigitChars 10 ds 0 = n

/-- The digits of the number, behind a minus sign if it is negative. -/
def IsPlain (cs : List Char) (i : Int) : Prop :=
  ∃ ds, IsPlainNat ds i.natAbs ∧ cs = if i < 0 then '-' :: ds else ds

theorem head?_padded {width n : Nat} (h : (digits n).length < width) :
    (padded width n).head? = some '0' := by
  obtain ⟨k, hk⟩ : ∃ k, width - (digits n).length = k + 1 :=
    ⟨width - (digits n).length - 1, by omega⟩
  simp [padded, List.leftpad, hk, List.replicate_succ]

theorem padded_length_digits (n : Nat) : padded (digits n).length n = digits n := by
  simp [padded, List.leftpad]

theorem isPlainNat_digits (n : Nat) : IsPlainNat (digits n) n where
  isDigit c := isDigit_of_mem_digits
  ne_nil := digits_ne_nil n
  eq_zero_of_head? h := by
    obtain ⟨c, cs, hcs⟩ := List.exists_cons_of_ne_nil (digits_ne_nil n)
    obtain rfl : c = '0' := by simpa [hcs] using h
    have hdigit : ∀ c ∈ cs, c.isDigit = true := fun c hc ↦
      isDigit_of_mem_digits (n := n) (hcs ▸ List.mem_cons_of_mem _ hc)
    have hvalue : Nat.ofDigitChars 10 cs 0 = n := by
      have hn := ofDigitChars_padded (digits n).length n
      rwa [padded_length_digits, hcs, ofDigitChars_cons_ten] at hn
    cases hrest : cs with
    | nil => rw [hcs, hrest]
    | cons d ds =>
        -- the digits behind the zero would do
        have hlt := ofDigitChars_lt hdigit
        rw [hvalue] at hlt
        have hpos : 0 < cs.length := by simp [hrest]
        have hlength := (Nat.length_toDigits_le_iff (by decide : 1 < 10) hpos).mpr hlt
        have hdigits : (Nat.toDigits 10 n).length = cs.length + 1 := congrArg List.length hcs
        omega
  value := by
    have hn := ofDigitChars_padded (digits n).length n
    rwa [padded_length_digits] at hn

/-- A number has one plain text, the one that is written for it. -/
theorem eq_digits_iff {ds : List Char} {n : Nat} : ds = digits n ↔ IsPlainNat ds n := by
  constructor
  · rintro rfl
    exact isPlainNat_digits n
  · intro h
    have hpos : 0 < ds.length := List.length_pos_iff.mpr h.ne_nil
    have hlt := ofDigitChars_lt h.isDigit
    rw [h.value] at hlt
    have hlength : (digits n).length ≤ ds.length :=
      (Nat.length_toDigits_le_iff (by decide) hpos).mpr hlt
    have hpadded : padded ds.length n = ds := by
      rw [← h.value]
      exact padded_ofDigitChars hpos rfl h.isDigit
    rcases Nat.lt_or_eq_of_le hlength with hshort | heq
    · -- only a lone zero may stand in front, and then no digit is left for the number
      have hzero := h.eq_zero_of_head? (hpadded ▸ head?_padded hshort)
      rw [hzero] at hshort
      have hdigits := List.length_pos_iff.mpr (digits_ne_nil n)
      simp only [List.length_cons, List.length_nil] at hshort
      omega
    · rw [← hpadded, ← heq, padded_length_digits]

theorem eq_ofInt_iff {cs : List Char} {i : Int} : cs = ofInt i ↔ IsPlain cs i := by
  cases i with
  | ofNat n =>
      have hsign : ¬ (n : Int) < 0 := by omega
      simp [IsPlain, hsign, ofInt, ← eq_digits_iff]
  | negSucc n =>
      simp [IsPlain, ofInt, ← eq_digits_iff]

theorem eq_text_iff {s : String} {i : Int} : s = text i ↔ IsPlain s.toList i := by
  rw [← eq_ofInt_iff, text, ← String.toList_inj, String.toList_ofList]

instance (cs : List Char) (i : Int) : Decidable (IsPlain cs i) :=
  decidable_of_iff (cs = ofInt i) eq_ofInt_iff

end PaperTrail.Numeral
