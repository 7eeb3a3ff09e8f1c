import Mathlib.Algebra.Field.Rat
import Mathlib.Tactic.TFAE
import PaperTrail.Proofs.Booking.Amount
import PaperTrail.Proofs.Booking.Spacing
import PaperTrail.Proofs.Export.Import
import PaperTrail.Proofs.Export.Rows
import PaperTrail.Proofs.Numeral

/-!
# The shape of a booking

What a row leaves out shows in its booking.  Main statement: a booking has both dates or none, and
none exactly where the row continues the one above; it is empty exactly where the row has no text,
no amount but zero and no number but zero.  A number that was left blank is no zero, so an import
never drops such a row as an empty one.
-/

namespace PaperTrail

open Text

namespace Numeral

theorem isDigit_of_mem_zeros {n : Nat} {c : Char} (h : c ∈ List.replicate n '0') :
    c.isDigit = true := by
  rw [List.eq_of_mem_replicate h]
  decide

theorem eq_zeros_of_value {ds : List Char} (h : ∀ c ∈ ds, c.isDigit = true)
    (hvalue : Nat.ofDigitChars 10 ds 0 = 0) : ds = List.replicate ds.length '0' := by
  have hzeros : Nat.ofDigitChars 10 ds 0 =
      Nat.ofDigitChars 10 (List.replicate ds.length '0') 0 := by
    rw [hvalue, Nat.ofDigitChars_replicate_zero, Nat.mul_zero]
  exact (ofDigitChars_injective (by simp) h (fun c ↦ isDigit_of_mem_zeros) hzeros).2

theorem isInteger_zero_iff {bits : Nat} {cs : List Char} :
    IsInteger bits cs 0 ↔
      ∃ (sign : Sign) (n : Nat), cs = sign.chars ++ List.replicate (n + 1) '0' := by
  constructor
  · rintro ⟨sign, ds, rfl, hne, hdigits, hvalue, -⟩
    have hzero : Nat.ofDigitChars 10 ds 0 = 0 := by
      cases sign <;> simpa [Sign.factor] using hvalue
    obtain ⟨n, hn⟩ := Nat.exists_eq_add_one_of_ne_zero (List.length_pos_iff.mpr hne).ne'
    exact ⟨sign, n, hn ▸ congrArg _ (eq_zeros_of_value hdigits hzero)⟩
  · rintro ⟨sign, n, rfl⟩
    have hpower : (0 : Int) < 2 ^ (bits - 1) := Int.pow_pos (by decide)
    refine ⟨sign, _, rfl, by simp, fun c ↦ isDigit_of_mem_zeros, ?_, by omega, hpower⟩
    simp [Nat.ofDigitChars_replicate_zero]

end Numeral

def Decimal.value (d : Decimal) : ℚ := d.units * 10 ^ (-d.scale)

theorem Decimal.value_eq_zero_iff {d : Decimal} : d.value = 0 ↔ d.isZero = true := by
  have hpower : (10 : ℚ) ^ (-d.scale) ≠ 0 := zpow_ne_zero _ (by decide)
  rw [value, mul_eq_zero, or_iff_left hpower, isZero_eq_true_iff]
  exact Rat.intCast_inj (a := d.units) (b := 0)

namespace Booking

open Numeral

theorem statesCode_zero_iff {raw : String} :
    StatesCode raw 0 ↔
      ∃ (sign : Sign) (n : Nat), IsCore raw.toList (sign.chars ++ List.replicate (n + 1) '0') := by
  constructor
  · rintro ⟨core, hcore, ⟨-, hunset⟩ | hnumber⟩
    · cases hunset
    · obtain ⟨sign, n, rfl⟩ := isInteger_zero_iff.mp hnumber
      exact ⟨sign, n, hcore⟩
  · rintro ⟨sign, n, hcore⟩
    exact ⟨_, hcore, Or.inr (isInteger_zero_iff.mpr ⟨sign, n, rfl⟩)⟩

theorem StatesCode.eq_zero_iff {raw : String} {code : Int} (h : StatesCode raw code) :
    (∃ (sign : Sign) (n : Nat), IsCore raw.toList (sign.chars ++ List.replicate (n + 1) '0')) ↔
      code = 0 := by
  rw [← statesCode_zero_iff]
  exact ⟨h.unique, fun hzero ↦ hzero ▸ h⟩

theorem StatesAmount.isZero_iff {raw : String} {d : Decimal} (h : StatesAmount raw d) :
    (∃ e, StatesAmount raw e ∧ e.value = 0) ↔ d.isZero = true := by
  rw [← Decimal.value_eq_zero_iff]
  exact ⟨fun ⟨_, he, hzero⟩ ↦ h.unique he ▸ hzero, fun hzero ↦ ⟨d, h, hzero⟩⟩

/-- The row has no texts, its amounts are zero and its numbers are written with zeros alone. -/
structure BooksNothing (fields : List String) : Prop where
  texts : ∀ i ∈ [0, 1, 2, 3, 4, 9, 10, 12], cell fields i = ""
  amounts : ∀ i ∈ [5, 11], ∃ d, StatesAmount (cell fields i) d ∧ d.value = 0
  codes : ∀ i ∈ [6, 7, 8], ∃ (sign : Sign) (n : Nat),
    IsCore (cell fields i).toList (sign.chars ++ List.replicate (n + 1) '0')

theorem Dated.eq_none_iff {fields : List String} {i : Nat} {day? : Option Date}
    (h : Dated fields i day?) : day? = none ↔ continues fields = true := by
  cases day? with
  | none => exact iff_of_true rfl h
  | some day => simp [h.1]

namespace ReadFrom

variable {fields : List String} {b : Booking}

theorem isContinuation_iff (h : b.ReadFrom fields) :
    b.isContinuation = true ↔ continues fields = true := by
  constructor
  · intro hcontinuation
    exact h.documentDate.eq_none_iff.mp (documentDate_of_isContinuation hcontinuation)
  · intro hcontinues
    have hempty := continues_eq_true_iff.mp hcontinues
    have hrange : b.numberRange = "" := h.numberRange.trans (hempty 2 (by decide))
    have hnumber : b.number = "" := h.number.trans (hempty 3 (by decide))
    simp [isContinuation, h.documentDate.eq_none_iff.mpr hcontinues,
      h.entryDate.eq_none_iff.mpr hcontinues, hrange, hnumber]

theorem dates_tfae (h : b.ReadFrom fields) :
    [b.documentDate = none, b.entryDate = none, ∀ i < 4, cell fields i = "",
      b.isContinuation = true].TFAE := by
  tfae_have 1 ↔ 3 := h.documentDate.eq_none_iff.trans continues_eq_true_iff
  tfae_have 2 ↔ 3 := h.entryDate.eq_none_iff.trans continues_eq_true_iff
  tfae_have 4 ↔ 3 := h.isContinuation_iff.trans continues_eq_true_iff
  tfae_finish

/-- Whether a booking is empty can be told from the texts of its row. -/
theorem isEmpty_iff (h : b.ReadFrom fields) : b.isEmpty = true ↔ BooksNothing fields := by
  simp only [isEmpty, Bool.and_eq_true, beq_iff_eq, h.isContinuation_iff, continues_eq_true_iff]
  constructor
  · rintro ⟨⟨⟨⟨⟨⟨⟨⟨⟨hfirst, htext⟩, hamount⟩, hdebit⟩, hcredit⟩, htax⟩, hunit₁⟩, hunit₂⟩, heur⟩,
      hcurrency⟩
    refine ⟨?_, ?_, ?_⟩
    · simp only [List.forall_mem_cons]
      exact ⟨hfirst 0 (by decide), hfirst 1 (by decide), hfirst 2 (by decide),
        hfirst 3 (by decide), h.text.symm.trans htext, h.costUnit1.symm.trans hunit₁,
        h.costUnit2.symm.trans hunit₂, h.currency.symm.trans hcurrency, List.forall_mem_nil _⟩
    · simp only [List.forall_mem_cons]
      exact ⟨h.amount.isZero_iff.mpr hamount,
        h.amountEur.isZero_iff.mpr heur, List.forall_mem_nil _⟩
    · simp only [List.forall_mem_cons]
      exact ⟨h.debitAccount.eq_zero_iff.mpr hdebit,
        h.creditAccount.eq_zero_iff.mpr hcredit,
        h.taxCode.eq_zero_iff.mpr htax, List.forall_mem_nil _⟩
  · intro hnothing
    have htext : ∀ i ∈ [0, 1, 2, 3, 4, 9, 10, 12], cell fields i = "" := hnothing.texts
    refine ⟨⟨⟨⟨⟨⟨⟨⟨⟨?_, ?_⟩, ?_⟩, ?_⟩, ?_⟩, ?_⟩, ?_⟩, ?_⟩, ?_⟩, ?_⟩
    · intro i hi
      exact htext i (by simp; omega)
    · exact h.text.trans (htext 4 (by decide))
    · exact h.amount.isZero_iff.mp (hnothing.amounts 5 (by decide))
    · exact h.debitAccount.eq_zero_iff.mp (hnothing.codes 6 (by decide))
    · exact h.creditAccount.eq_zero_iff.mp (hnothing.codes 7 (by decide))
    · exact h.taxCode.eq_zero_iff.mp (hnothing.codes 8 (by decide))
    · exact h.costUnit1.trans (htext 9 (by decide))
    · exact h.costUnit2.trans (htext 10 (by decide))
    · exact h.amountEur.isZero_iff.mp (hnothing.amounts 11 (by decide))
    · exact h.currency.trans (htext 12 (by decide))

end ReadFrom

/-- A number that was left blank is not written with zeros. -/
theorem BooksNothing.not_allBlank {fields : List String} (h : BooksNothing fields) {i : Nat}
    (hi : i ∈ [6, 7, 8]) : allBlank (cell fields i) = false := by
  obtain ⟨sign, n, hzeros⟩ := h.codes i hi
  rw [Bool.eq_false_iff, ne_eq, allBlank_eq_true_iff, trim_eq_iff.mpr hzeros]
  simp

/-- A blank code is unset and not zero, so its row always books something. -/
theorem not_isEmpty_of_allBlank {fields : List String} {b : Booking} (h : ofFields fields = .ok b)
    (hblank : ∃ i ∈ [6, 7, 8], allBlank (cell fields i) = true) : b.isEmpty = false := by
  obtain ⟨i, hi, hcell⟩ := hblank
  rw [Bool.eq_false_iff, ne_eq, (ReadFrom.of_eq_ok h).isEmpty_iff]
  intro hnothing
  rw [hnothing.not_allBlank hi] at hcell
  cases hcell

end Booking

namespace Export

/-- Every record of an answered import that is not blank was read as a booking, and kept unless it
is empty. -/
theorem exists_of_mem_rows {source : Source} {bookings : List Booking}
    (h : (read source).answer = .ok bookings) {record : Record}
    (hrecord : record ∈ source.effective.rows) {fields : List String}
    (hfields : record.fields = fields.map encode) (hblank : fields.all allBlank = false) :
    ∃ b, Booking.ofFields fields = .ok b ∧ (b.isEmpty = false → b ∈ bookings) := by
  obtain ⟨outcomes, houtcomes, rfl⟩ := exists_outcomes_of_read h
  obtain ⟨n, hn⟩ : ∃ n, (record, n) ∈ source.effective.rows.zipIdx := by
    obtain ⟨n, hn, rfl⟩ := List.getElem_of_mem hrecord
    exact ⟨n, List.mem_zipIdx_iff_getElem?.mpr (List.getElem?_eq_getElem hn)⟩
  obtain ⟨outcome, hmem, houtcome⟩ := Logged.exists_output_of_mem_inputs houtcomes hn
  rw [readRecord, hfields, textFields_map_encode, Logged.ofExcept_ok_bind] at houtcome
  obtain ⟨b, hb, hkept⟩ := exists_of_answer_readRow houtcome hblank
  exact ⟨b, hb, fun hempty ↦ List.mem_filterMap.mpr ⟨outcome, hmem, hkept hempty⟩⟩

end Export

namespace Booking

/-- A row that is read shows which dates it has and whether it books anything.  So an import gives
each booking both dates or none, and never takes a row with a blank account or tax code for an
empty one: if it is not blank altogether, its booking is there. -/
theorem shape_of_bookings :
    (∀ fields b, ofFields fields = .ok b →
      [b.documentDate = none, b.entryDate = none, ∀ i < 4, cell fields i = "",
        b.isContinuation = true].TFAE ∧
      (b.isEmpty = true ↔ BooksNothing fields)) ∧
    (∀ line row fields, (∃ i ∈ [6, 7, 8], allBlank (cell fields i) = true) →
      .skippedEmptyRow line ∉ (Export.readRow row fields).events) ∧
    ∀ source bookings, (Export.read source).answer = .ok bookings →
      (∀ b ∈ bookings, b.documentDate = none ↔ b.entryDate = none) ∧
      ∀ record ∈ source.effective.rows, ∀ fields : List String,
        record.fields = fields.map encode → fields.all allBlank = false →
        (∃ i ∈ [6, 7, 8], allBlank (cell fields i) = true) →
          ∃ b ∈ bookings, ofFields fields = .ok b := by
  refine ⟨?_, ?_, ?_⟩
  · intro fields b h
    have hread : b.ReadFrom fields := .of_eq_ok h
    exact ⟨hread.dates_tfae, hread.isEmpty_iff⟩
  · intro line row fields hblank hskipped
    obtain ⟨b, hb, hempty⟩ := Export.exists_isEmpty_of_skippedEmptyRow hskipped
    rw [not_isEmpty_of_allBlank hb hblank] at hempty
    cases hempty
  · refine fun source bookings himport ↦ ⟨fun b hb ↦ ?_, ?_⟩
    · obtain ⟨fields, h⟩ := Export.exists_fields_of_mem_read himport hb
      exact (ReadFrom.of_eq_ok h).dates_tfae.out 0 1
    · intro record hrecord fields hfields hinked hblank
      obtain ⟨b, hb, hkept⟩ := Export.exists_of_mem_rows himport hrecord hfields hinked
      exact ⟨b, hkept (not_isEmpty_of_allBlank hb hblank), hb⟩

/-! ### A sample -/

namespace Sample

def untaxed : List String := ["", "", "", "", "", "0", "0", "-0", "", "", "", "0,00", ""]

def untaxedBooking : Booking := ⟨none, none, "", "", "", ⟨0, 0⟩, 0, 0, -1, "", "", ⟨0, 2⟩, ""⟩

end Sample

open Sample

theorem shape_of_untaxed :
    ofFields untaxed = .ok untaxedBooking ∧ ¬ BooksNothing untaxed ∧
      .skippedEmptyRow 2 ∉ (Export.readRow 2 untaxed).events ∧
      ∃ b ∈ [untaxedBooking], ofFields untaxed = .ok b := by
  have hfields : ofFields untaxed = .ok untaxedBooking := rfl
  have hcell : ∃ i ∈ [6, 7, 8], allBlank (cell untaxed i) = true := ⟨8, by decide, rfl⟩
  have himport : (Export.read (.ofText "K\n;;;;;0;0;-0;;;;0,00;\n")).answer =
      .ok [untaxedBooking] := rfl
  have hrows : (Export.Source.ofText "K\n;;;;;0;0;-0;;;;0,00;\n").effective.rows =
      [⟨⟨2, 2⟩, untaxed.map encode⟩] := rfl
  refine ⟨hfields, ?_, shape_of_bookings.2.1 2 2 untaxed hcell, ?_⟩
  · rw [← (shape_of_bookings.1 _ _ hfields).2]
    decide
  · exact (shape_of_bookings.2.2 _ _ himport).2 _ (hrows ▸ List.mem_singleton_self _) untaxed rfl
      rfl hcell

end Booking

end PaperTrail
