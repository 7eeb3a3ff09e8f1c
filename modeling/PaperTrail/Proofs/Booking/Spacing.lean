import PaperTrail.Proofs.Booking.Row
import PaperTrail.Proofs.Date.Delimited

/-!
# Blanks around typed columns

Dates, amounts, accounts and tax codes are read without the blanks around them.  Main statement:
such blanks make no difference to a row, with one exception.  A row that continues the one above
has two empty columns for its dates, and where a blank is put into one of them, the row is taken
for one with dates of its own and refused.
-/

namespace PaperTrail.Booking

open Text

/-! ### Rows are read if and only if they state a booking -/

theorem Dated.unique {fields : List String} {i : Nat} {day? other? : Option Date}
    (h : Dated fields i day?) (hother : Dated fields i other?) : day? = other? := by
  cases day? with
  | none =>
      cases other? with
      | none => rfl
      | some other => exact absurd (Eq.trans (Eq.symm h) hother.1) (by decide)
  | some day =>
      cases other? with
      | none => exact absurd (Eq.trans (Eq.symm hother) h.1) (by decide)
      | some other => exact congrArg some (Except.ok.inj (h.2.symm.trans hother.2))

/-- A row states one booking at most. -/
theorem ReadFrom.unique {fields : List String} {b c : Booking} (hb : b.ReadFrom fields)
    (hc : c.ReadFrom fields) : b = c := by
  cases b
  cases c
  simp only [mk.injEq]
  exact ⟨hb.documentDate.unique hc.documentDate, hb.entryDate.unique hc.entryDate,
    hb.numberRange.trans hc.numberRange.symm, hb.number.trans hc.number.symm,
    hb.text.trans hc.text.symm, hb.amount.unique hc.amount,
    hb.debitAccount.unique hc.debitAccount, hb.creditAccount.unique hc.creditAccount,
    hb.taxCode.unique hc.taxCode, hb.costUnit1.trans hc.costUnit1.symm,
    hb.costUnit2.trans hc.costUnit2.symm, hb.amountEur.unique hc.amountEur,
    hb.currency.trans hc.currency.symm⟩

theorem causeIn?_eq_none_of_dated {fields : List String} {column : Column}
    (hcolumn : column = .documentDate ∨ column = .entryDate) {day? : Option Date}
    (h : Dated fields column.index day?) : column.causeIn? fields = none := by
  cases day? with
  | none =>
      have hcontinues : continues fields = true := h
      rcases hcolumn with rfl | rfl <;> simp [Column.causeIn?, Column.isRead, hcontinues]
  | some day =>
      obtain ⟨-, hday⟩ := h
      rcases hcolumn with rfl | rfl <;> simp [Column.causeIn?, Column.cause?, hday]

theorem causeIn?_of_statesAmount {fields : List String} {column : Column}
    (hcolumn : column = .amount ∨ column = .amountEur) {amount : Decimal}
    (h : StatesAmount (cell fields column.index) amount) : column.causeIn? fields = none := by
  rcases hcolumn with rfl | rfl
  all_goals
    rw [Column.causeIn?_of_isRead rfl]
    exact if_pos ⟨amount, h⟩

theorem causeIn?_of_statesCode {fields : List String} {column : Column}
    (hcolumn : column = .debitAccount ∨ column = .creditAccount ∨ column = .taxCode) {code : Int}
    (h : StatesCode (cell fields column.index) code) : column.causeIn? fields = none := by
  rcases hcolumn with rfl | rfl | rfl
  all_goals
    rw [Column.causeIn?_of_isRead rfl]
    exact if_pos ⟨code, h⟩

theorem ReadFrom.causeIn?_eq_none {fields : List String} {b : Booking} (h : b.ReadFrom fields)
    (column : Column) : column.causeIn? fields = none := by
  cases column with
  | documentDate => exact causeIn?_eq_none_of_dated (.inl rfl) h.documentDate
  | entryDate => exact causeIn?_eq_none_of_dated (.inr rfl) h.entryDate
  | amount => exact causeIn?_of_statesAmount (.inl rfl) h.amount
  | debitAccount => exact causeIn?_of_statesCode (.inl rfl) h.debitAccount
  | creditAccount => exact causeIn?_of_statesCode (.inr (.inl rfl)) h.creditAccount
  | taxCode => exact causeIn?_of_statesCode (.inr (.inr rfl)) h.taxCode
  | amountEur => exact causeIn?_of_statesAmount (.inr rfl) h.amountEur

theorem ReadFrom.of_eq_ok {fields : List String} {b : Booking} (h : ofFields fields = .ok b) :
    b.ReadFrom fields := by
  by_cases hlength : fields.length = 13
  · exact readFrom_of_ofFields hlength h
  · rw [ofFields_of_length_ne hlength] at h
    cases h

/-- A full row is read as the one booking that it states. -/
theorem ofFields_eq_ok_iff {fields : List String} (hlength : fields.length = 13) {b : Booking} :
    ofFields fields = .ok b ↔ b.ReadFrom fields := by
  refine ⟨ReadFrom.of_eq_ok, fun h ↦ ?_⟩
  have hfault : firstFault? fields = none := firstFault?_eq_none_iff.mpr h.causeIn?_eq_none
  obtain ⟨c, hc⟩ := (ofFields_failsWith hlength).ok_iff.mpr hfault
  rw [hc, (ReadFrom.of_eq_ok hc).unique h]

/-! ### Spaced rows -/

/-- The second row is the first one with blanks around the texts of typed columns. -/
structure SpacedRow (fields fields' : List String) : Prop where
  length_eq : fields'.length = fields.length
  typed : ∀ column : Column, Spaced (cell fields column.index) (cell fields' column.index)
  verbatim : ∀ i ∉ Column.all.map Column.index, cell fields' i = cell fields i

theorem statesAmount_spaced {raw raw' : String} (h : Spaced raw raw') {amount : Decimal} :
    StatesAmount raw' amount ↔ StatesAmount raw amount := by
  simp only [StatesAmount, h.isCore_iff]

theorem statesCode_spaced {raw raw' : String} (h : Spaced raw raw') {code : Int} :
    StatesCode raw' code ↔ StatesCode raw code := by
  simp only [StatesCode, h.isCore_iff]

theorem cell_eq_of_mem_take {fields : List String} {n : Nat} {text : String}
    (h : text ∈ fields.take n) : ∃ i < n, cell fields i = text := by
  obtain ⟨i, hi, rfl⟩ := List.mem_take_iff_getElem.mp h
  have hlength : i < fields.length := by omega
  exact ⟨i, by omega, by simp [cell, hlength]⟩

theorem continues_eq_true_iff {fields : List String} :
    continues fields = true ↔ ∀ i < 4, cell fields i = "" := by
  simp only [continues, List.all_eq_true, beq_iff_eq]
  constructor
  · intro h i hi
    by_cases hlength : i < fields.length
    · have hmem : fields[i] ∈ fields.take 4 :=
        List.mem_take_iff_getElem.mpr ⟨i, by omega, rfl⟩
      simpa [cell, hlength] using h _ hmem
    · simp [cell, hlength]
  · intro h text htext
    obtain ⟨i, hi, rfl⟩ := cell_eq_of_mem_take htext
    exact h i hi

/-- The columns of the second row state what those of the first one do. -/
theorem ReadFrom.congr {fields fields' : List String} {b : Booking}
    (hdated : ∀ i ≤ 1, ∀ day?, Dated fields i day? → Dated fields' i day?)
    (hamount : ∀ (column : Column) (amount : Decimal),
      StatesAmount (cell fields column.index) amount →
        StatesAmount (cell fields' column.index) amount)
    (hcode : ∀ (column : Column) (code : Int),
      StatesCode (cell fields column.index) code → StatesCode (cell fields' column.index) code)
    (hverbatim : ∀ i ∉ Column.all.map Column.index, cell fields' i = cell fields i)
    (h : b.ReadFrom fields) : b.ReadFrom fields' where
  documentDate := hdated 0 (by decide) _ h.documentDate
  entryDate := hdated 1 (by decide) _ h.entryDate
  numberRange := h.numberRange.trans (hverbatim 2 (by decide)).symm
  number := h.number.trans (hverbatim 3 (by decide)).symm
  text := h.text.trans (hverbatim 4 (by decide)).symm
  amount := hamount .amount _ h.amount
  debitAccount := hcode .debitAccount _ h.debitAccount
  creditAccount := hcode .creditAccount _ h.creditAccount
  taxCode := hcode .taxCode _ h.taxCode
  costUnit1 := h.costUnit1.trans (hverbatim 9 (by decide)).symm
  costUnit2 := h.costUnit2.trans (hverbatim 10 (by decide)).symm
  amountEur := hamount .amountEur _ h.amountEur
  currency := h.currency.trans (hverbatim 12 (by decide)).symm

namespace SpacedRow

variable {fields fields' : List String}

/-- Blanks make no text empty. -/
theorem continues_of_continues (h : SpacedRow fields fields')
    (hcontinues : continues fields' = true) : continues fields = true := by
  rw [continues_eq_true_iff] at hcontinues ⊢
  intro i hi
  have hcell := hcontinues i hi
  by_cases hverbatim : i ∈ Column.all.map Column.index
  · obtain ⟨column, -, rfl⟩ := List.mem_map.mp hverbatim
    have htyped := h.typed column
    rw [hcell] at htyped
    exact htyped.eq_empty
  · rw [← h.verbatim i hverbatim, hcell]

theorem continues_eq (h : SpacedRow fields fields')
    (hempty : continues fields = true → cell fields' 0 = "" ∧ cell fields' 1 = "") :
    continues fields' = continues fields := by
  refine Bool.eq_iff_iff.mpr ⟨h.continues_of_continues, fun hcontinues ↦ ?_⟩
  obtain ⟨hdocument, hentry⟩ := hempty hcontinues
  rw [continues_eq_true_iff] at hcontinues ⊢
  intro i hi
  match i with
  | 0 => exact hdocument
  | 1 => exact hentry
  | 2 => exact (h.verbatim 2 (by decide)).trans (hcontinues 2 hi)
  | 3 => exact (h.verbatim 3 (by decide)).trans (hcontinues 3 hi)

theorem dated_iff (h : SpacedRow fields fields') (hcontinues : continues fields' = continues fields)
    {i : Nat} (hi : i ≤ 1) (day? : Option Date) : Dated fields' i day? ↔ Dated fields i day? := by
  have hspaced : Spaced (cell fields i) (cell fields' i) := by
    match i with
    | 0 => exact h.typed .documentDate
    | 1 => exact h.typed .entryDate
  have hpoint : isBlank '.' = false := by decide
  cases day? with
  | none => simp [Dated, hcontinues]
  | some day => simp [Dated, hcontinues, Date.ofDelimited_spaced hpoint hspaced]

/-- Blanks around the cells change no booking as long as the row continues as before. -/
theorem readFrom_iff (h : SpacedRow fields fields')
    (hcontinues : continues fields' = continues fields) {b : Booking} :
    b.ReadFrom fields' ↔ b.ReadFrom fields := by
  constructor
  · apply ReadFrom.congr
    · exact fun i hi day? ↦ (h.dated_iff hcontinues hi day?).mp
    · exact fun column _ ↦ (statesAmount_spaced (h.typed column)).mp
    · exact fun column _ ↦ (statesCode_spaced (h.typed column)).mp
    · exact fun i hi ↦ (h.verbatim i hi).symm
  · apply ReadFrom.congr
    · exact fun i hi day? ↦ (h.dated_iff hcontinues hi day?).mpr
    · exact fun column _ ↦ (statesAmount_spaced (h.typed column)).mpr
    · exact fun column _ ↦ (statesCode_spaced (h.typed column)).mpr
    · exact h.verbatim

/-- The first column of such a row holds nothing but blanks, which are no date. -/
theorem ofFields_of_not_continues (h : SpacedRow fields fields') (hlength : fields.length = 13)
    (hcontinues : continues fields = true) (hcontinues' : continues fields' = false) :
    ofFields fields' =
      .error (.invalidField .documentDate (.invalidDate (cell fields' 0))) := by
  have hpoint : '.' ∉ (cell fields' 0).toList := by
    intro hmem
    have hspaced := h.typed .documentDate
    rw [Column.index, continues_eq_true_iff.mp hcontinues 0 (by decide)] at hspaced
    exact absurd (hspaced.isBlank_of_mem hmem) (by decide)
  have hcause : Column.documentDate.causeIn? fields' =
      some (.invalidDate (cell fields' 0)) := by
    simp [Column.causeIn?, Column.isRead, hcontinues', Column.cause?, Column.index,
      Date.ofDelimited_of_notMem hpoint]
  have hlength' : fields'.length = 13 := h.length_eq.trans hlength
  refine (ofFields_failsWith hlength').error_iff.mpr (firstFault?_eq_some_iff.mpr ?_)
  exact ⟨.documentDate, _, rfl, hcause, fun other hlt ↦ absurd hlt (Nat.not_lt_zero _)⟩

end SpacedRow

/-- Blanks around typed columns neither help nor harm a row.  Only where they are put into the empty
date columns of a row that continues the one above, it is refused at its document date. -/
theorem ofFields_spaced {fields fields' : List String} (hlength : fields.length = 13)
    (h : SpacedRow fields fields') :
    ((continues fields = true → cell fields' 0 = "" ∧ cell fields' 1 = "") →
      ∀ b, ofFields fields' = .ok b ↔ ofFields fields = .ok b) ∧
    (continues fields = true → (cell fields' 0 ≠ "" ∨ cell fields' 1 ≠ "") →
      ofFields fields' =
        .error (.invalidField .documentDate (.invalidDate (cell fields' 0)))) := by
  have hlength' : fields'.length = 13 := h.length_eq.trans hlength
  refine ⟨fun hempty b ↦ ?_, fun hcontinues hfilled ↦ ?_⟩
  · rw [ofFields_eq_ok_iff hlength', ofFields_eq_ok_iff hlength]
    exact h.readFrom_iff (h.continues_eq hempty)
  · apply h.ofFields_of_not_continues hlength hcontinues
    rw [Bool.eq_false_iff, ne_eq, continues_eq_true_iff]
    intro hempty
    rcases hfilled with hdocument | hentry
    · exact hdocument (hempty 0 (by decide))
    · exact hentry (hempty 1 (by decide))

/-! ### A sample -/

namespace Sample

/-- A row with a day for both dates and an account, both as they stand in the row. -/
def row (day account : String) : List String :=
  [day, day, "", "", "Fee", "1", "1", account, "", "", "", "1", ""]

theorem spacedRow_row {day day' account account' : String} (hday : Spaced day day')
    (haccount : Spaced account account') : SpacedRow (row day account) (row day' account') where
  length_eq := rfl
  typed column := by
    cases column with
    | documentDate => exact hday
    | entryDate => exact hday
    | creditAccount => exact haccount
    | _ => exact .refl _
  verbatim i hi := by
    match i with
    | 2 | 3 | 4 | 9 | 10 | 12 => rfl
    | 0 | 1 | 5 | 6 | 7 | 8 | 11 => exact absurd (by decide) hi
    | _ + 13 => rfl

theorem spaced_blank (s : String) : Spaced s (" " ++ s) :=
  ⟨[' '], [], List.forall_mem_singleton.mpr rfl, List.forall_mem_nil _, by simp⟩

def booking (day : Option Date) : Booking :=
  ⟨day, day, "", "", "Fee", ⟨1, 0⟩, 1, 2, -1, "", "", ⟨1, 0⟩, ""⟩

end Sample

open Sample

theorem ofFields_spaced_dated :
    ofFields (row "1.2.14" "2") = .ok (booking (Date.of? 14 2 1)) ∧
      ofFields (row " 1.2.14" " 2") = .ok (booking (Date.of? 14 2 1)) ∧
        ofFields (row " " " 2") = .error (.invalidField .documentDate (.invalidDate " ")) := by
  have hread : ofFields (row "1.2.14" "2") = .ok (booking (Date.of? 14 2 1)) := rfl
  have hspaced (day : String) : SpacedRow (row day "2") (row (" " ++ day) " 2") :=
    spacedRow_row (spaced_blank day) (spaced_blank "2")
  have hdated : continues (row "1.2.14" "2") = false := rfl
  refine ⟨hread, ((ofFields_spaced rfl (hspaced "1.2.14")).1 ?_ _).mpr hread, ?_⟩
  · simp [hdated]
  · exact (ofFields_spaced rfl (hspaced "")).2 rfl (.inl (by decide))

/-- One blank in each empty date is enough to refuse a row that is read without them. -/
theorem blank_date_of_continuing_row :
    SpacedRow (row "" "2") (row " " "2") ∧
      ofFields (row "" "2") = .ok (booking none) ∧
        ofFields (row " " "2") = .error (.invalidField .documentDate (.invalidDate " ")) :=
  ⟨spacedRow_row (spaced_blank "") (.refl "2"), rfl, rfl⟩

end PaperTrail.Booking
