import PaperTrail.Booking.Row
import PaperTrail.Proofs.Numeral

/-!
# Reading a row

What the text of a typed column states is told without the reader: as an amount whose grouping is
taken away, as an account or a tax code that may be left blank, or as a date.  A text that states
nothing is the fault of its column, and hangs on that column alone.
Main statement: a row of the right width is read as the booking that its columns state, or fails
with the fault of the leftmost column that has one.
-/

namespace PaperTrail

open Numeral Text

/-- The answer is the fault, if there is one. -/
def FailsWith {α : Type} (fault? : Option Fault) (answer : Except Fault α) : Prop :=
  match fault? with
  | some fault => answer = .error fault
  | none => ∃ a, answer = .ok a

namespace FailsWith

variable {α β : Type} {first? rest? : Option Fault} {first : Except Fault α}

theorem pure (a : α) : FailsWith none (.ok a) := ⟨a, rfl⟩

theorem ok_iff (h : FailsWith first? first) : (∃ a, first = .ok a) ↔ first? = none := by
  cases first? with
  | none => exact iff_of_true h rfl
  | some fault =>
      have herror : first = .error fault := h
      simp [herror]

theorem error_iff (h : FailsWith first? first) {fault : Fault} :
    first = .error fault ↔ first? = some fault := by
  cases first? with
  | none =>
      obtain ⟨a, rfl⟩ := h
      simp
  | some fault' =>
      have herror : first = .error fault' := h
      simp [herror]

theorem map (h : FailsWith first? first) (f : α → β) : FailsWith first? (first.map f) := by
  cases first? with
  | none =>
      obtain ⟨a, rfl⟩ := h
      exact .pure (f a)
  | some fault =>
      have herror : first = .error fault := h
      rw [herror]
      rfl

/-- Of two steps the first one that fails gives the fault. -/
theorem bind {next : α → Except Fault β} (h : FailsWith first? first)
    (hnext : ∀ a, FailsWith rest? (next a)) : FailsWith (first?.or rest?) (first >>= next) := by
  cases first? with
  | none =>
      obtain ⟨a, rfl⟩ := h
      exact hnext a
  | some fault =>
      have herror : first = .error fault := h
      rw [herror]
      rfl

end FailsWith

namespace Booking

/-- The text in the column with this number, counted from zero. -/
def cell (fields : List String) (i : Nat) : String := fields.getD i ""

def continues (fields : List String) : Bool := (fields.take 4).all (· == "")

/-! ### What a text states -/

/-- The second text is the first one without its points, and with a point for each comma. -/
inductive Ungrouped : List Char → List Char → Prop
  | nil : Ungrouped [] []
  | point {cs plain : List Char} (h : Ungrouped cs plain) : Ungrouped ('.' :: cs) plain
  | comma {cs plain : List Char} (h : Ungrouped cs plain) : Ungrouped (',' :: cs) ('.' :: plain)
  | other {c : Char} {cs plain : List Char} (hpoint : c ≠ '.') (hcomma : c ≠ ',')
      (h : Ungrouped cs plain) : Ungrouped (c :: cs) (c :: plain)

/-- The core of the text is an amount with points that group its digits and commas in the place of
points. -/
def StatesAmount (raw : String) (amount : Decimal) : Prop :=
  ∃ core plain, IsCore raw.toList core ∧ Ungrouped core plain ∧
    Decimal.ofChars? plain = some amount

/-- The core of the text is a number, or there is none and the number is `-1`. -/
def StatesCode (raw : String) (code : Int) : Prop :=
  ∃ core, IsCore raw.toList core ∧ (core = [] ∧ code = -1 ∨ IsInteger 64 core code)

/-- The amount that the reader computes; that it is the one stated is proved below. -/
def amount? (raw : String) : Option Decimal := Decimal.ofChars? (plainAmount raw.toList)

def code? (raw : String) : Option Int :=
  let cs := trim raw.toList
  if cs = [] then some (-1) else signed? 64 cs

/-- The relation on characters is what the reader computes by dropping and replacing. -/
theorem ungrouped_iff {cs plain : List Char} :
    Ungrouped cs plain ↔
      ((cs.filter fun c ↦ c ≠ '.').map fun c ↦ if c = ',' then '.' else c) = plain := by
  constructor
  · intro h
    induction h with
    | nil => rfl
    | point _ ih => simpa using ih
    | comma _ ih => simpa using ih
    | other hpoint hcomma _ ih => simpa [hpoint, hcomma] using ih
  · rintro rfl
    induction cs with
    | nil => exact .nil
    | cons c cs ih =>
        by_cases hpoint : c = '.'
        · simpa [hpoint] using ih.point
        · by_cases hcomma : c = ','
          · simpa [hcomma] using ih.comma
          · simpa [hpoint, hcomma] using ih.other hpoint hcomma

/-- The reader finds an amount exactly where one is stated. -/
theorem amount?_eq_some_iff {raw : String} {amount : Decimal} :
    amount? raw = some amount ↔ StatesAmount raw amount := by
  constructor
  · intro h
    exact ⟨_, _, trim_eq_iff.mp rfl, ungrouped_iff.mpr rfl, h⟩
  · rintro ⟨core, plain, hcore, hplain, h⟩
    rw [amount?, plainAmount, trim_eq_iff.mpr hcore, ungrouped_iff.mp hplain, h]

theorem code?_eq_some_iff {raw : String} {code : Int} :
    code? raw = some code ↔ StatesCode raw code := by
  simp only [StatesCode, ← trim_eq_iff, exists_eq_left', code?]
  split
  · next hblank =>
      have hnumber : ¬ IsInteger 64 [] code := by
        rintro ⟨sign, ds, heq, hne, -⟩
        exact hne (List.append_eq_nil_iff.mp heq.symm).2
      simp [hblank, hnumber, eq_comm]
  · next hfilled => simp [hfilled, signed?_eq_some_iff]

/-- A text states one amount at most. -/
theorem StatesAmount.unique {raw : String} {amount other : Decimal}
    (h : StatesAmount raw amount) (hother : StatesAmount raw other) : amount = other :=
  Option.some.inj ((amount?_eq_some_iff.mpr h).symm.trans (amount?_eq_some_iff.mpr hother))

theorem StatesCode.unique {raw : String} {code other : Int} (h : StatesCode raw code)
    (hother : StatesCode raw other) : code = other :=
  Option.some.inj ((code?_eq_some_iff.mpr h).symm.trans (code?_eq_some_iff.mpr hother))

theorem exists_statesAmount_iff {raw : String} :
    (∃ amount, StatesAmount raw amount) ↔ (amount? raw).isSome = true := by
  simp only [← amount?_eq_some_iff, Option.isSome_iff_exists]

theorem exists_statesCode_iff {raw : String} :
    (∃ code, StatesCode raw code) ↔ (code? raw).isSome = true := by
  simp only [← code?_eq_some_iff, Option.isSome_iff_exists]

instance (raw : String) : Decidable (∃ amount, StatesAmount raw amount) :=
  decidable_of_iff' _ exists_statesAmount_iff

instance (raw : String) : Decidable (∃ code, StatesCode raw code) :=
  decidable_of_iff' _ exists_statesCode_iff

namespace Column

def all : List Column :=
  [documentDate, entryDate, amount, debitAccount, creditAccount, taxCode, amountEur]

theorem mem_all (column : Column) : column ∈ all := by
  cases column <;> decide

theorem pairwise_all : all.Pairwise fun a b ↦ a.index < b.index := by
  decide

/-- The dates of a row that continues the one above are not read. -/
def isRead (fields : List String) : Column → Bool
  | documentDate | entryDate => !continues fields
  | amount | debitAccount | creditAccount | taxCode | amountEur => true

/-- What is wrong with a text, taken as the text of this column. -/
def cause? (column : Column) (raw : String) : Option Fault :=
  match column with
  | documentDate | entryDate =>
      match Date.ofDelimited '.' raw with
      | .ok _ => none
      | .error cause => some cause
  | amount | amountEur =>
      if ∃ amount, StatesAmount raw amount then none else some (.malformedNumber raw)
  | debitAccount | creditAccount | taxCode =>
      if ∃ code, StatesCode raw code then none
      else some (.malformedNumber (String.ofList (trim raw.toList)))

def causeIn? (fields : List String) (column : Column) : Option Fault :=
  if column.isRead fields then column.cause? (cell fields column.index) else none

def faultIn? (fields : List String) (column : Column) : Option Fault :=
  (column.causeIn? fields).map (.invalidField column)

theorem causeIn?_of_isRead {fields : List String} {column : Column}
    (h : column.isRead fields = true) :
    column.causeIn? fields = column.cause? (cell fields column.index) :=
  if_pos h

theorem causeIn?_congr {fields fields' : List String} {column : Column}
    (hcontinues : continues fields' = continues fields)
    (hcell : cell fields' column.index = cell fields column.index) :
    column.causeIn? fields' = column.causeIn? fields := by
  have hread : column.isRead fields' = column.isRead fields := by
    cases column <;> simp [isRead, hcontinues]
  rw [causeIn?, causeIn?, hread, hcell]

end Column

def firstFault? (fields : List String) : Option Fault :=
  Column.all.findSome? (Column.faultIn? fields)

theorem firstFault?_eq_none_iff {fields : List String} :
    firstFault? fields = none ↔ ∀ column : Column, column.causeIn? fields = none := by
  simp [firstFault?, Column.faultIn?, Column.mem_all]

/-- The first fault is that of the leftmost column that has one. -/
theorem firstFault?_eq_some_iff {fields : List String} {fault : Fault} :
    firstFault? fields = some fault ↔
      ∃ (column : Column) (cause : Fault), fault = .invalidField column cause ∧
        column.causeIn? fields = some cause ∧
        ∀ other : Column, other.index < column.index → other.causeIn? fields = none := by
  rw [firstFault?, List.findSome?_eq_some_iff]
  constructor
  · rintro ⟨left, column, right, hall, hfault, hleft⟩
    obtain ⟨cause, hcause, rfl⟩ := Option.map_eq_some_iff.mp hfault
    refine ⟨column, cause, rfl, hcause, fun other hlt ↦ ?_⟩
    have hsorted := Column.pairwise_all
    have hmem := other.mem_all
    rw [hall] at hsorted hmem
    rcases List.mem_append.mp hmem with hother | hother
    · exact Option.map_eq_none_iff.mp (hleft other hother)
    · -- the columns that are not to the left have no smaller number
      have hright := (List.pairwise_cons.mp (List.pairwise_append.mp hsorted).2.1).1
      rcases List.mem_cons.mp hother with rfl | hother
      · exact absurd hlt (Nat.lt_irrefl _)
      · exact absurd hlt (Nat.lt_asymm (hright other hother))
  · rintro ⟨column, cause, rfl, hcause, hleft⟩
    obtain ⟨left, right, hall⟩ := List.append_of_mem column.mem_all
    have hsorted := Column.pairwise_all
    rw [hall] at hsorted
    refine ⟨left, column, right, hall, Option.map_eq_some_iff.mpr ⟨cause, hcause, rfl⟩,
      fun other hother ↦ ?_⟩
    have hlt := (List.pairwise_append.mp hsorted).2.2 other hother column List.mem_cons_self
    exact Option.map_eq_none_iff.mpr (hleft other hlt)

/-! ### Reading one column -/

theorem faultIn?_eq_map {fields : List String} {column : Column}
    (h : column.isRead fields = true) :
    column.faultIn? fields =
      (column.cause? (cell fields column.index)).map (.invalidField column) := by
  rw [Column.faultIn?, Column.causeIn?_of_isRead h]

def readDay (fields : List String) (column : Column) : Except Fault (Option Date) :=
  if continues fields then .ok none
  else (readDate column (cell fields column.index)).map some

theorem readDate_failsWith {column : Column} (h : column = .documentDate ∨ column = .entryDate)
    (raw : String) :
    FailsWith ((column.cause? raw).map (.invalidField column)) (readDate column raw) := by
  rcases h with rfl | rfl
  all_goals
    simp only [readDate, Column.cause?]
    cases Date.ofDelimited '.' raw with
    | ok day => exact .pure day
    | error cause => rfl

theorem readDay_failsWith (fields : List String) (column : Column)
    (h : column = .documentDate ∨ column = .entryDate) :
    FailsWith (column.faultIn? fields) (readDay fields column) := by
  have hread : column.isRead fields = !continues fields := by
    rcases h with rfl | rfl <;> rfl
  rw [Column.faultIn?, Column.causeIn?, hread, readDay]
  cases continues fields with
  | true => exact .pure none
  | false => exact (readDate_failsWith h _).map some

theorem readAmount_eq (column : Column) (raw : String) :
    readAmount column raw =
      match amount? raw with
      | some amount => .ok amount
      | none => inColumn column (.error (.malformedNumber raw)) := by
  cases hread : Decimal.ofChars? (plainAmount raw.toList) with
  | some amount => simp only [readAmount, amount?, hread]
  | none => simp only [readAmount, amount?, hread]

theorem readAmount_failsWith (fields : List String) (column : Column)
    (h : column = .amount ∨ column = .amountEur) :
    FailsWith (column.faultIn? fields) (readAmount column (cell fields column.index)) := by
  rw [readAmount_eq]
  rcases h with rfl | rfl
  all_goals
    rw [faultIn?_eq_map rfl]
    simp only [Column.cause?, exists_statesAmount_iff]
    cases amount? (cell fields _) with
    | some amount => exact .pure amount
    | none => rfl

theorem readCode_eq (column : Column) (raw : String) :
    readCode column raw =
      match code? raw with
      | some code => .ok code
      | none => inColumn column (.error (.malformedNumber (String.ofList (trim raw.toList)))) := by
  simp only [readCode, code?]
  split
  · rfl
  · rfl

theorem readCode_failsWith (fields : List String) (column : Column)
    (h : column = .debitAccount ∨ column = .creditAccount ∨ column = .taxCode) :
    FailsWith (column.faultIn? fields) (readCode column (cell fields column.index)) := by
  rw [readCode_eq]
  rcases h with rfl | rfl | rfl
  all_goals
    rw [faultIn?_eq_map rfl]
    simp only [Column.cause?, exists_statesCode_iff]
    cases code? (cell fields _) with
    | some code => exact .pure code
    | none => rfl

/-! ### Reading the row -/

theorem ofFields_of_length_ne {fields : List String} (h : fields.length ≠ 13) :
    ofFields fields = .error (.columnCount 13 fields.length) := by
  unfold ofFields
  split
  · exact absurd rfl h
  · rfl

theorem ofFields_eq {fields : List String} (h : fields.length = 13) :
    ofFields fields = (do
      let documentDay ← readDay fields .documentDate
      let entryDay ← readDay fields .entryDate
      let posted ← readAmount .amount (cell fields Column.amount.index)
      let debit ← readCode .debitAccount (cell fields Column.debitAccount.index)
      let credit ← readCode .creditAccount (cell fields Column.creditAccount.index)
      let tax ← readCode .taxCode (cell fields Column.taxCode.index)
      let postedEur ← readAmount .amountEur (cell fields Column.amountEur.index)
      return ⟨documentDay, entryDay, cell fields 2, cell fields 3, cell fields 4, posted, debit,
        credit, tax, cell fields 9, cell fields 10, postedEur, cell fields 12⟩) := by
  match fields, h with
  | [c0, c1, c2, c3, c4, c5, c6, c7, c8, c9, c10, c11, c12], _ =>
    have hcontinues : continues [c0, c1, c2, c3, c4, c5, c6, c7, c8, c9, c10, c11, c12] =
        (c0 == "" && c1 == "" && c2 == "" && c3 == "") := by
      simp [continues, Bool.and_assoc]
    simp only [ofFields, readDay, hcontinues]
    cases c0 == "" && c1 == "" && c2 == "" && c3 == "" with
    | true => rfl
    | false => rfl

theorem firstFault?_eq_or (fields : List String) :
    firstFault? fields =
      (Column.documentDate.faultIn? fields).or ((Column.entryDate.faultIn? fields).or
        ((Column.amount.faultIn? fields).or ((Column.debitAccount.faultIn? fields).or
          ((Column.creditAccount.faultIn? fields).or ((Column.taxCode.faultIn? fields).or
            ((Column.amountEur.faultIn? fields).or none)))))) := by
  have hcons : ∀ (column : Column) (columns : List Column),
      (column :: columns).findSome? (Column.faultIn? fields) =
        (column.faultIn? fields).or (columns.findSome? (Column.faultIn? fields)) := by
    intro column columns
    rw [List.findSome?_cons]
    cases column.faultIn? fields with
    | none => rfl
    | some fault => rfl
  simp only [firstFault?, Column.all, hcons, List.findSome?_nil]

/-- The reader of a row stops at the first fault of its columns. -/
theorem ofFields_failsWith {fields : List String} (h : fields.length = 13) :
    FailsWith (firstFault? fields) (ofFields fields) := by
  rw [ofFields_eq h, firstFault?_eq_or]
  refine (readDay_failsWith fields .documentDate (.inl rfl)).bind fun documentDay ↦ ?_
  refine (readDay_failsWith fields .entryDate (.inr rfl)).bind fun entryDay ↦ ?_
  refine (readAmount_failsWith fields .amount (.inl rfl)).bind fun posted ↦ ?_
  refine (readCode_failsWith fields .debitAccount (.inl rfl)).bind fun debit ↦ ?_
  refine (readCode_failsWith fields .creditAccount (.inr (.inl rfl))).bind fun credit ↦ ?_
  refine (readCode_failsWith fields .taxCode (.inr (.inr rfl))).bind fun tax ↦ ?_
  exact (readAmount_failsWith fields .amountEur (.inr rfl)).bind fun postedEur ↦ .pure _

/-! ### What a row states -/

/-- The day that a column for dates states. -/
def Dated (fields : List String) (i : Nat) : Option Date → Prop
  | none => continues fields = true
  | some day => continues fields = false ∧ Date.ofDelimited '.' (cell fields i) = .ok day

/-- The booking holds what the columns of the row state. -/
structure ReadFrom (b : Booking) (fields : List String) : Prop where
  documentDate : Dated fields 0 b.documentDate
  entryDate : Dated fields 1 b.entryDate
  numberRange : b.numberRange = cell fields 2
  number : b.number = cell fields 3
  text : b.text = cell fields 4
  amount : StatesAmount (cell fields 5) b.amount
  debitAccount : StatesCode (cell fields 6) b.debitAccount
  creditAccount : StatesCode (cell fields 7) b.creditAccount
  taxCode : StatesCode (cell fields 8) b.taxCode
  costUnit1 : b.costUnit1 = cell fields 9
  costUnit2 : b.costUnit2 = cell fields 10
  amountEur : StatesAmount (cell fields 11) b.amountEur
  currency : b.currency = cell fields 12

theorem dated_of_readDay {fields : List String} {column : Column} {day? : Option Date}
    (h : readDay fields column = .ok day?) : Dated fields column.index day? := by
  rw [readDay] at h
  split at h
  · next hcontinues =>
      cases h
      exact hcontinues
  · next hcontinues =>
      obtain ⟨day, hday, rfl⟩ := Fault.map_eq_ok_iff.mp h
      refine ⟨Bool.eq_false_iff.mpr hcontinues, ?_⟩
      rw [readDate] at hday
      cases hread : Date.ofDelimited '.' (cell fields column.index) with
      | ok day' =>
          rw [hread] at hday
          cases hday
          rfl
      | error cause =>
          rw [hread] at hday
          cases hday

theorem statesAmount_of_readAmount {column : Column} {raw : String} {amount : Decimal}
    (h : readAmount column raw = .ok amount) : StatesAmount raw amount := by
  rw [readAmount_eq] at h
  split at h
  · next hamount =>
      cases h
      exact amount?_eq_some_iff.mp hamount
  · cases h

theorem statesCode_of_readCode {column : Column} {raw : String} {code : Int}
    (h : readCode column raw = .ok code) : StatesCode raw code := by
  rw [readCode_eq] at h
  split at h
  · next hcode =>
      cases h
      exact code?_eq_some_iff.mp hcode
  · cases h

/-- Every part of a booking is what its column states. -/
theorem readFrom_of_ofFields {fields : List String} (hlength : fields.length = 13) {b : Booking}
    (h : ofFields fields = .ok b) : b.ReadFrom fields := by
  rw [ofFields_eq hlength] at h
  obtain ⟨documentDay, hdocument, h⟩ := Fault.bind_eq_ok_iff.mp h
  obtain ⟨entryDay, hentry, h⟩ := Fault.bind_eq_ok_iff.mp h
  obtain ⟨posted, hposted, h⟩ := Fault.bind_eq_ok_iff.mp h
  obtain ⟨debit, hdebit, h⟩ := Fault.bind_eq_ok_iff.mp h
  obtain ⟨credit, hcredit, h⟩ := Fault.bind_eq_ok_iff.mp h
  obtain ⟨tax, htax, h⟩ := Fault.bind_eq_ok_iff.mp h
  obtain ⟨postedEur, heur, h⟩ := Fault.bind_eq_ok_iff.mp h
  cases h
  have hdocument := dated_of_readDay hdocument
  have hentry := dated_of_readDay hentry
  exact
    { documentDate := hdocument
      entryDate := hentry
      numberRange := rfl
      number := rfl
      text := rfl
      amount := statesAmount_of_readAmount hposted
      debitAccount := statesCode_of_readCode hdebit
      creditAccount := statesCode_of_readCode hcredit
      taxCode := statesCode_of_readCode htax
      costUnit1 := rfl
      costUnit2 := rfl
      amountEur := statesAmount_of_readAmount heur
      currency := rfl }

/-- The columns to the right of the leftmost fault have no part in it. -/
theorem firstFault?_congr {fields fields' : List String} {column : Column} {cause : Fault}
    (h : firstFault? fields = some (.invalidField column cause))
    (hcontinues : continues fields' = continues fields)
    (hcells : ∀ i ≤ column.index, cell fields' i = cell fields i) :
    firstFault? fields' = some (.invalidField column cause) := by
  obtain ⟨_, _, heq, hcause, hleft⟩ := firstFault?_eq_some_iff.mp h
  cases heq
  refine firstFault?_eq_some_iff.mpr ⟨column, cause, rfl, ?_, fun other hlt ↦ ?_⟩
  · rw [Column.causeIn?_congr hcontinues (hcells _ (Nat.le_refl _)), hcause]
  · rw [Column.causeIn?_congr hcontinues (hcells _ (Nat.le_of_lt hlt)), hleft other hlt]

/-- A row of another width is refused as a whole.  Otherwise it is read if and only if no column
has a fault, and what is read is what the columns state; or else the leftmost fault is the answer,
whatever stands to the right of it. -/
theorem ofFields_outcome (fields : List String) :
    (fields.length ≠ 13 → ofFields fields = .error (.columnCount 13 fields.length)) ∧
    (fields.length = 13 →
      ((∃ b, ofFields fields = .ok b) ↔ ∀ column : Column, column.causeIn? fields = none) ∧
      (∀ b, ofFields fields = .ok b → b.ReadFrom fields) ∧
      ∀ fault, ofFields fields = .error fault →
        ∃ (column : Column) (cause : Fault), fault = .invalidField column cause ∧
          column.causeIn? fields = some cause ∧
          (∀ other : Column, other.index < column.index → other.causeIn? fields = none) ∧
          ∀ fields', fields'.length = 13 → continues fields' = continues fields →
            (∀ i ≤ column.index, cell fields' i = cell fields i) →
              ofFields fields' = .error fault) := by
  refine ⟨ofFields_of_length_ne, fun hlength ↦ ?_⟩
  have hfails := ofFields_failsWith hlength
  refine ⟨hfails.ok_iff.trans firstFault?_eq_none_iff, fun b ↦ readFrom_of_ofFields hlength,
    fun fault hfault ↦ ?_⟩
  have hfirst := hfails.error_iff.mp hfault
  obtain ⟨column, cause, rfl, hcause, hleft⟩ := firstFault?_eq_some_iff.mp hfirst
  refine ⟨column, cause, rfl, hcause, hleft, fun fields' hlength' hcontinues hcells ↦ ?_⟩
  exact (ofFields_failsWith hlength').error_iff.mpr (firstFault?_congr hfirst hcontinues hcells)

-- a fault in the credit account shows once there is none to its left
example :
    ofFields ["", "", "", "7", "", "6", "1", "x", "", "", "", "5", ""] =
      .error (.invalidField .documentDate (.invalidDate "")) ∧
    ofFields ["", "", "", "", "", "six ", "1", "x", "", "", "", "5", ""] =
      .error (.invalidField .amount (.malformedNumber "six ")) ∧
    ofFields ["", "", "", "", "", "6", "1", " x", "", "", "", "", ""] =
      .error (.invalidField .creditAccount (.malformedNumber "x")) :=
  ⟨rfl, rfl, rfl⟩

end Booking

end PaperTrail
