import Mathlib.Data.List.Basic
import PaperTrail.Proofs.Booking.Row

/-!
# Amounts

An amount is written with points between the digits in front of the comma.  They have no part in
its value.  Main statement: the column of an amount is read exactly, whatever its number of digits,
and a text without digits or with two commas is refused in a row that has no other fault.
-/

namespace PaperTrail

open Text

namespace Numeral

theorem point_mem_splitSign {cs : List Char} (h : '.' ∈ cs) : '.' ∈ (splitSign cs).2 := by
  unfold splitSign
  split
  · simpa using h
  · simpa using h
  · exact h

theorem nat?_eq_none_of_point {cs : List Char} (h : '.' ∈ cs) : nat? cs = none := by
  have hall : cs.all Char.isDigit = false :=
    List.all_eq_false.mpr ⟨'.', h, by decide⟩
  simp [nat?, hall]

theorem signed?_eq_none_of_point {cs : List Char} (h : '.' ∈ cs) (bits : Nat) :
    signed? bits cs = none := by
  simp [signed?, nat?_eq_none_of_point (point_mem_splitSign h)]

end Numeral

namespace Decimal

open Numeral

/-! ### Texts with too many points -/

theorem grouped?_eq_none_of_point {cs : List Char} (h : '.' ∈ cs) : grouped? cs = none := by
  cases cs with
  | nil => rfl
  | cons c cs =>
      rw [grouped?, if_neg]
      intro hdigits
      simp only [Bool.and_eq_true, List.all_eq_true] at hdigits
      rcases List.mem_cons.mp h with rfl | hmem
      · exact absurd hdigits.1 (by decide)
      · exact absurd (hdigits.2 _ hmem) (by decide)

theorem units?_eq_none_of_point {cs : List Char} (h : '.' ∈ cs) : units? cs = none := by
  simp [units?, grouped?_eq_none_of_point (point_mem_splitSign h)]

theorem mantissa?_eq_none_of_points {cs : List Char} (h : 2 ≤ cs.count '.') :
    mantissa? cs = none := by
  have hmem : '.' ∈ cs := List.count_pos_iff.mp (by omega)
  rw [mantissa?]
  cases hsplit : splitFirst '.' cs with
  | none => exact absurd hmem (splitFirst_eq_none_iff.mp hsplit)
  | some halves =>
      obtain ⟨whole, fraction⟩ := halves
      obtain ⟨rfl, hwhole⟩ := splitFirst_eq_some_iff.mp hsplit
      -- the second point stands behind the first one
      rw [List.count_append, List.count_eq_zero_of_not_mem hwhole, List.count_cons_self] at h
      have hfraction : '.' ∈ fraction := List.count_pos_iff.mp (by omega)
      simp [units?_eq_none_of_point (List.mem_append_right whole hfraction)]

theorem exponent?_eq_none_of_point {mark : Char} {cs : List Char} (h : '.' ∈ cs) :
    exponent? (mark :: cs) = none :=
  signed?_eq_none_of_point h 128

/-- A text with two points is no number, wherever they stand. -/
theorem ofChars?_eq_none_of_points {cs : List Char} (h : 2 ≤ cs.count '.') :
    ofChars? cs = none := by
  rw [ofChars?]
  generalize hnot : (fun c ↦ !isExponentMark c) = p
  have hcut : cs.takeWhile p ++ cs.dropWhile p = cs := List.takeWhile_append_dropWhile
  rw [← hcut, List.count_append] at h
  cases hexponent : cs.dropWhile p with
  | nil =>
      rw [hexponent, List.count_nil, Nat.add_zero] at h
      simp [mantissa?_eq_none_of_points h]
  | cons mark rest =>
      by_cases hrest : '.' ∈ rest
      · simp [exponent?_eq_none_of_point hrest]
      · -- the mark is no point, so both points stand in front of it
        have hmark : mark ≠ '.' := by
          rintro rfl
          have hhead := List.head?_dropWhile_not p cs
          rw [hexponent, ← hnot, List.head?_cons] at hhead
          exact absurd hhead (by decide)
        rw [hexponent, List.count_cons_of_ne hmark, List.count_eq_zero_of_not_mem hrest,
          Nat.add_zero] at h
        simp [mantissa?_eq_none_of_points h]

/-! ### Digits and at most one point -/

theorem units?_digits (sign : Sign) {ds : List Char} (h : ∀ c ∈ ds, c.isDigit = true)
    (hne : ds ≠ []) :
    units? (sign.chars ++ ds) = some (sign.factor * Nat.ofDigitChars 10 ds 0) := by
  rw [units?, splitSign_chars sign h]
  cases ds with
  | nil => exact absurd rfl hne
  | cons d ds =>
      obtain ⟨hd, hds⟩ := List.forall_mem_cons.mp h
      have hall : (ds.all fun c ↦ c.isDigit || c == '_') = true :=
        List.all_eq_true.mpr fun c hc ↦ by simp [hds c hc]
      have hfilter : (d :: ds).filter Char.isDigit = d :: ds := List.filter_eq_self.mpr h
      simp [grouped?, hd, hall, hfilter, signed_negative]

theorem places_digits {ds : List Char} (h : ∀ c ∈ ds, c.isDigit = true) :
    places ds = ds.length := by
  rw [places, List.countP_eq_length]
  intro c hc
  exact decide_eq_true (ne_of_isDigit (h c hc) (by decide))

theorem point_notMem_digits (sign : Sign) {ds : List Char} (h : ∀ c ∈ ds, c.isDigit = true) :
    '.' ∉ sign.chars ++ ds := by
  intro hmem
  rcases List.mem_append.mp hmem with hsign | hds
  · cases sign <;> simp [Sign.chars] at hsign
  · exact absurd (h _ hds) (by decide)

theorem mantissa?_whole (sign : Sign) {whole : List Char} (h : ∀ c ∈ whole, c.isDigit = true)
    (hne : whole ≠ []) :
    mantissa? (sign.chars ++ whole) =
      some (sign.factor * Nat.ofDigitChars 10 whole 0, 0) := by
  rw [mantissa?, splitFirst_eq_none_iff.mpr (point_notMem_digits sign h)]
  simp [units?_digits sign h hne]

/-- The digits on both sides of the point are one number, with a place for each digit behind it.
-/
theorem mantissa?_fraction (sign : Sign) {whole fraction : List Char}
    (hwhole : ∀ c ∈ whole, c.isDigit = true) (hfraction : ∀ c ∈ fraction, c.isDigit = true)
    (hne : whole ++ fraction ≠ []) :
    mantissa? (sign.chars ++ whole ++ '.' :: fraction) =
      some (sign.factor * Nat.ofDigitChars 10 (whole ++ fraction) 0,
        fraction.length) := by
  have hdigits : ∀ c ∈ whole ++ fraction, c.isDigit = true :=
    List.forall_mem_append.mpr ⟨hwhole, hfraction⟩
  rw [mantissa?, splitFirst_append fraction (point_notMem_digits sign hwhole)]
  simp only [List.append_assoc, units?_digits sign hdigits hne, places_digits hfraction,
    Option.map_some]

theorem ofChars?_of_no_mark {cs : List Char} (h : ∀ c ∈ cs, isExponentMark c = false) :
    ofChars? cs = (mantissa? cs).bind fun mantissa ↦ ofMantissa? mantissa 0 := by
  have hall : ∀ c ∈ cs, (!isExponentMark c) = true := fun c hc ↦ by rw [h c hc]; rfl
  have hexponent := @List.dropWhile_append_of_pos _ _ cs [] hall
  have hbase := @List.takeWhile_append_of_pos _ _ cs [] hall
  rw [List.append_nil, List.dropWhile_nil] at hexponent
  rw [List.append_nil, List.takeWhile_nil, List.append_nil] at hbase
  rw [ofChars?, hexponent, hbase]
  rfl

theorem ofMantissa?_of_lt {units : Int} {places : Nat} (h : places < 1 <<< 63) :
    ofMantissa? (units, places) 0 = some ⟨units, places⟩ := by
  have hfits : fits 64 (places : Int) = true := by
    simp only [fits, Int.ofNat_eq_natCast, Bool.and_eq_true, decide_eq_true_eq]
    omega
  simp [ofMantissa?, hfits]

end Decimal

namespace Booking

open Numeral

/-- An amount as it stands in a column.  There may be any points in front of the comma, which
itself may be missing. -/
structure WrittenAmount where
  before : List Char
  sign : Sign
  grouped : List Char
  fraction : Option (List Char)
  behind : List Char
  isBlank_before : ∀ c ∈ before, isBlank c = true
  isDigit_grouped : ∀ c ∈ grouped, c = '.' ∨ c.isDigit = true
  isDigit_fraction : ∀ c ∈ fraction.getD [], c.isDigit = true
  isBlank_behind : ∀ c ∈ behind, isBlank c = true
  hasDigit : (grouped.filter fun c ↦ c ≠ '.') ++ fraction.getD [] ≠ []

theorem map_commas_digits {ds : List Char} (h : ∀ c ∈ ds, c.isDigit = true) :
    (ds.map fun c ↦ if c = ',' then '.' else c) = ds :=
  (List.map_congr_left fun c hc ↦ if_neg (ne_of_isDigit (h c hc) (by decide))).trans
    (List.map_id' ds)

theorem filter_points_digits {ds : List Char} (h : ∀ c ∈ ds, c.isDigit = true) :
    (ds.filter fun c ↦ c ≠ '.') = ds :=
  List.filter_eq_self.mpr fun c hc ↦ decide_eq_true (ne_of_isDigit (h c hc) (by decide))

namespace WrittenAmount

def whole (w : WrittenAmount) : List Char := w.grouped.filter fun c ↦ c ≠ '.'

def places (w : WrittenAmount) : List Char := w.fraction.getD []

/-- The fraction behind the given mark. -/
def marked (w : WrittenAmount) (mark : Char) : List Char :=
  match w.fraction with
  | none => []
  | some ds => mark :: ds

def core (w : WrittenAmount) : List Char := w.sign.chars ++ w.grouped ++ w.marked ','

def text (w : WrittenAmount) : String := String.ofList (w.before ++ w.core ++ w.behind)

def value (w : WrittenAmount) : Decimal :=
  ⟨w.sign.factor * Nat.ofDigitChars 10 (w.whole ++ w.places) 0, w.places.length⟩

variable (w : WrittenAmount)

theorem isDigit_whole : ∀ c ∈ w.whole, c.isDigit = true := by
  intro c hc
  obtain ⟨hmem, hpoint⟩ := List.mem_filter.mp hc
  exact (w.isDigit_grouped c hmem).resolve_left (of_decide_eq_true hpoint)

theorem mem_core {c : Char} (h : c ∈ w.core) :
    c ∈ ['+', '-', '.', ','] ∨ c.isDigit = true := by
  rcases List.mem_append.mp h with h | hfraction
  · rcases List.mem_append.mp h with hsign | hgrouped
    · left
      cases hw : w.sign <;> simp_all [Sign.chars]
    · rcases w.isDigit_grouped c hgrouped with rfl | hdigit
      · exact .inl (by decide)
      · exact .inr hdigit
  · rw [marked] at hfraction
    split at hfraction
    · cases hfraction
    · next ds hds =>
        rcases List.mem_cons.mp hfraction with rfl | hmem
        · exact .inl (by decide)
        · exact .inr (w.isDigit_fraction c (by rw [hds]; exact hmem))

theorem trim_text : trim w.text.toList = w.core := by
  have hcore : ∀ c ∈ w.core, isBlank c = false := by
    intro c hc
    rcases w.mem_core hc with hmark | hdigit
    · simp only [List.mem_cons, List.not_mem_nil, or_false] at hmark
      rcases hmark with rfl | rfl | rfl | rfl <;> decide
    · exact not_isBlank_of_isDigit hdigit
  rw [text, String.toList_ofList, trim_surrounded w.isBlank_before w.isBlank_behind,
    trim_of_forall hcore]

/-- What the reader is left with is the sign, the digits and one point. -/
theorem plainAmount_text :
    plainAmount w.text.toList = w.sign.chars ++ w.whole ++ w.marked '.' := by
  have hsign : ((w.sign.chars.filter fun c ↦ c ≠ '.').map fun c ↦ if c = ',' then '.' else c) =
      w.sign.chars := by
    cases w.sign <;> rfl
  have hmarked : (((w.marked ',').filter fun c ↦ c ≠ '.').map fun c ↦
      if c = ',' then '.' else c) = w.marked '.' := by
    cases hfraction : w.fraction with
    | none => simp [marked, hfraction]
    | some ds =>
        have hds : ∀ c ∈ ds, c.isDigit = true := fun c hc ↦
          w.isDigit_fraction c (by rwa [hfraction])
        simp only [marked, hfraction]
        rw [List.filter_cons_of_pos (by decide), List.map_cons, if_pos rfl,
          filter_points_digits hds, map_commas_digits hds]
  rw [plainAmount, trim_text, core, List.filter_append, List.filter_append, List.map_append,
    List.map_append, hsign, hmarked, ← whole, map_commas_digits w.isDigit_whole]

theorem length_places_le : w.places.length ≤ w.text.length := by
  have hmarked : w.places.length ≤ (w.marked ',').length := by
    rw [places, marked]
    cases w.fraction with
    | none => exact Nat.le_refl 0
    | some ds => exact Nat.le_succ ds.length
  rw [text, String.length_ofList, core]
  simp only [List.length_append]
  omega

theorem not_isExponentMark {c : Char} (h : c ∈ plainAmount w.text.toList) :
    Decimal.isExponentMark c = false := by
  rw [plainAmount, trim_text] at h
  obtain ⟨d, hd, rfl⟩ := List.mem_map.mp h
  rcases w.mem_core (List.mem_filter.mp hd).1 with hmark | hdigit
  · simp only [List.mem_cons, List.not_mem_nil, or_false] at hmark
    rcases hmark with rfl | rfl | rfl | rfl <;> decide
  · rw [if_neg (ne_of_isDigit hdigit (by decide))]
    simp [Decimal.isExponentMark, ne_of_isDigit hdigit]

/-- The points among the digits have no part in the value. -/
theorem amount?_text (hlength : w.text.length < 1 <<< 63) : amount? w.text = some w.value := by
  have hplaces : w.places.length < 1 <<< 63 := Nat.lt_of_le_of_lt w.length_places_le hlength
  rw [amount?, Decimal.ofChars?_of_no_mark fun c ↦ w.not_isExponentMark, plainAmount_text, value]
  have hdigit := w.hasDigit
  cases hfraction : w.fraction with
  | none =>
      have hwhole : w.whole ≠ [] := by simpa [whole, hfraction] using hdigit
      simp only [marked, places, hfraction, List.append_nil, Option.getD_none,
        Decimal.mantissa?_whole w.sign w.isDigit_whole hwhole]
      rw [Option.bind_some, Decimal.ofMantissa?_of_lt (by decide)]
      rfl
  | some ds =>
      have hds : ∀ c ∈ ds, c.isDigit = true := fun c hc ↦
        w.isDigit_fraction c (by rwa [hfraction])
      rw [hfraction] at hdigit
      simp only [marked, places, hfraction, Option.getD_some,
        Decimal.mantissa?_fraction w.sign w.isDigit_whole hds hdigit]
      rw [places, hfraction, Option.getD_some] at hplaces
      rw [Option.bind_some, Decimal.ofMantissa?_of_lt hplaces]

end WrittenAmount

/-- Every comma becomes a point, and no point is left besides. -/
theorem count_plainAmount (cs : List Char) : (plainAmount cs).count '.' = (trim cs).count ',' := by
  rw [plainAmount, List.count_eq_countP, List.count_eq_countP, List.countP_map,
    List.countP_filter]
  apply List.countP_congr
  intro c hc
  by_cases hcomma : c = ','
  · subst hcomma
    simp
  · simp [hcomma]

/-- No amount has points alone, nor two commas. -/
theorem amount?_eq_none {raw : String}
    (h : (∀ c ∈ trim raw.toList, c = '.') ∨ 2 ≤ (trim raw.toList).count ',') :
    amount? raw = none := by
  rcases h with hpoints | hcommas
  · have hplain : plainAmount raw.toList = [] := by
      rw [plainAmount, List.map_eq_nil_iff, List.filter_eq_nil_iff]
      intro c hc
      simp [hpoints c hc]
    rw [amount?, hplain]
    rfl
  · exact Decimal.ofChars?_eq_none_of_points (by rwa [count_plainAmount])

def amountIn (b : Booking) (column : Column) : Decimal :=
  if column = .amountEur then b.amountEur else b.amount

theorem ReadFrom.amountIn {b : Booking} {fields : List String} (h : b.ReadFrom fields)
    {column : Column} (hcolumn : column = .amount ∨ column = .amountEur) :
    StatesAmount (cell fields column.index) (b.amountIn column) := by
  rcases hcolumn with rfl | rfl
  · exact h.amount
  · exact h.amountEur

theorem causeIn?_of_amount (fields : List String) {column : Column}
    (hcolumn : column = .amount ∨ column = .amountEur) :
    column.causeIn? fields =
      if (amount? (cell fields column.index)).isSome then none
      else some (.malformedNumber (cell fields column.index)) := by
  rcases hcolumn with rfl | rfl
  all_goals
    rw [Column.causeIn?_of_isRead rfl]
    simp only [Column.cause?, exists_statesAmount_iff]

/-- In a row without another fault, an amount is read as its digits say, wherever points stand
among those in front of the comma; no text in memory is too long for that.  Without a digit, or
with two commas, it is refused as it stands in the row. -/
theorem ofFields_amount {fields : List String} {column : Column}
    (hlength : fields.length = 13) (hcolumn : column = .amount ∨ column = .amountEur)
    (hothers : ∀ other : Column, other ≠ column → other.causeIn? fields = none) :
    (∀ w : WrittenAmount, w.text.length < 1 <<< 63 → cell fields column.index = w.text →
      ∃ b, ofFields fields = .ok b ∧ b.amountIn column = w.value) ∧
    (∀ raw, cell fields column.index = raw →
      (trim raw.toList = [] ∨ (∀ c ∈ trim raw.toList, c = '.') ∨
        2 ≤ (trim raw.toList).count ',') →
      ofFields fields = .error (.invalidField column (.malformedNumber raw))) := by
  have hfails := ofFields_failsWith hlength
  have hcause := causeIn?_of_amount fields hcolumn
  refine ⟨fun w hsize hcell ↦ ?_, fun raw hcell hraw ↦ ?_⟩
  · have hamount : amount? (cell fields column.index) = some w.value := by
      rw [hcell]
      exact w.amount?_text hsize
    have hnone : ∀ other : Column, other.causeIn? fields = none := by
      intro other
      by_cases hother : other = column
      · rw [hother, hcause, hamount]
        rfl
      · exact hothers other hother
    obtain ⟨b, hb⟩ := hfails.ok_iff.mpr (firstFault?_eq_none_iff.mpr hnone)
    have hread := (readFrom_of_ofFields hlength hb).amountIn hcolumn
    exact ⟨b, hb, hread.unique (amount?_eq_some_iff.mp hamount)⟩
  · have hpoints : (∀ c ∈ trim raw.toList, c = '.') ∨ 2 ≤ (trim raw.toList).count ',' := by
      rcases hraw with hempty | hraw
      · exact .inl (by simp [hempty])
      · exact hraw
    rw [hcell, amount?_eq_none hpoints] at hcause
    refine hfails.error_iff.mpr (firstFault?_eq_some_iff.mpr ⟨column, _, rfl, hcause, ?_⟩)
    exact fun other hlt ↦ hothers other fun heq ↦ Nat.ne_of_lt hlt (congrArg Column.index heq)

namespace Sample

/-- A negative amount with points in front of, between and behind its digits. -/
def groupedAmount : WrittenAmount where
  before := ['\u3000']
  sign := .minus
  grouped := ['.', '1', '.', '2', '3', '4']
  fraction := some ['5', '0']
  behind := [' ']
  isBlank_before := List.forall_mem_singleton.mpr (by decide)
  isDigit_grouped := by simp [Char.isDigit]
  isDigit_fraction := by simp
  isBlank_behind := List.forall_mem_singleton.mpr (by decide)
  hasDigit := by decide

/-- A row that states nothing but its two amounts. -/
def amounts (amount amountEur : String) : List String :=
  ["", "", "", "", "", amount, "", "", "", "", "", amountEur, ""]

/-- With other amounts in their places such a row has no fault at all. -/
theorem causeIn?_amounts_zero (column : Column) : column.causeIn? (amounts "0" "0") = none :=
  firstFault?_eq_none_iff.mp ((ofFields_failsWith rfl).ok_iff.mp ⟨_, rfl⟩) column

theorem causeIn?_amounts {amount amountEur : String} {column : Column}
    (hamount : column = .amount → amount = "0") (heur : column = .amountEur → amountEur = "0") :
    column.causeIn? (amounts amount amountEur) = none := by
  have hcell : cell (amounts amount amountEur) column.index =
      cell (amounts "0" "0") column.index := by
    cases column with
    | amount => exact hamount rfl
    | amountEur => exact heur rfl
    | _ => rfl
  have hcontinues : continues (amounts amount amountEur) = continues (amounts "0" "0") := rfl
  rw [Column.causeIn?_congr hcontinues hcell, causeIn?_amounts_zero]

end Sample

open Sample in
/-- A grouped amount between blanks is read, and one with two commas is refused. -/
theorem ofFields_amount_grouped :
    (∃ b, ofFields (amounts "\u3000-.1.234,50 " "0") = .ok b ∧
      b.amountIn .amount = ⟨-123450, 2⟩) ∧
    ofFields (amounts "0" "1,0e1,0 ") =
      .error (.invalidField .amountEur (.malformedNumber "1,0e1,0 ")) := by
  have hothers : ∀ other : Column, other ≠ .amount →
      other.causeIn? (amounts "\u3000-.1.234,50 " "0") = none := fun other hother ↦
    causeIn?_amounts (fun heq ↦ absurd heq hother) fun _ ↦ rfl
  have hothers' : ∀ other : Column, other ≠ .amountEur →
      other.causeIn? (amounts "0" "1,0e1,0 ") = none := fun other hother ↦
    causeIn?_amounts (fun _ ↦ rfl) fun heq ↦ absurd heq hother
  have hcell : cell (amounts "\u3000-.1.234,50 " "0") Column.amount.index = groupedAmount.text :=
    rfl
  have hvalue : groupedAmount.value = ⟨-123450, 2⟩ := rfl
  obtain ⟨b, hb, hamount⟩ :=
    (ofFields_amount rfl (.inl rfl) hothers).1 groupedAmount (by decide) hcell
  exact ⟨⟨b, hb, hamount.trans hvalue⟩,
    (ofFields_amount rfl (.inr rfl) hothers').2 _ rfl (.inr (.inr (by decide)))⟩

end Booking

end PaperTrail
