import PaperTrail.Reconciliation

/-!
# What the documents say about one booking

A verdict on a booking depends on that booking and the documents alone.  Both passes of a
reconciliation together give each booking its verdict, unless a document number is ambiguous; then
the first ambiguous booking decides the answer.  This is the rule that the passes follow, without
their worksheet.
-/

namespace PaperTrail.Reconciliation

def bearers (v : Vocabulary) (documents : List Document) (b : Booking) : List Document :=
  documents.filter fun d ↦ ⟨v.invoiceNumber, b.fullNumber⟩ ∈ d.values

/-- The statements that the booking is on.  Without a date it is on none. -/
def statements (v : Vocabulary) (documents : List Document) (b : Booking) : List Document :=
  match b.documentDate with
  | some day => searchStatements v documents day b.debitAccount b.creditAccount
  | none => []

def isNumbered (b : Booking) : Bool := !b.isEmpty && b.fullNumber != ""

def isAmbiguous (v : Vocabulary) (documents : List Document) (b : Booking) : Bool :=
  isNumbered b && 2 ≤ (bearers v documents b).length

def soleBearer? (v : Vocabulary) (documents : List Document) (b : Booking) : Option Document :=
  if isNumbered b then
    match bearers v documents b with
    | [d] => some d
    | _ => none
  else none

/-- The statement for a booking that no document bears the number of. -/
def statement? (v : Vocabulary) (documents : List Document) (b : Booking) : Option Document :=
  if b.isEmpty || (soleBearer? v documents b).isSome then none
  else (statements v documents b).head?

def verdict (v : Vocabulary) (documents : List Document) (b : Booking) :
    Option (Evidence × Document) :=
  match soleBearer? v documents b with
  | some d => some (.documentNumber, d)
  | none => (statement? v documents b).map (Prod.mk .statement)

def foundBy? (v : Vocabulary) (documents : List Document) : Evidence → Booking → Option Document
  | .documentNumber => soleBearer? v documents
  | .statement => statement? v documents

def matchesOf (evidence : Evidence) (found : Booking → Option Document)
    (bookings : List Booking) : List Match :=
  bookings.filterMap fun b ↦ (found b).map fun d ↦ ⟨b, d, evidence⟩

def isUnmatched (v : Vocabulary) (documents : List Document) (b : Booking) : Bool :=
  !b.isEmpty && (verdict v documents b).isNone

def sheet (v : Vocabulary) (documents : List Document) (bookings : List Booking) : Worksheet :=
  bookings.map fun b ↦ ⟨b, verdict v documents b⟩

def numberEvents (v : Vocabulary) (documents : List Document) (b : Booking) : List Event :=
  (soleBearer? v documents b).toList.map fun d ↦ .matchedByNumber b.fullNumber d.filename

def statementEvents (v : Vocabulary) (documents : List Document) (b : Booking) : List Event :=
  match b.documentDate, statement? v documents b with
  | some day, some d => [.matchedByStatement day d.filename (statements v documents b).length]
  | _, _ => []

section Passes

variable {v : Vocabulary} {documents : List Document} {b : Booking}

theorem soleBearer?_of_not_isNumbered (h : isNumbered b = false) :
    soleBearer? v documents b = none := by
  simp [soleBearer?, h]

theorem soleBearer?_of_nil (h : bearers v documents b = []) :
    soleBearer? v documents b = none := by
  simp [soleBearer?, h]

theorem soleBearer?_of_singleton {d : Document} (hb : isNumbered b = true)
    (h : bearers v documents b = [d]) : soleBearer? v documents b = some d := by
  simp [soleBearer?, hb, h]

theorem isAmbiguous_of_two {d e : Document} {rest : List Document} (hb : isNumbered b = true)
    (h : bearers v documents b = d :: e :: rest) : isAmbiguous v documents b = true := by
  simp [isAmbiguous, hb, h]

/-- The first pass on a fresh line, in terms of the bearers. -/
theorem settleByNumber_fresh (v : Vocabulary) (documents : List Document) (b : Booking) :
    settleByNumber v documents ⟨b, none⟩ =
      if isNumbered b then
        match bearers v documents b with
        | [] => ⟨[], .ok ⟨b, none⟩⟩
        | [d] => ⟨[.matchedByNumber b.fullNumber d.filename],
            .ok ⟨b, some (.documentNumber, d)⟩⟩
        | several =>
            ⟨[.numberOnSeveralFiles b.fullNumber (several.map Document.filename)],
              .error (.duplicateDocumentNumber b.fullNumber (several.map Document.filename))⟩
      else ⟨[], .ok ⟨b, none⟩⟩ := by
  simp only [settleByNumber, search_numberQuery, Line.isOpen, Option.isNone_none, Bool.true_and]
  rfl

theorem settleByNumber_of_not_isAmbiguous (h : isAmbiguous v documents b = false) :
    settleByNumber v documents ⟨b, none⟩ =
      ⟨numberEvents v documents b,
        .ok ⟨b, (soleBearer? v documents b).map (Prod.mk .documentNumber)⟩⟩ := by
  rw [settleByNumber_fresh]
  cases hb : isNumbered b with
  | false => simp [numberEvents, soleBearer?_of_not_isNumbered hb]
  | true =>
      rcases hbearers : bearers v documents b with _ | ⟨d, _ | ⟨e, rest⟩⟩
      · simp [numberEvents, soleBearer?_of_nil hbearers]
      · simp [numberEvents, soleBearer?_of_singleton hb hbearers]
      · rw [isAmbiguous_of_two hb hbearers] at h
        cases h

theorem settleByNumber_of_isAmbiguous (h : isAmbiguous v documents b = true) :
    settleByNumber v documents ⟨b, none⟩ =
      ⟨[.numberOnSeveralFiles b.fullNumber ((bearers v documents b).map Document.filename)],
        .error (.duplicateDocumentNumber b.fullNumber
          ((bearers v documents b).map Document.filename))⟩ := by
  rw [isAmbiguous, Bool.and_eq_true, decide_eq_true_eq] at h
  rw [settleByNumber_fresh, if_pos h.1]
  rcases hbearers : bearers v documents b with _ | ⟨d, _ | ⟨e, rest⟩⟩
  · simp [hbearers] at h
  · simp [hbearers] at h
  · rfl

theorem statement?_of_soleBearer? {d : Document} (h : soleBearer? v documents b = some d) :
    statement? v documents b = none := by
  simp [statement?, h]

theorem statement?_of_isEmpty (h : b.isEmpty = true) : statement? v documents b = none := by
  simp [statement?, h]

theorem statement?_of_open (hempty : b.isEmpty = false) (h : soleBearer? v documents b = none) :
    statement? v documents b = (statements v documents b).head? := by
  simp [statement?, hempty, h]

theorem verdict_of_some {d : Document} (h : soleBearer? v documents b = some d) :
    verdict v documents b = some (.documentNumber, d) := by
  unfold verdict
  rw [h]

theorem verdict_of_none (h : soleBearer? v documents b = none) :
    verdict v documents b = (statement? v documents b).map (Prod.mk .statement) := by
  unfold verdict
  rw [h]

/-- A document settles a booking by number exactly when no other bears that number. -/
theorem soleBearer?_eq_some_iff {d : Document} :
    soleBearer? v documents b = some d ↔ isNumbered b = true ∧ bearers v documents b = [d] := by
  unfold soleBearer?
  split
  · next hb =>
      split
      · next e he => simp [hb, he]
      · next hne =>
          simp only [reduceCtorEq, false_iff, not_and]
          exact fun _ ↦ hne d
  · next hb => simp [hb]

/-- A statement settles what no number settled, and the first one counts. -/
theorem statement?_eq_some_iff {d : Document} :
    statement? v documents b = some d ↔
      b.isEmpty = false ∧ soleBearer? v documents b = none ∧
        (statements v documents b).head? = some d := by
  unfold statement?
  cases hempty : b.isEmpty with
  | true => simp
  | false =>
      cases soleBearer? v documents b with
      | some e => simp
      | none => simp

theorem isSome_statement?_iff :
    (statement? v documents b).isSome = true ↔
      b.isEmpty = false ∧ soleBearer? v documents b = none ∧ statements v documents b ≠ [] := by
  simp only [Option.isSome_iff_exists, statement?_eq_some_iff, exists_and_left, ← List.isSome_head?]

/-- A verdict names the evidence that found its document. -/
theorem verdict_eq_some_iff {evidence : Evidence} {d : Document} :
    verdict v documents b = some (evidence, d) ↔ foundBy? v documents evidence b = some d := by
  cases hsole : soleBearer? v documents b with
  | some e =>
      rw [verdict_of_some hsole]
      cases evidence with
      | documentNumber => simp [foundBy?, hsole]
      | statement => simp [foundBy?, statement?_of_soleBearer? hsole]
  | none =>
      rw [verdict_of_none hsole]
      cases evidence with
      | documentNumber => simp [foundBy?, hsole]
      | statement => simp [foundBy?]

theorem isUnmatched_eq_true_iff :
    isUnmatched v documents b = true ↔
      b.isEmpty = false ∧ soleBearer? v documents b = none ∧ statement? v documents b = none := by
  unfold isUnmatched
  cases hsole : soleBearer? v documents b with
  | some e => simp [verdict_of_some hsole]
  | none => simp [verdict_of_none hsole]

theorem mem_statements_iff {d : Document} :
    d ∈ statements v documents b ↔
      ∃ day, b.documentDate = some day ∧
        d ∈ searchStatements v documents day b.debitAccount b.creditAccount := by
  unfold statements
  cases b.documentDate with
  | none => simp
  | some day => simp

theorem statementEvents_of_none (h : statement? v documents b = none) :
    statementEvents v documents b = [] := by
  simp [statementEvents, h]

/-- The second pass on a line that the first one left open. -/
theorem settleByStatement_fresh (v : Vocabulary) (documents : List Document) {b : Booking}
    (hempty : b.isEmpty = false) (h : soleBearer? v documents b = none) :
    settleByStatement v documents ⟨b, none⟩ =
      ⟨statementEvents v documents b,
        .ok ⟨b, (statement? v documents b).map (Prod.mk .statement)⟩⟩ := by
  have hopen : Line.isOpen ⟨b, none⟩ = true := by simp [Line.isOpen, hempty]
  cases hday : b.documentDate with
  | none =>
      have hnone : statement? v documents b = none := by
        rw [statement?_of_open hempty h, statements, hday]
        rfl
      simp only [settleByStatement, hopen, hday, statementEvents_of_none hnone, hnone]
      rfl
  | some day =>
      have hstatements : statements v documents b =
          searchStatements v documents day b.debitAccount b.creditAccount := by
        rw [statements, hday]
      have hhead := statement?_of_open hempty h
      rw [hstatements] at hhead
      simp only [settleByStatement, hopen, hday, statementEvents, hstatements, hhead]
      cases searchStatements v documents day b.debitAccount b.creditAccount with
      | nil => rfl
      | cons d others => rfl

/-- After the second pass a line bears the verdict on its booking. -/
theorem settleByStatement_eq (v : Vocabulary) (documents : List Document) (b : Booking) :
    settleByStatement v documents
        ⟨b, (soleBearer? v documents b).map (Prod.mk .documentNumber)⟩ =
      ⟨statementEvents v documents b, .ok ⟨b, verdict v documents b⟩⟩ := by
  cases hsole : soleBearer? v documents b with
  | some d =>
      rw [verdict_of_some hsole, statementEvents_of_none (statement?_of_soleBearer? hsole)]
      simp [settleByStatement, Line.isOpen, Logged.pure_eq]
  | none =>
      rw [verdict_of_none hsole, Option.map_none]
      cases hempty : b.isEmpty with
      | true =>
          have hnone : statement? v documents b = none := statement?_of_isEmpty hempty
          rw [statementEvents_of_none hnone, hnone]
          simp [settleByStatement, Line.isOpen, hempty, Logged.pure_eq]
      | false => exact settleByStatement_fresh v documents hempty hsole

end Passes

section Worksheet

variable {v : Vocabulary} {documents : List Document}

theorem numbered_of_clear {bookings : List Booking}
    (h : ∀ b ∈ bookings, isAmbiguous v documents b = false) :
    Logged.each (settleByNumber v documents) (Worksheet.ofBookings bookings) =
      ⟨bookings.flatMap (numberEvents v documents),
        .ok (bookings.map fun b ↦
          ⟨b, (soleBearer? v documents b).map (Prod.mk .documentNumber)⟩)⟩ := by
  rw [Worksheet.ofBookings, Logged.each_map]
  exact Logged.each_of_ok fun b hb ↦ settleByNumber_of_not_isAmbiguous (h b hb)

/-- Without an ambiguous number, the passes give each booking its verdict. -/
theorem worksheet_of_clear {bookings : List Booking}
    (h : ∀ b ∈ bookings, isAmbiguous v documents b = false) :
    worksheet v bookings documents =
      ⟨bookings.flatMap (numberEvents v documents) ++
          bookings.flatMap (statementEvents v documents),
        .ok (sheet v documents bookings)⟩ := by
  have hsettled := Logged.each_of_ok fun b (_ : b ∈ bookings) ↦
    settleByStatement_eq v documents b
  rw [worksheet, numbered_of_clear h, Logged.bind_ok, Logged.each_map, hsettled, sheet]

/-- The first pass ends at the first ambiguous number. -/
theorem worksheet_of_isAmbiguous {before after : List Booking} {b : Booking}
    (hbefore : ∀ c ∈ before, isAmbiguous v documents c = false)
    (hb : isAmbiguous v documents b = true) :
    worksheet v (before ++ b :: after) documents =
      ⟨before.flatMap (numberEvents v documents) ++
          [.numberOnSeveralFiles b.fullNumber ((bearers v documents b).map Document.filename)],
        .error (.duplicateDocumentNumber b.fullNumber
          ((bearers v documents b).map Document.filename))⟩ := by
  have hnumbered := Logged.each_append_of_error
    (fun c hc ↦ settleByNumber_of_not_isAmbiguous (hbefore c hc))
    (settleByNumber_of_isAmbiguous hb) after
  rw [worksheet, Worksheet.ofBookings, Logged.each_map, hnumbered, Logged.bind_error]

end Worksheet

end PaperTrail.Reconciliation
