import Mathlib.Data.List.Forall2
import PaperTrail.Proofs.Reconciliation.Worksheet

/-!
# The log of a reconciliation

Main statement: the events of a reconciliation are those that its answer calls for.  Each match is
told in its turn, then each booking that is reported as open, and the sums come last; where a
number is ambiguous, the log breaks off behind the matches in front of it.
-/

namespace PaperTrail.Reconciliation

/-- The event tells of the match.  Of a statement it says among how many it was found. -/
inductive Tells (v : Vocabulary) (documents : List Document) : Match → Event → Prop
  | byNumber (b : Booking) (d : Document) :
      Tells v documents ⟨b, d, .documentNumber⟩ (.matchedByNumber b.fullNumber d.filename)
  | byStatement (b : Booking) (d : Document) {day : Date} (hday : b.documentDate = some day) :
      Tells v documents ⟨b, d, .statement⟩ (.matchedByStatement day d.filename
        (searchStatements v documents day b.debitAccount b.creditAccount).length)

/-- The events that go with a report: its matches, the bookings that it reports as open, and the
sums.  The bookings that are open are counted there whether they are reported or not. -/
def Recounts (v : Vocabulary) (bookings : List Booking) (documents : List Document)
    (report : Report) (events : List Event) : Prop :=
  ∃ told left,
    List.Forall₂ (Tells v documents)
      (report.matchedBy .documentNumber ++ report.matchedBy .statement) told ∧
    left + report.matched.length = (bookings.filter fun b ↦ !b.isEmpty).length ∧
    events = told ++ (report.unmatched.map unmatchedEvent ++
      [.reconciled bookings.length documents.length (report.matchedBy .documentNumber).length
        (report.matchedBy .statement).length left]) ∧
    events.map Event.level = List.replicate report.matched.length .debug ++
      (List.replicate report.unmatched.length .warn ++ [.info])

/-- The events in front of an ambiguous number: the bookings before it are matched by their numbers,
and then there is only the warning. -/
def BreaksOff (v : Vocabulary) (bookings : List Booking) (documents : List Document)
    (number : String) (filenames : List String) (events : List Event) : Prop :=
  ∃ before b after report told,
    bookings = before ++ b :: after ∧
    (b.isEmpty = false ∧ b.fullNumber = number ∧ number ≠ "") ∧
    ((bearers v documents b).map Document.filename = filenames ∧ 2 ≤ filenames.length) ∧
    (run v before documents false).answer = .ok report ∧
    List.Forall₂ (Tells v documents) (report.matchedBy .documentNumber) told ∧
    events = told ++ [.numberOnSeveralFiles number filenames] ∧
    events.map Event.level =
      List.replicate (report.matchedBy .documentNumber).length .debug ++ [.warn]

variable {v : Vocabulary} {documents : List Document}

/-! ### One event for each match -/

theorem tells_matchesOf {evidence : Evidence} {found : Booking → Option Document}
    {events : Booking → List Event}
    (h : ∀ b, (found b = none ∧ events b = []) ∨
      ∃ d e, found b = some d ∧ events b = [e] ∧ Tells v documents ⟨b, d, evidence⟩ e)
    (bookings : List Booking) :
    List.Forall₂ (Tells v documents) (matchesOf evidence found bookings)
      (bookings.flatMap events) := by
  rw [matchesOf]
  induction bookings with
  | nil => exact .nil
  | cons b rest ih =>
      rcases h b with ⟨hfound, hevents⟩ | ⟨d, e, hfound, hevents, htells⟩
      · simpa [hfound, hevents] using ih
      · simpa [hfound, hevents] using And.intro htells ih

theorem tells_numberEvents (v : Vocabulary) (documents : List Document)
    (bookings : List Booking) :
    List.Forall₂ (Tells v documents)
      (matchesOf .documentNumber (soleBearer? v documents) bookings)
      (bookings.flatMap (numberEvents v documents)) := by
  apply tells_matchesOf
  intro b
  cases hsole : soleBearer? v documents b with
  | none => exact Or.inl ⟨rfl, by simp [numberEvents, hsole]⟩
  | some d => exact Or.inr ⟨d, _, rfl, by simp [numberEvents, hsole], .byNumber b d⟩

theorem tells_statementEvents (v : Vocabulary) (documents : List Document)
    (bookings : List Booking) :
    List.Forall₂ (Tells v documents)
      (matchesOf .statement (statement? v documents) bookings)
      (bookings.flatMap (statementEvents v documents)) := by
  apply tells_matchesOf
  intro b
  cases hstatement : statement? v documents b with
  | none => exact Or.inl ⟨rfl, statementEvents_of_none hstatement⟩
  | some d =>
      -- only a booking with a date has statements at all
      obtain ⟨-, -, hhead⟩ := statement?_eq_some_iff.mp hstatement
      obtain ⟨day, hday, -⟩ := mem_statements_iff.mp (List.mem_of_head? hhead)
      refine Or.inr ⟨d, _, rfl, ?_, .byStatement b d hday⟩
      simp only [statementEvents, hday, hstatement, statements]

theorem map_level_of_tells {matched : List Match} {told : List Event}
    (h : List.Forall₂ (Tells v documents) matched told) :
    told.map Event.level = List.replicate matched.length .debug := by
  induction h with
  | nil => rfl
  | cons htells _ ih =>
      rw [List.map_cons, ih, List.length_cons, List.replicate_succ]
      cases htells <;> rfl

theorem map_level_unmatchedEvent (bookings : List Booking) :
    (bookings.map unmatchedEvent).map Event.level = List.replicate bookings.length .warn := by
  rw [List.map_map, ← List.map_const']
  rfl

/-! ### The bookings that are counted -/

theorem filter_filter_not_isEmpty (p : Booking → Bool) (h : ∀ b, p b = true → b.isEmpty = false)
    (bookings : List Booking) :
    (bookings.filter fun b ↦ !b.isEmpty).filter p = bookings.filter p := by
  rw [List.filter_filter]
  apply List.filter_congr
  intro b _
  cases hp : p b with
  | false => rfl
  | true => simp [h b hp]

theorem not_isEmpty_of_soleBearer? {b : Booking} (h : (soleBearer? v documents b).isSome = true) :
    b.isEmpty = false := by
  obtain ⟨d, hd⟩ := Option.isSome_iff_exists.mp h
  have hnumbered := (soleBearer?_eq_some_iff.mp hd).1
  simp only [isNumbered, Bool.and_eq_true, Bool.not_eq_true'] at hnumbered
  exact hnumbered.1

/-- Each booking that is not empty is matched once or left open. -/
theorem length_parts (bookings : List Booking) :
    (bookings.filter (isUnmatched v documents)).length +
        (matchesOf .documentNumber (soleBearer? v documents) bookings ++
          matchesOf .statement (statement? v documents) bookings).length =
      (bookings.filter fun b ↦ !b.isEmpty).length := by
  have hbooked : ∀ b ∈ bookings.filter fun b ↦ !b.isEmpty, b.isEmpty = false := by simp
  have hparts := (@perm_parts v documents _ hbooked).length_eq
  rw [filter_filter_not_isEmpty _ fun b ↦ not_isEmpty_of_soleBearer?,
    filter_filter_not_isEmpty _ fun b hb ↦ (isSome_statement?_iff.mp hb).1,
    filter_filter_not_isEmpty (isUnmatched v documents) fun b hb ↦
      (isUnmatched_eq_true_iff.mp hb).1,
    ← map_booking_matchesOf .documentNumber, ← map_booking_matchesOf .statement] at hparts
  simp only [List.length_append, List.length_map] at hparts ⊢
  omega

/-! ### The log and the answer -/

/-- The events of a pass without ambiguity are those of its report. -/
theorem recounts_of_clear {bookings : List Booking} (reportUnmatched : Bool)
    (h : ∀ b ∈ bookings, isAmbiguous v documents b = false) :
    Recounts v bookings documents (clearReport v documents bookings reportUnmatched)
      (run v bookings documents reportUnmatched).events := by
  have htells := List.rel_append (tells_numberEvents v documents bookings)
    (tells_statementEvents v documents bookings)
  have hevents := congrArg Logged.events (run_of_clear reportUnmatched h)
  dsimp only at htells hevents
  rw [← List.append_assoc] at hevents
  rw [hevents, Recounts, matchedBy_clearReport, matchedBy_clearReport]
  refine ⟨_, _, htells, length_parts bookings, rfl, ?_⟩
  rw [List.map_append, map_level_of_tells htells, List.map_append, map_level_unmatchedEvent]
  rfl

theorem isAmbiguous_eq_true_iff {b : Booking} :
    isAmbiguous v documents b = true ↔
      b.isEmpty = false ∧ b.fullNumber ≠ "" ∧ 2 ≤ (bearers v documents b).length := by
  simp [isAmbiguous, isNumbered, and_assoc]

/-- A pass with an ambiguous number tells of the bookings before it and then of the duplicate. -/
theorem breaksOff_of_isAmbiguous {before after : List Booking} {b : Booking}
    (reportUnmatched : Bool) (hbefore : ∀ c ∈ before, isAmbiguous v documents c = false)
    (hb : isAmbiguous v documents b = true) :
    BreaksOff v (before ++ b :: after) documents b.fullNumber
      ((bearers v documents b).map Document.filename)
      (run v (before ++ b :: after) documents reportUnmatched).events := by
  obtain ⟨hempty, hnumber, hseveral⟩ := isAmbiguous_eq_true_iff.mp hb
  have htells := tells_numberEvents v documents before
  have hreport : (clearReport v documents before false).matchedBy .documentNumber = _ :=
    matchedBy_clearReport .documentNumber before false
  rw [run_of_isAmbiguous reportUnmatched hbefore hb]
  refine ⟨before, b, after, clearReport v documents before false, _, rfl, ⟨hempty, rfl, hnumber⟩,
    ⟨rfl, by rwa [List.length_map]⟩, run_ok_iff.mpr ⟨hbefore, rfl⟩, hreport ▸ htells, rfl, ?_⟩
  rw [hreport, List.map_append, map_level_of_tells htells]
  rfl

/-- What is logged last does not depend on whether the open bookings are reported. -/
theorem getLast?_events_run (v : Vocabulary) (bookings : List Booking) (documents : List Document)
    (reportUnmatched other : Bool) :
    (run v bookings documents reportUnmatched).events.getLast? =
      (run v bookings documents other).events.getLast? := by
  cases hfind : bookings.find? (isAmbiguous v documents) with
  | none =>
      have hclear := clear_of_find?_eq_none hfind
      rw [run_of_clear reportUnmatched hclear, run_of_clear other hclear]
      simp only [← List.append_assoc, List.getLast?_concat]
  | some b =>
      obtain ⟨hb, before, after, rfl, hbefore⟩ := split_of_find?_eq_some hfind
      rw [run_of_isAmbiguous reportUnmatched hbefore hb, run_of_isAmbiguous other hbefore hb]

/-- A reconciliation that answers tells of each match and of each booking that it reports as open,
in the order of its report, and ends with the sums.  One that gives up tells of the matches by
number in front of the ambiguous number, warns of that number, and tells nothing else. -/
theorem events_run (v : Vocabulary) (bookings : List Booking) (documents : List Document)
    (reportUnmatched : Bool) :
    let logged := run v bookings documents reportUnmatched
    (∀ report, logged.answer = .ok report →
      Recounts v bookings documents report logged.events) ∧
    (∀ fault, logged.answer = .error fault → ∃ number filenames,
      fault = .duplicateDocumentNumber number filenames ∧
        BreaksOff v bookings documents number filenames logged.events) ∧
    ∀ other, (run v bookings documents other).events.getLast? = logged.events.getLast? := by
  refine ⟨fun report hreport ↦ ?_, fun fault hfault ↦ ?_, fun other ↦ ?_⟩
  · obtain ⟨hclear, rfl⟩ := run_ok_iff.mp hreport
    exact recounts_of_clear reportUnmatched hclear
  · obtain ⟨b, hfind, rfl⟩ := answer_run_eq_error_iff.mp hfault
    obtain ⟨hb, before, after, rfl, hbefore⟩ := split_of_find?_eq_some hfind
    exact ⟨_, _, rfl, breaksOff_of_isAmbiguous reportUnmatched hbefore hb⟩
  · exact getLast?_events_run v bookings documents other reportUnmatched

open Sample in
theorem events_run_shelf :
    let left : Booking := { booking "3" with debitAccount := 5 }
    let bookings := [booking "2", left, booking "1"]
    let report : Report := ⟨[⟨booking "1", invoice "a.pdf" "R1", .documentNumber⟩,
      ⟨booking "2", bankStatement "b.pdf" 14, .statement⟩], [left]⟩
    let events : List Event := [.matchedByNumber "R1" "a.pdf",
      .matchedByStatement ⟨14, 1, 5, by decide⟩ "b.pdf" 1, .leftUnmatched "R3" "" ⟨5, 0⟩,
      .reconciled 3 4 1 1 1]
    (run {} bookings shelf true = ⟨events, .ok report⟩ ∧ Recounts {} bookings shelf report events) ∧
      (run {} [booking "1", booking "9", booking "2"] shelf true).answer =
        .error (.duplicateDocumentNumber "R9" ["d.pdf", "e.pdf"]) ∧
      BreaksOff {} [booking "1", booking "9", booking "2"] shelf "R9" ["d.pdf", "e.pdf"]
        [.matchedByNumber "R1" "a.pdf", .numberOnSeveralFiles "R9" ["d.pdf", "e.pdf"]] := by
  intro left bookings report events
  have hrun : run {} bookings shelf true = ⟨events, .ok report⟩ := rfl
  have hrefused : (run {} [booking "1", booking "9", booking "2"] shelf true).answer =
      .error (.duplicateDocumentNumber "R9" ["d.pdf", "e.pdf"]) := rfl
  obtain ⟨number, filenames, hfault, hbreaks⟩ :=
    (events_run {} [booking "1", booking "9", booking "2"] shelf true).2.1 _ hrefused
  cases hfault
  refine ⟨⟨hrun, ?_⟩, hrefused, hbreaks⟩
  have hrecounts := (events_run {} bookings shelf true).1 report
  rw [hrun] at hrecounts
  exact hrecounts rfl

end PaperTrail.Reconciliation
