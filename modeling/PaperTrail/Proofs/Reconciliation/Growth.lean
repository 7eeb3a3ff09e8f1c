import Mathlib.Data.List.Forall2
import PaperTrail.Proofs.Reconciliation.Worksheet

/-!
# Documents that grow

Documents grow when tags are added to some of them and new ones come in between.  Main statement:
a line of the worksheet keeps its evidence as long as no number becomes ambiguous, and a number
that is ambiguous stays so.
-/

namespace PaperTrail

structure Document.GrowsInto (d e : Document) : Prop where
  filename : e.filename = d.filename
  tags : ∀ tag ∈ d.tags, tag ∈ e.tags

namespace Document.GrowsInto

variable {d e : Document}

theorem refl (d : Document) : d.GrowsInto d := ⟨rfl, fun _ h ↦ h⟩

theorem append (d : Document) (ts : List Tag) : d.GrowsInto (d.append ts).1 :=
  ⟨filename_append d ts, fun _ h ↦ mem_tags_append.mpr (Or.inl h)⟩

theorem mem_values (h : d.GrowsInto e) {tag : ValueTag} (htag : tag ∈ d.values) :
    tag ∈ e.values :=
  value_mem_tags.mp (h.tags _ (value_mem_tags.mpr htag))

theorem mem_periods (h : d.GrowsInto e) {tag : PeriodTag} (htag : tag ∈ d.periods) :
    tag ∈ e.periods :=
  period_mem_tags.mp (h.tags _ (period_mem_tags.mpr htag))

theorem isStatementFor (h : d.GrowsInto e) {v : Vocabulary} {day : Date} {debit credit : Int}
    (hd : d.isStatementFor v day debit credit = true) :
    e.isStatementFor v day debit credit = true := by
  obtain ⟨⟨p, hp, hcovers⟩, w, hw, haccount⟩ := isStatementFor_iff.mp hd
  exact isStatementFor_iff.mpr ⟨⟨p, h.mem_periods hp, hcovers⟩, w, h.mem_values hw, haccount⟩

end Document.GrowsInto

namespace Reconciliation

/-- The second list has all the documents of the first, in their order, with more tags, and
perhaps others. -/
abbrev Grown (ds es : List Document) : Prop := List.SublistForall₂ Document.GrowsInto ds es

theorem grown_refl (ds : List Document) : Grown ds ds := by
  induction ds with
  | nil => exact .nil
  | cons d ds ih => exact .cons (.refl d) ih

/-- A property that documents keep while they grow selects lists that have grown. -/
theorem Grown.filter {ds es : List Document} (h : Grown ds es) {p : Document → Bool}
    (hp : ∀ d e, d.GrowsInto e → p d = true → p e = true) :
    Grown (ds.filter p) (es.filter p) := by
  induction h with
  | nil => exact .nil
  | @cons d e ds es hde _ ih =>
      cases hd : p d with
      | true =>
          rw [List.filter_cons_of_pos hd, List.filter_cons_of_pos (hp d e hde hd)]
          exact .cons hde ih
      | false =>
          rw [List.filter_cons_of_neg (by simp [hd]), List.filter_cons]
          split
          · exact .cons_right ih
          · exact ih
  | @cons_right e ds es _ ih =>
      rw [List.filter_cons]
      split
      · exact .cons_right ih
      · exact ih

theorem Grown.length_le {ds es : List Document} (h : Grown ds es) : ds.length ≤ es.length := by
  obtain ⟨kept, hkept, hsub⟩ := List.sublistForall₂_iff.mp h
  exact hkept.length_eq ▸ hsub.length_le

theorem growsInto_of_grown_singleton {d e : Document} (h : Grown [d] [e]) : d.GrowsInto e := by
  cases h with
  | cons hde _ => exact hde
  | cons_right h => cases h

/-- The evidence on a line is not lost: what was matched is matched, and what was matched by its
number is so with the same file. -/
structure Line.Keeps (line later : Line) : Prop where
  booking : later.booking = line.booking
  numbered : ∀ d, line.found = some (.documentNumber, d) →
    ∃ e, later.found = some (.documentNumber, e) ∧ e.filename = d.filename
  matched : line.found.isSome = true → later.found.isSome = true

section Growth

variable {v : Vocabulary} {ds es : List Document} {b : Booking}

/-- Growing records lose no bearer of a number. -/
theorem bearers_grown (h : Grown ds es) (b : Booking) :
    Grown (bearers v ds b) (bearers v es b) := by
  apply h.filter
  intro d e hde hd
  exact decide_eq_true (hde.mem_values (of_decide_eq_true hd))

theorem statements_grown (h : Grown ds es) (b : Booking) :
    Grown (statements v ds b) (statements v es b) := by
  unfold statements
  cases b.documentDate with
  | none => exact .nil
  | some day => exact h.filter fun _ _ hde ↦ hde.isStatementFor

theorem isAmbiguous_of_grown (h : Grown ds es) (hb : isAmbiguous v ds b = true) :
    isAmbiguous v es b = true := by
  have hlength := (bearers_grown (v := v) h b).length_le
  simp only [isAmbiguous, Bool.and_eq_true, decide_eq_true_eq] at hb ⊢
  exact ⟨hb.1, Nat.le_trans hb.2 hlength⟩

theorem bearers_eq_singleton (hb : isNumbered b = true) (hne : bearers v es b ≠ [])
    (hclear : isAmbiguous v es b = false) : ∃ e, bearers v es b = [e] := by
  rcases hbearers : bearers v es b with _ | ⟨e, _ | ⟨f, rest⟩⟩
  · exact absurd hbearers hne
  · exact ⟨e, rfl⟩
  · rw [isAmbiguous_of_two hb hbearers] at hclear
    cases hclear

theorem soleBearer?_of_grown (h : Grown ds es) (hclear : isAmbiguous v es b = false)
    {d : Document} (hd : soleBearer? v ds b = some d) :
    ∃ e, soleBearer? v es b = some e ∧ d.GrowsInto e := by
  obtain ⟨hb, hbearers⟩ := soleBearer?_eq_some_iff.mp hd
  have hgrown := bearers_grown (v := v) h b
  rw [hbearers] at hgrown
  have hne : bearers v es b ≠ [] := List.length_pos_iff.mp hgrown.length_le
  obtain ⟨e, he⟩ := bearers_eq_singleton hb hne hclear
  rw [he] at hgrown
  exact ⟨e, soleBearer?_eq_some_iff.mpr ⟨hb, he⟩, growsInto_of_grown_singleton hgrown⟩

/-- A booking that had a statement still has one, unless a document bears its number by now. -/
theorem isSome_verdict_of_grown (h : Grown ds es) (hclear : isAmbiguous v es b = false)
    (hb : (verdict v ds b).isSome = true) : (verdict v es b).isSome = true := by
  cases hsole : soleBearer? v es b with
  | some e => rw [verdict_of_some hsole]; rfl
  | none =>
      cases hbefore : soleBearer? v ds b with
      | some d =>
          obtain ⟨e, he, -⟩ := soleBearer?_of_grown h hclear hbefore
          rw [hsole] at he
          cases he
      | none =>
          rw [verdict_of_none hbefore, Option.isSome_map] at hb
          obtain ⟨hempty, -, hne⟩ := isSome_statement?_iff.mp hb
          have hlength := (statements_grown (v := v) h b).length_le
          have hne' : statements v es b ≠ [] :=
            List.length_pos_iff.mp (Nat.lt_of_lt_of_le (List.length_pos_iff.mpr hne) hlength)
          rw [verdict_of_none hsole, Option.isSome_map]
          exact isSome_statement?_iff.mpr ⟨hempty, hsole, hne'⟩

theorem keeps_verdict (h : Grown ds es) (hclear : isAmbiguous v es b = false) :
    Line.Keeps ⟨b, verdict v ds b⟩ ⟨b, verdict v es b⟩ where
  booking := rfl
  numbered := by
    intro d hd
    obtain ⟨e, he, hde⟩ := soleBearer?_of_grown h hclear (verdict_eq_some_iff.mp hd)
    exact ⟨e, verdict_eq_some_iff.mpr he, hde.filename⟩
  matched := isSome_verdict_of_grown h hclear

theorem isUnmatched_of_grown (h : Grown ds es) (hclear : isAmbiguous v es b = false)
    (hb : isUnmatched v es b = true) : isUnmatched v ds b = true := by
  simp only [isUnmatched, Bool.and_eq_true] at hb ⊢
  refine ⟨hb.1, ?_⟩
  rw [Option.isNone_iff_eq_none, ← Option.not_isSome_iff_eq_none] at hb ⊢
  exact fun hsome ↦ hb.2 (isSome_verdict_of_grown h hclear hsome)

/-- Line by line, the worksheet keeps its evidence. -/
theorem sheet_keeps (h : Grown ds es) {bookings : List Booking}
    (hclear : ∀ b ∈ bookings, isAmbiguous v es b = false) :
    List.Forall₂ Line.Keeps (sheet v ds bookings) (sheet v es bookings) := by
  rw [sheet, sheet, List.forall₂_map_left_iff, List.forall₂_map_right_iff]
  exact List.forall₂_same.mpr fun b hb ↦ keeps_verdict h (hclear b hb)

/-- Growing records open no booking that had a document. -/
theorem openBookings_grown (h : Grown ds es) {bookings : List Booking}
    (hclear : ∀ b ∈ bookings, isAmbiguous v es b = false) :
    ((sheet v es bookings).openBookings).Sublist (sheet v ds bookings).openBookings := by
  rw [openBookings_sheet, openBookings_sheet]
  have hfilter : bookings.filter (isUnmatched v es) =
      (bookings.filter (isUnmatched v ds)).filter (isUnmatched v es) := by
    rw [List.filter_filter]
    apply List.filter_congr
    intro b hb
    rw [Bool.eq_iff_iff, Bool.and_eq_true, iff_self_and]
    exact isUnmatched_of_grown h (hclear b hb)
  rw [hfilter]
  exact List.filter_sublist

end Growth

end Reconciliation

end PaperTrail
