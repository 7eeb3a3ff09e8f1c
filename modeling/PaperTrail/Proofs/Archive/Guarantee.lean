import PaperTrail.Proofs.Archive.Kept
import PaperTrail.Proofs.Tag.Reading

/-!
# What the strict policy guarantees

An archive is called to change it or to look something up.  Main statement: whatever calls a strict
archive has answered since it was opened empty, its documents are named and tagged as the policy
asks, and looking for a bank statement goes by closed periods alone.
-/

namespace PaperTrail

inductive Call
  | annotate (filename : String) (spelled : List String)
  | remove (filename : String)
  | get (filename : String)
  | require (filename : String)
  | describe (filename : String)
  | find (query : Document)
  | findTagged (spelled : List String)
  | findByNumber (raw : String)
  | findForStatement (day : Date) (debit credit : Int)
  | reconcile (bookings : List Booking) (reportUnmatched : Bool)
  | reconcileExport (text : String) (reportUnmatched : Bool)
deriving DecidableEq

inductive Reply
  | removed
  | looked (document : Option Document)
  | document (document : Document)
  | documents (documents : List Document)
  | texts (texts : List String)
  | report (report : Report)
deriving DecidableEq

def Call.request? : Call → Option Request
  | annotate filename spelled => some (.annotate filename spelled)
  | remove filename => some (.remove filename)
  | _ => none

namespace Archive

def call (a : Archive) : Call → Archive × Except Fault Reply
  | .annotate filename spelled =>
      let annotated := a.annotate filename spelled
      (annotated.1, annotated.2.answer.map .document)
  | .remove filename =>
      let removed := a.remove filename
      (removed.1, removed.2.map fun () ↦ .removed)
  | .get filename => (a, .ok (.looked (a.get? filename)))
  | .require filename => (a, (a.require filename).map .document)
  | .describe filename => (a, (a.describe filename).map .texts)
  | .find query => (a, .ok (.documents (a.find query)))
  | .findTagged spelled => (a, (a.findTagged spelled).map .documents)
  | .findByNumber raw => (a, (a.findByNumber raw).map .documents)
  | .findForStatement day debit credit =>
      (a, .ok (.documents (a.findForStatement day debit credit)))
  | .reconcile bookings reportUnmatched =>
      (a, (a.reconcile bookings reportUnmatched).answer.map .report)
  | .reconcileExport text reportUnmatched =>
      (a, (a.reconcileExport text reportUnmatched).answer.map .report)

def callAll (a : Archive) (calls : List Call) : Archive :=
  calls.foldl (fun b c ↦ (b.call c).1) a

end Archive

namespace Document

/-- The document is as the strict policy and the reading of tags leave it. -/
structure WellFiled (d : Document) : Prop where
  name_inked : HasInk d.filename
  name_short : d.filename.utf8ByteSize ≤ 255
  name_plain : ∀ c ∈ d.filename.toList, c ≠ '/' ∧ c ≠ '\\' ∧ c ≠ '\x00'
  noRepeats : d.NoRepeats
  keys_inked : ∀ t ∈ d.tags, HasInk t.key
  bounded : ∀ p ∈ d.periods, p.period.first ≠ none ∨ p.period.last ≠ none
  first_short : ∀ p ∈ d.periods, ∀ first ∈ p.period.first, first.HasShortYear
  last_short : ∀ p ∈ d.periods, ∀ last ∈ p.period.last, last.HasShortYear
  forward : ∀ p ∈ d.periods, ∀ first ∈ p.period.first, ∀ last ∈ p.period.last, first ≤ last

def States (v : Vocabulary) (day : Date) (debit credit : Int) (d : Document) : Prop :=
  (∃ p ∈ d.periods, p.key = v.statementPeriod ∧ p.period.Includes day) ∧
    ∃ w ∈ d.values, w.key = v.accountNumber ∧
      (w.value = Numeral.text debit ∨ w.value = Numeral.text credit)

instance (v : Vocabulary) (day : Date) (debit credit : Int) :
    DecidablePred (States v day debit credit) :=
  fun d ↦ inferInstanceAs (Decidable (
    (∃ p ∈ d.periods, p.key = v.statementPeriod ∧ p.period.Includes day) ∧
      ∃ w ∈ d.values, w.key = v.accountNumber ∧
        (w.value = Numeral.text debit ∨ w.value = Numeral.text credit)))

/-- A period that was read has an end and years of four digits. -/
theorem period_of_read {s : Separators} {raw : String} {p : PeriodTag}
    (h : s.read raw = .ok (.period p)) :
    (p.period.first ≠ none ∨ p.period.last ≠ none) ∧
      (∀ first ∈ p.period.first, first.HasShortYear) ∧
        ∀ last ∈ p.period.last, last.HasShortYear := by
  obtain ⟨rest, -, -, hdays, hfirst, hlast⟩ := Separators.read_eq_period_iff.mp h
  have hbound := (Separators.eq_of_splitDays hdays).1
  exact ⟨by simpa using hbound, hfirst, hlast⟩

/-- The name, the keys and the order of the days come from the policy, the rest from the reading
and the adding of tags. -/
theorem Sound.wellFiled {s : Separators} {IsText : String → Prop} {d : Document}
    (h : d.Sound s .strict IsText) : d.WellFiled := by
  obtain ⟨hname, hkeys, hperiods⟩ := Policy.check_strict_eq_ok_iff.mp h.allowed
  obtain ⟨hink, hshort, hplain⟩ := checkFilename_eq_ok_iff.mp hname
  have hread : ∀ p ∈ d.periods, ∃ raw, s.read raw = .ok (.period p) := by
    intro p hp
    obtain ⟨raw, -, hraw⟩ := h.read _ (period_mem_tags.mpr hp)
    exact ⟨raw, hraw⟩
  refine ⟨hasInk_iff.mpr hink, hshort, hplain, h.noRepeats, ?_, ?_, ?_, ?_, ?_⟩
  · intro t ht
    exact hasInk_iff.mpr (checkKey_eq_ok_iff.mp (hkeys t ht))
  · intro p hp
    obtain ⟨raw, hraw⟩ := hread p hp
    exact (period_of_read hraw).1
  · intro p hp
    obtain ⟨raw, hraw⟩ := hread p hp
    exact (period_of_read hraw).2.1
  · intro p hp
    obtain ⟨raw, hraw⟩ := hread p hp
    exact (period_of_read hraw).2.2
  · intro p hp
    exact Period.isOrdered_eq_true_iff.mp (checkPeriod_eq_ok_iff.mp (hperiods p hp))

/-- On well-filed records the search for statements takes periods at their word. -/
theorem WellFiled.isStatementFor_iff_states {d : Document} (h : d.WellFiled) {v : Vocabulary}
    {day : Date} {debit credit : Int} :
    d.isStatementFor v day debit credit = true ↔ d.States v day debit credit := by
  have hcovers : ∀ p ∈ d.periods, p.period.covers day = true ↔ p.period.Includes day :=
    fun p hp ↦
      Period.covers_eq_true_iff_includes (Period.isOrdered_eq_true_iff.mpr (h.forward p hp))
  rw [isStatementFor_iff]
  constructor
  · rintro ⟨⟨p, hp, hkey, hday⟩, haccount⟩
    exact ⟨⟨p, hp, hkey, (hcovers p hp).mp hday⟩, haccount⟩
  · rintro ⟨⟨p, hp, hkey, hday⟩, haccount⟩
    exact ⟨⟨p, hp, hkey, (hcovers p hp).mpr hday⟩, haccount⟩

end Document

namespace Archive

/-- Looking something up changes nothing, so only the requests count. -/
theorem callAll_eq_serveAll (a : Archive) (calls : List Call) :
    a.callAll calls = a.serveAll (calls.filterMap Call.request?) := by
  induction calls generalizing a with
  | nil => rfl
  | cons c rest ih =>
      have hrest : a.callAll (c :: rest) = (a.call c).1.callAll rest := rfl
      rw [hrest, ih]
      cases c <;> rfl

/-- After any run of calls on a strict archive that was opened empty, each of its documents is well
filed, and a bank statement is found by the periods that include the day and by the accounts that
are named. -/
theorem wellFiled_callAll (settings : Settings) (calls : List Call) :
    let a := (⟨settings, .strict, .empty⟩ : Archive).callAll calls
    (∀ d ∈ a.documents, d.WellFiled) ∧
      ∀ day debit credit, a.findForStatement day debit credit =
        a.documents.filter (Document.States settings.vocabulary day debit credit) := by
  intro a
  have ha : a = (⟨settings, .strict, .empty⟩ : Archive).serveAll (calls.filterMap Call.request?) :=
    callAll_eq_serveAll _ calls
  have hrules : a.settings = settings ∧ a.policy = .strict := by
    rw [ha]
    exact rules_serveAll _ _
  obtain ⟨hsettings, hpolicy⟩ := hrules
  have hkeeps : a.Keeps fun _ ↦ True := by
    rw [ha]
    apply keeps_serveAll (keeps_empty settings .strict)
    intro r _
    cases r with
    | annotate filename spelled => exact fun _ _ ↦ trivial
    | remove filename => trivial
  have hfiled : ∀ d ∈ a.documents, d.WellFiled := by
    intro d hd
    have hsound := hkeeps d hd
    rw [hpolicy] at hsound
    exact hsound.wellFiled
  refine ⟨hfiled, fun day debit credit ↦ ?_⟩
  rw [findForStatement, searchStatements, hsettings]
  apply List.filter_congr
  intro d hd
  rw [Bool.eq_iff_iff, decide_eq_true_eq]
  exact (hfiled d hd).isStatementFor_iff_states

end Archive

end PaperTrail
