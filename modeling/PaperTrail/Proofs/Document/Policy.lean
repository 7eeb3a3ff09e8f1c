import PaperTrail.Document.Policy
import PaperTrail.Text.Utf8

/-!
# What the strict policy refuses

Main statement: the strict policy allows a document exactly if its name, its keys and its periods
are acceptable and the bytes of its name are few enough, and otherwise holds the first flaw against
it.  The length of a name is counted in bytes, though its flaw speaks of characters, so that a name
of few but wide characters is refused.
-/

namespace PaperTrail

open Document

/-- The document has an acceptable name, with no more than 255 characters, a key on every tag, and
no period that runs backward. -/
structure Document.Acceptable (d : Document) : Prop where
  name_inked : HasInk d.filename
  name_short : d.filename.length ≤ 255
  name_plain : ∀ c ∈ d.filename.toList, c ≠ '/' ∧ c ≠ '\\' ∧ c ≠ '\x00'
  keys_inked : ∀ tag ∈ d.tags, HasInk tag.key
  forward : ∀ p ∈ d.periods, ∀ first ∈ p.period.first, ∀ last ∈ p.period.last, first ≤ last

structure AllowedName (filename : String) : Prop where
  inked : HasInk filename
  short : filename.utf8ByteSize ≤ 255
  plain : ∀ c ∈ filename.toList, c ≠ '/' ∧ c ≠ '\\' ∧ c ≠ '\x00'

def Period.RunsBackward (p : Period) : Prop :=
  ∃ first last, p.first = some first ∧ p.last = some last ∧ last < first

/-- What the strict policy first holds against a name. -/
inductive NameFlaw (filename : String) : Flaw → Prop
  | blank (hblank : ¬ HasInk filename) : NameFlaw filename .blankFilename
  | long (hink : HasInk filename) (hlong : 255 < filename.utf8ByteSize) :
      NameFlaw filename .longFilename
  | path (hink : HasInk filename) (hshort : filename.utf8ByteSize ≤ 255)
      (hpath : ∃ c ∈ filename.toList, c = '/' ∨ c = '\\' ∨ c = '\x00') :
      NameFlaw filename (.pathInFilename filename)

/-- What the strict policy first holds against a document.  Its name comes before its keys, its keys
before its periods, and an earlier period before a later one. -/
inductive FirstFlaw (d : Document) : Flaw → Prop
  | name {flaw : Flaw} (hname : NameFlaw d.filename flaw) : FirstFlaw d flaw
  | key (hname : AllowedName d.filename) (hkeys : ∃ tag ∈ d.tags, ¬ HasInk tag.key) :
      FirstFlaw d .blankKey
  | period (hname : AllowedName d.filename) (hkeys : ∀ tag ∈ d.tags, HasInk tag.key)
      {before : List PeriodTag} {p : PeriodTag} {behind : List PeriodTag}
      (hsplit : d.periods = before ++ p :: behind)
      (hbefore : ∀ q ∈ before, ¬ q.period.RunsBackward) (hp : p.period.RunsBackward) :
      FirstFlaw d (.reversedPeriod p.key)

theorem not_hasInk_iff {text : String} : ¬ HasInk text ↔ Text.allBlank text = true := by
  rw [hasInk_iff, Bool.not_eq_false]

theorem Period.runsBackward_iff {p : Period} : p.RunsBackward ↔ p.isOrdered = false := by
  obtain ⟨first, last⟩ := p
  cases first <;> cases last <;>
    simp [RunsBackward, isOrdered, Date.lt_def, Date.le_def]

theorem allowedName_iff {filename : String} :
    AllowedName filename ↔ checkFilename filename = .ok () := by
  rw [checkFilename_eq_ok_iff, ← hasInk_iff]
  exact ⟨fun h ↦ ⟨h.inked, h.short, h.plain⟩, fun h ↦ ⟨h.1, h.2.1, h.2.2⟩⟩

/-- The first flaw is found behind everything that is allowed. -/
theorem checkEach_eq_error_iff {α : Type} {check : α → Except Flaw Unit} {as : List α}
    {flaw : Flaw} :
    checkEach check as = .error flaw ↔
      ∃ before a behind, as = before ++ a :: behind ∧ (∀ b ∈ before, check b = .ok ()) ∧
        check a = .error flaw := by
  induction as with
  | nil => simp [checkEach]
  | cons a as ih =>
      cases ha : check a with
      | error other =>
          rw [checkEach, ha]
          constructor
          · rintro ⟨⟩
            exact ⟨[], a, as, rfl, List.forall_mem_nil _, ha⟩
          · rintro ⟨_ | ⟨b, before⟩, c, behind, hsplit, hbefore, hc⟩
            · cases hsplit
              exact ha.symm.trans hc
            · cases hsplit
              cases ha.symm.trans (hbefore a List.mem_cons_self)
      | ok u =>
          rw [checkEach, ha]
          refine Iff.trans ih ?_
          constructor
          · rintro ⟨before, c, behind, rfl, hbefore, hc⟩
            exact ⟨a :: before, c, behind, rfl, List.forall_mem_cons.mpr ⟨ha, hbefore⟩, hc⟩
          · rintro ⟨_ | ⟨b, before⟩, c, behind, hsplit, hbefore, hc⟩
            · cases hsplit
              cases ha.symm.trans hc
            · cases hsplit
              exact ⟨before, c, behind, rfl, (List.forall_mem_cons.mp hbefore).2, hc⟩

theorem then_eq_error_iff {first next : Except Flaw Unit} {flaw : Flaw} :
    (do first; next) = .error flaw ↔
      first = .error flaw ∨ (first = .ok () ∧ next = .error flaw) := by
  rw [Fault.bind_eq_error_iff]
  constructor
  · rintro (hfirst | ⟨⟨⟩, hfirst, hnext⟩)
    · exact Or.inl hfirst
    · exact Or.inr ⟨hfirst, hnext⟩
  · rintro (hfirst | ⟨hfirst, hnext⟩)
    · exact Or.inl hfirst
    · exact Or.inr ⟨(), hfirst, hnext⟩

theorem checkKey_eq_error_iff {key : String} {flaw : Flaw} :
    checkKey key = .error flaw ↔ ¬ HasInk key ∧ flaw = .blankKey := by
  rw [not_hasInk_iff, checkKey]
  split
  · next h => simp [h, eq_comm]
  · next h => simp [h]

theorem checkPeriod_eq_error_iff {tag : PeriodTag} {flaw : Flaw} :
    checkPeriod tag = .error flaw ↔
      tag.period.RunsBackward ∧ flaw = .reversedPeriod tag.key := by
  rw [Period.runsBackward_iff, checkPeriod]
  split
  · next h => simp [h]
  · next h => simp [h, eq_comm]

theorem checkFilename_eq_error_iff {filename : String} {flaw : Flaw} :
    checkFilename filename = .error flaw ↔ NameFlaw filename flaw := by
  rw [checkFilename]
  split
  · next hblank =>
      have hnone := not_hasInk_iff.mpr hblank
      constructor
      · rintro ⟨⟩
        exact .blank hnone
      · rintro (_ | ⟨hink, -⟩ | ⟨hink, -, -⟩)
        · rfl
        · exact absurd hink hnone
        · exact absurd hink hnone
  · next hblank =>
      have hink : HasInk filename := hasInk_iff.mpr (Bool.eq_false_iff.mpr hblank)
      split
      · next hlong =>
          constructor
          · rintro ⟨⟩
            exact .long hink hlong
          · rintro (hnone | _ | ⟨-, hshort, -⟩)
            · exact absurd hink hnone
            · rfl
            · omega
      · next hlong =>
          have hshort := Nat.not_lt.mp hlong
          split
          · next hpath =>
              constructor
              · rintro ⟨⟩
                exact .path hink hshort (by simpa [or_assoc] using hpath)
              · rintro (hnone | ⟨-, hlong⟩ | _)
                · exact absurd hink hnone
                · omega
                · rfl
          · next hplain =>
              constructor
              · rintro ⟨⟩
              · rintro (hnone | ⟨-, hlong⟩ | ⟨-, -, hpath⟩)
                · exact absurd hink hnone
                · omega
                · exact absurd (by simpa [or_assoc] using hpath) hplain

/-- Which key is blank makes no difference to the flaw. -/
theorem checkEach_key_eq_error_iff {tags : List Tag} {flaw : Flaw} :
    checkEach (fun tag ↦ checkKey tag.key) tags = .error flaw ↔
      (∃ tag ∈ tags, ¬ HasInk tag.key) ∧ flaw = .blankKey := by
  have hflaw : ∀ {other}, checkEach (fun tag ↦ checkKey tag.key) tags = .error other →
      (∃ tag ∈ tags, ¬ HasInk tag.key) ∧ other = .blankKey := by
    intro other h
    obtain ⟨before, tag, behind, rfl, -, htag⟩ := checkEach_eq_error_iff.mp h
    obtain ⟨hblank, rfl⟩ := checkKey_eq_error_iff.mp htag
    exact ⟨⟨tag, by simp, hblank⟩, rfl⟩
  refine ⟨hflaw, ?_⟩
  rintro ⟨⟨tag, htag, hblank⟩, rfl⟩
  cases h : checkEach (fun tag ↦ checkKey tag.key) tags with
  | ok u =>
      have hkey := checkEach_eq_ok_iff.mp h tag htag
      rw [checkKey_eq_ok_iff, ← hasInk_iff] at hkey
      exact absurd hkey hblank
  | error other => rw [(hflaw h).2]

theorem checkEach_key_eq_ok_iff {tags : List Tag} :
    checkEach (fun tag ↦ checkKey tag.key) tags = .ok () ↔ ∀ tag ∈ tags, HasInk tag.key := by
  simp only [checkEach_eq_ok_iff, checkKey_eq_ok_iff, hasInk_iff]

theorem checkEach_period_eq_error_iff {periods : List PeriodTag} {flaw : Flaw} :
    checkEach checkPeriod periods = .error flaw ↔
      ∃ before p behind, periods = before ++ p :: behind ∧
        (∀ q ∈ before, ¬ q.period.RunsBackward) ∧ p.period.RunsBackward ∧
          flaw = .reversedPeriod p.key := by
  simp only [checkEach_eq_error_iff, checkPeriod_eq_error_iff, checkPeriod_eq_ok_iff,
    Period.runsBackward_iff, Bool.not_eq_false]

namespace Policy

/-- The strict policy names the first flaw: of the file name, then of the keys, then of the
periods. -/
theorem check_strict_eq_error_iff {d : Document} {flaw : Flaw} :
    strict.check d = .error flaw ↔ FirstFlaw d flaw := by
  rw [check, then_eq_error_iff, then_eq_error_iff, checkFilename_eq_error_iff, ← allowedName_iff,
    checkEach_key_eq_error_iff, checkEach_key_eq_ok_iff, checkEach_period_eq_error_iff]
  constructor
  · rintro (hname | ⟨hname, ⟨hkeys, rfl⟩ | ⟨hkeys, before, p, behind, hsplit, hbefore, hp, rfl⟩⟩)
    · exact .name hname
    · exact .key hname hkeys
    · exact .period hname hkeys hsplit hbefore hp
  · rintro (hname | ⟨hname, hkeys⟩ | ⟨hname, hkeys, hsplit, hbefore, hp⟩)
    · exact Or.inl hname
    · exact Or.inr ⟨hname, Or.inl ⟨hkeys, rfl⟩⟩
    · exact Or.inr ⟨hname, Or.inr ⟨hkeys, _, _, _, hsplit, hbefore, hp, rfl⟩⟩

theorem check_strict_eq_ok_iff_acceptable {d : Document} :
    strict.check d = .ok () ↔ d.Acceptable ∧ d.filename.utf8ByteSize ≤ 255 := by
  rw [check_strict_eq_ok_iff, ← allowedName_iff]
  simp only [checkKey_eq_ok_iff, ← hasInk_iff, checkPeriod_eq_ok_iff, Period.isOrdered_eq_true_iff]
  constructor
  · rintro ⟨hname, hkeys, hforward⟩
    have hlength := Nat.le_trans (Text.length_le_utf8ByteSize d.filename) hname.short
    exact ⟨⟨hname.inked, hlength, hname.plain, hkeys, hforward⟩, hname.short⟩
  · rintro ⟨h, hbytes⟩
    exact ⟨⟨h.name_inked, hbytes, h.name_plain⟩, h.keys_inked, h.forward⟩

/-- Whatever the strict policy accepts the lenient one accepts. -/
theorem check_lenient_of_strict {d : Document} (h : strict.check d = .ok ()) :
    lenient.check d = .ok () := by
  have hink := hasInk_iff.mp (check_strict_eq_ok_iff_acceptable.mp h).1.name_inked
  rw [check, hink]
  rfl

/-- The strict policy allows the acceptable documents whose names have no more than 255 bytes.  What
it refuses, it refuses for the first flaw, and what it allows is allowed by the lenient policy. -/
theorem check_strict_outcome (d : Document) :
    (strict.check d = .ok () ↔ d.Acceptable ∧ d.filename.utf8ByteSize ≤ 255) ∧
      (∀ flaw, strict.check d = .error flaw ↔ FirstFlaw d flaw) ∧
      (strict.check d = .ok () → lenient.check d = .ok ()) :=
  ⟨check_strict_eq_ok_iff_acceptable, fun _ ↦ check_strict_eq_error_iff, check_lenient_of_strict⟩

namespace Sample

/-- A document without tags, whose name is as many times the letter `ä`. -/
def umlauts (n : Nat) : Document := .empty (String.ofList (List.replicate n 'ä'))

theorem toList_umlauts (n : Nat) : (umlauts n).filename.toList = List.replicate n 'ä' :=
  String.toList_ofList

theorem length_umlauts (n : Nat) : (umlauts n).filename.length = n := by
  rw [← String.length_toList, toList_umlauts, List.length_replicate]

/-- The letter takes two bytes. -/
theorem utf8ByteSize_umlauts (n : Nat) : (umlauts n).filename.utf8ByteSize = n * 2 := by
  have hsize : (umlauts n).filename.utf8ByteSize = (Text.encode (umlauts n).filename).length := rfl
  have hwide : (String.utf8EncodeChar 'ä').length = 2 := rfl
  rw [hsize, Text.encode_eq_flatMap, toList_umlauts, List.length_flatMap, List.map_replicate, hwide,
    List.sum_replicate_nat]

theorem acceptable_umlauts {n : Nat} (hpos : 0 < n) (hn : n ≤ 255) : (umlauts n).Acceptable := by
  have hletter : ∀ c ∈ (umlauts n).filename.toList, c = 'ä' := by
    rw [toList_umlauts]
    exact fun c ↦ List.eq_of_mem_replicate
  obtain ⟨c, hc⟩ : ∃ c, c ∈ (umlauts n).filename.toList := by
    rw [toList_umlauts]
    exact ⟨'ä', List.mem_replicate.mpr ⟨Nat.pos_iff_ne_zero.mp hpos, rfl⟩⟩
  refine ⟨⟨c, hc, ?_⟩, ?_, fun c hc ↦ ?_, List.forall_mem_nil _, List.forall_mem_nil _⟩
  · rw [hletter c hc]
    decide
  · rw [length_umlauts]
    exact hn
  · rw [hletter c hc]
    decide

end Sample

open Sample

/-- With 127 letters of two bytes each, a name is short enough. -/
theorem check_strict_outcome_umlauts :
    strict.check (umlauts 127) = .ok () ∧ lenient.check (umlauts 127) = .ok () := by
  obtain ⟨hok, -, hlenient⟩ := check_strict_outcome (umlauts 127)
  have hbytes : (umlauts 127).filename.utf8ByteSize ≤ 255 := by
    rw [utf8ByteSize_umlauts]
    decide
  have hstrict := hok.mpr ⟨acceptable_umlauts (by decide) (by decide), hbytes⟩
  exact ⟨hstrict, hlenient hstrict⟩

/-- One letter more makes 256 bytes, and the name is called longer than 255 characters. -/
theorem long_name_of_umlauts :
    (umlauts 128).Acceptable ∧ (umlauts 128).filename.length = 128 ∧
      strict.check (umlauts 128) = .error .longFilename ∧
        Flaw.longFilename.message = "Filename cannot exceed 255 characters" := by
  have hacceptable := acceptable_umlauts (n := 128) (by decide) (by decide)
  have hbytes : 255 < (umlauts 128).filename.utf8ByteSize := by
    rw [utf8ByteSize_umlauts]
    decide
  have hflaw : FirstFlaw (umlauts 128) .longFilename := .name (.long hacceptable.name_inked hbytes)
  exact ⟨hacceptable, length_umlauts 128, check_strict_eq_error_iff.mpr hflaw, rfl⟩

end Policy

end PaperTrail
