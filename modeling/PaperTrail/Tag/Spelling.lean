import PaperTrail.Date.Text
import PaperTrail.Tag.Basic

/-!
# Spelled tags

A tag without separator is a label.  Otherwise the first separator ends the key, and what follows
is a period if the range mark occurs in it and a value if not.  The days of a period are written
with eight digits, and either of them may be left out.
-/

namespace PaperTrail

structure Separators where
  /-- Ends the key. -/
  keyEnd : Char := ':'
  /-- Stands between the days of a period. -/
  rangeMark : String := ".."
deriving DecidableEq

namespace Separators

open Text

def splitKey (s : Separators) (raw : String) : Option (List Char × List Char) :=
  splitFirst s.keyEnd raw.toList

/-- A day is given by eight characters; whether they are digits is for the reader of dates. -/
def hasDayWidth (cs : List Char) : Bool := cs.length == 8

/-- The text of the first and of the last day.  A range mark at the start opens the period, and
then it is not looked for at the end; likewise a range mark at the end. -/
def splitDays (s : Separators) (cs : List Char) : Option (Option String × Option String) :=
  let mark := s.rangeMark.toList
  match afterStart mark cs with
  | some last =>
      if hasDayWidth last then some (none, some (String.ofList last)) else none
  | none =>
      match beforeEnd mark cs with
      | some first =>
          if hasDayWidth first then some (some (String.ofList first), none) else none
      | none =>
          match splitAtPart mark cs with
          | some (first, last) =>
              if hasDayWidth first && hasDayWidth last then
                some (some (String.ofList first), some (String.ofList last))
              else none
          | none => none

def classify (s : Separators) (raw : String) : Except Fault Tag.Kind :=
  match s.splitKey raw with
  | none => .ok .label
  | some (_, rest) =>
      if raw.toList.getLast? = some s.keyEnd then .error (.missingValue raw)
      else if hasPart s.rangeMark.toList rest then
        if (s.splitDays rest).isSome then .ok .period else .error (.invalidRange raw)
      else .ok .value

/-- Drops a pair of quotes around a value.  A single quote mark is no pair. -/
def unquote (cs : List Char) : List Char :=
  match cs with
  | '"' :: rest => (beforeEnd ['"'] rest).getD cs
  | _ => cs

def readValue (s : Separators) (raw : String) : Except Fault ValueTag :=
  match s.splitKey raw with
  | none => .error (.missingValue raw)
  | some (key, rest) => .ok ⟨String.ofList key, String.ofList (unquote rest)⟩

def readDay : Option String → Except Fault (Option Date)
  | none => .ok none
  | some text => (Date.ofCompact text).map some

def readPeriod (s : Separators) (raw : String) : Except Fault PeriodTag :=
  match s.splitKey raw with
  | none => .error (.invalidRange raw)
  | some (key, rest) =>
      match s.splitDays rest with
      | none => .error (.invalidRange raw)
      | some (first, last) => do
          let firstDay ← readDay first
          let lastDay ← readDay last
          PeriodTag.of (String.ofList key) firstDay lastDay

def read (s : Separators) (raw : String) : Except Fault Tag := do
  match ← s.classify raw with
  | .label => return .label raw
  | .value => return .value (← s.readValue raw)
  | .period => return .period (← s.readPeriod raw)

def readAll (s : Separators) : List String → Except Fault (List Tag)
  | [] => .ok []
  | raw :: rest => do
      let tag ← s.read raw
      let tags ← s.readAll rest
      return tag :: tags

theorem readAll_cons (s : Separators) (raw : String) (rest : List String) :
    s.readAll (raw :: rest) = s.read raw >>= fun tag ↦
      s.readAll rest >>= fun tags ↦ .ok (tag :: tags) := rfl

/-- One tag that cannot be read is enough. -/
theorem readAll_fails_iff {s : Separators} {spelled : List String} :
    (∃ fault, s.readAll spelled = .error fault) ↔
      ∃ raw ∈ spelled, ∃ fault, s.read raw = .error fault := by
  induction spelled with
  | nil => simp [readAll]
  | cons raw rest ih =>
      simp only [List.mem_cons, exists_eq_or_imp]
      rw [← ih, readAll_cons]
      cases s.read raw with
      | error fault => simp [bind, Except.bind]
      | ok tag =>
          cases s.readAll rest with
          | error fault => simp [bind, Except.bind]
          | ok tags => simp [bind, Except.bind]

theorem exists_read_of_mem_readAll {s : Separators} {spelled : List String} {tags : List Tag}
    (h : s.readAll spelled = .ok tags) {t : Tag} (ht : t ∈ tags) :
    ∃ raw ∈ spelled, s.read raw = .ok t := by
  induction spelled generalizing tags with
  | nil =>
      cases h
      cases ht
  | cons raw rest ih =>
      rw [readAll_cons] at h
      obtain ⟨first, hfirst, h⟩ := Fault.bind_eq_ok_iff.mp h
      obtain ⟨others, hothers, h⟩ := Fault.bind_eq_ok_iff.mp h
      cases h
      rcases List.mem_cons.mp ht with rfl | hrest
      · exact ⟨raw, List.mem_cons_self, hfirst⟩
      · obtain ⟨other, hmem, hread⟩ := ih hothers hrest
        exact ⟨other, List.mem_cons_of_mem raw hmem, hread⟩

def dayText : Option Date → String
  | none => ""
  | some d => d.compact

def spell (s : Separators) : Tag → String
  | .label name => name
  | .value tag => tag.key ++ String.singleton s.keyEnd ++ tag.value
  | .period tag =>
      tag.key ++ String.singleton s.keyEnd ++ dayText tag.period.first ++ s.rangeMark ++
        dayText tag.period.last

theorem readAll_map_spell {s : Separators} {ts : List Tag}
    (h : ∀ t ∈ ts, s.read (s.spell t) = .ok t) : s.readAll (ts.map s.spell) = .ok ts := by
  induction ts with
  | nil => rfl
  | cons t ts ih =>
      rw [List.map_cons, readAll_cons, h t List.mem_cons_self,
        ih fun u hu ↦ h u (List.mem_cons_of_mem t hu)]
      rfl

end Separators

end PaperTrail
