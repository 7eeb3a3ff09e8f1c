import PaperTrail.Date.Text

/-!
# Dates between separators

A delimited date is read through its three numbers.  Main statement: blanks around it make no
difference to the day that is read.
-/

namespace PaperTrail.Date

open Text

def numbers? (sep : Char) (cs : List Char) : Option (Nat × Nat × Nat) :=
  match pieces sep cs with
  | [day, month, year] => do return (← part? day, ← part? month, ← part? year)
  | _ => none

theorem ofDelimited_eq (sep : Char) (s : String) :
    ofDelimited sep s =
      match numbers? sep s.toList with
      | some (day, month, year) => ofNumbers s day month year
      | none => .error (.invalidDate s) := by
  rw [ofDelimited, numbers?]
  match pieces sep s.toList with
  | [day, month, year] =>
      dsimp only
      cases part? day <;> cases part? month <;> cases part? year <;> rfl
  | [] | [_] | [_, _] | _ :: _ :: _ :: _ :: _ => rfl

theorem ofDelimited_eq_ok_iff {sep : Char} {s : String} {d : Date} :
    ofDelimited sep s = .ok d ↔
      ∃ numbers, numbers? sep s.toList = some numbers ∧
        of? numbers.2.2 numbers.2.1 numbers.1 = some d := by
  rw [ofDelimited_eq]
  cases numbers? sep s.toList with
  | some numbers => simp [ofNumbers_eq_ok_iff]
  | none => simp

theorem ofDelimited_of_notMem {sep : Char} {s : String} (h : sep ∉ s.toList) :
    ofDelimited sep s = .error (.invalidDate s) := by
  rw [ofDelimited, pieces_of_not_mem h]

theorem numbers?_surrounded {sep : Char} (hsep : isBlank sep = false)
    {before behind : List Char} (hbefore : ∀ c ∈ before, isBlank c = true)
    (hbehind : ∀ c ∈ behind, isBlank c = true) (cs : List Char) :
    numbers? sep (before ++ cs ++ behind) = numbers? sep cs := by
  have hnotMem : ∀ {blanks : List Char}, (∀ c ∈ blanks, isBlank c = true) → sep ∉ blanks := by
    intro blanks hblanks hmem
    rw [hblanks sep hmem] at hsep
    cases hsep
  obtain ⟨first, rest, hpieces⟩ := List.exists_cons_of_ne_nil (pieces_ne_nil sep cs)
  have hbeforeCs := pieces_append_before (hnotMem hbefore) hpieces
  rcases List.eq_nil_or_concat rest with rfl | ⟨inner, last, rfl⟩
  · have hall := pieces_append_behind (hnotMem hbehind) [] hbeforeCs
    rw [numbers?, hall, numbers?, hpieces]
    rfl
  · rw [List.concat_eq_append] at hpieces hbeforeCs
    have hall := pieces_append_behind (hnotMem hbehind) ((before ++ first) :: inner) hbeforeCs
    have hfirst : part? (before ++ first) = part? first := by
      simpa [part?] using congrArg _ (trim_surrounded hbefore (List.forall_mem_nil _) first)
    have hlast : part? (last ++ behind) = part? last := by
      simpa [part?] using congrArg _ (trim_surrounded (List.forall_mem_nil _) hbehind last)
    rw [numbers?, hall, numbers?, hpieces]
    -- only the first and the last of three pieces have met the blanks
    match inner with
    | [] => rfl
    | [month] => simp [hfirst, hlast]
    | _ :: _ :: _ => simp

/-- Blanks around a delimited date do not matter, unless they separate. -/
theorem ofDelimited_spaced {sep : Char} (hsep : isBlank sep = false) {s s' : String}
    (h : Spaced s s') {d : Date} : ofDelimited sep s' = .ok d ↔ ofDelimited sep s = .ok d := by
  obtain ⟨before, behind, hbefore, hbehind, heq⟩ := h
  rw [ofDelimited_eq_ok_iff, ofDelimited_eq_ok_iff, heq,
    numbers?_surrounded hsep hbefore hbehind]

end PaperTrail.Date
