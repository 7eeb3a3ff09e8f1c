import PaperTrail.Numeral

/-!
# Damaged exports

An export is damaged where its bytes are no text, or where its source breaks off.
-/

namespace PaperTrail.Export

/-- How far a source has been consumed: line ends met, plus one, and bytes. -/
structure Position where
  line : Nat
  offset : Nat
deriving DecidableEq

def Position.origin : Position := ⟨1, 0⟩

inductive Damage
  /-- The field of the record stops being text after `sound` bytes. -/
  | notText (record : Nat) (position : Position) (field sound : Nat)
  | sourceFailed (reason : String)
deriving DecidableEq

def Damage.message : Damage → String
  | notText record position field sound =>
      "CSV parse error: record " ++ Numeral.text record ++
        " (line " ++ Numeral.text position.line ++
        ", field: " ++ Numeral.text field ++
        ", byte: " ++ Numeral.text position.offset ++
        "): invalid utf-8: invalid UTF-8 in field " ++ Numeral.text field ++
        " near byte index " ++ Numeral.text sound
  | sourceFailed reason => reason

end PaperTrail.Export
