/-!
# Decimals

A decimal is a whole number of units of `10 ^ -scale`.  The scale is kept as it was written, so
`1.5` and `1.50` are different decimals that denote the same amount; a negative scale stands for
zeros that were never written out.
-/

namespace PaperTrail

structure Decimal where
  units : Int
  scale : Int
deriving DecidableEq

namespace Decimal

def ofInt (i : Int) : Decimal := ⟨i, 0⟩

def isZero (d : Decimal) : Bool := d.units == 0

/-- The scale of a decimal plays no part in its being zero. -/
@[simp] theorem isZero_eq_true_iff {d : Decimal} : d.isZero = true ↔ d.units = 0 := by
  simp [isZero]

end Decimal

end PaperTrail
