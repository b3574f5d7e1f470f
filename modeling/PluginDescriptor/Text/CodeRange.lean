/-!
# Ranges of code points

A class of characters is given by the ranges of its code points, in ascending order. The first
ranges of every table cover ASCII, so a look-up of common text is short.
-/

set_option autoImplicit false

namespace PluginDescriptor.Text

/-- Membership in one of the ranges, ends included. -/
def inRanges (ranges : Array (Nat × Nat)) (code : Nat) : Bool :=
  ranges.any fun (lo, hi) => lo ≤ code && code ≤ hi

/-- A row of a case table: code points `lo`, `lo + step`, … up to `hi` all move by `shift`. -/
structure ShiftRow where
  lo : Nat
  hi : Nat
  step : Nat
  shift : Int

/-- The row's image of a code point, when the row holds it. -/
def ShiftRow.image? (r : ShiftRow) (code : Nat) : Option Nat :=
  if r.lo ≤ code ∧ code ≤ r.hi ∧ (code - r.lo) % r.step = 0 then
    some ((code : Int) + r.shift).toNat
  else
    none

/-- The image of a code point under the first row that holds it. -/
def shiftBy? (rows : Array ShiftRow) (code : Nat) : Option Nat :=
  rows.findSome? (·.image? code)

end PluginDescriptor.Text
