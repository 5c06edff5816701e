/-!
Formulas `An+B`, which pick out positions that lie at a fixed distance from each other.

Steps, offsets and positions are 64-bit words. `Formula.picks` answers false where the distance from
the offset, or its quotient by the step, is not a word, so nothing wraps.
-/

namespace MarkupQuery

/-- The positions `step · n + offset` for `n = 0, 1, 2, …`. -/
structure Formula where
  /-- The distance between neighbours. -/
  step : Int64
  /-- The first position. -/
  offset : Int64
deriving DecidableEq, Repr

namespace Formula

/-- The positions 1, 3, 5, … -/
def odd : Formula := ⟨2, 1⟩

/-- The positions 2, 4, 6, … -/
def even : Formula := ⟨2, 0⟩

/-- The first position alone. -/
def first : Formula := ⟨0, 1⟩

/-- Whether an integer is a 64-bit word. -/
def isWord (n : Int) : Bool :=
  decide (Int64.minValue.toInt ≤ n) && decide (n ≤ Int64.maxValue.toInt)

/-- Whether the formula picks the position out. -/
def picks (f : Formula) (position : Int64) : Bool :=
  let distance := position.toInt - f.offset.toInt
  let step := f.step.toInt
  isWord distance &&
    if step = 0 then distance == 0
    else isWord (distance.tdiv step) && distance.tmod step == 0 && decide (0 ≤ distance.tdiv step)

end Formula

end MarkupQuery
