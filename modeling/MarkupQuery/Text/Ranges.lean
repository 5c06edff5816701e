/-!
Sets and maps of characters given by tables.

* `inRanges`: membership in a list of closed ranges of code points.
* `Run`: the characters `first`, `first + stride`, … up to `last`, each sent to the character that
  lies `shift` code points further. `Run.image?` goes along the run and `Run.preimage?` back.
-/

namespace MarkupQuery

/-- Whether the character lies in one of the closed ranges. -/
def inRanges (ranges : List (Nat × Nat)) (c : Char) : Bool :=
  ranges.any fun r => decide (r.1 ≤ c.toNat) && decide (c.toNat ≤ r.2)

theorem inRanges_iff {ranges : List (Nat × Nat)} {c : Char} :
    inRanges ranges c ↔ ∃ r ∈ ranges, r.1 ≤ c.toNat ∧ c.toNat ≤ r.2 := by
  simp [inRanges]

/-- Evenly spaced characters that a map moves by the same distance. -/
structure Run where
  /-- The first character of the run. -/
  first : Nat
  /-- The last character of the run. -/
  last : Nat
  /-- The distance between neighbours. -/
  stride : Nat
  /-- How far each character is moved. -/
  shift : Int

namespace Run

/-- Whether the run holds this code point. -/
def holds (r : Run) (code : Nat) : Bool :=
  decide (r.first ≤ code) && decide (code ≤ r.last) && (code - r.first) % r.stride == 0

/-- Where the run sends the character, if it holds it. -/
def image? (r : Run) (c : Char) : Option Char :=
  if r.holds c.toNat then some (Char.ofNat (c.toNat + r.shift).toNat) else none

/-- The character that the run sends to `c`, if there is one. -/
def preimage? (r : Run) (c : Char) : Option Char :=
  if r.holds (c.toNat - r.shift).toNat then some (Char.ofNat (c.toNat - r.shift).toNat) else none

end Run

/-- Where the first run that holds the character sends it. -/
def shiftIn (runs : List Run) (c : Char) : Option Char :=
  runs.findSome? (·.image? c)

end MarkupQuery
