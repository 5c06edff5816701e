import MarkupQuery.Regex.Basic

/-!
Sets of characters as ranges of code points.

The ranges of a list ascend, and no two of them overlap or touch. The code points between U+D800 and
U+DFFF belong to no character: a range may run across them, but they lie in no list on their own.

* `insertRange`, `unionRanges`, `complementRanges`: the set operations on such lists.
* `CharSet.ranges`: the ranges of a set.
-/

namespace MarkupQuery.Regex

/-- Closed ranges of code points, ascending and apart. -/
abbrev Ranges := List (Nat × Nat)

/-- The ranges with one more range, joined with those that it overlaps or touches. -/
def insertRange (first last : Nat) : Ranges → Ranges
  | [] => [(first, last)]
  | (lo, hi) :: rest =>
    if last + 1 < lo then (first, last) :: (lo, hi) :: rest
    else if hi + 1 < first then (lo, hi) :: insertRange first last rest
    else insertRange (min first lo) (max last hi) rest

/-- The ranges of what lies in either list. -/
def unionRanges (a b : Ranges) : Ranges :=
  a.foldl (fun ranges r => insertRange r.1 r.2 ranges) b

/-- The last code point. -/
def lastCode : Nat := 0x10FFFF

/-- The code point of the character before this one. -/
def codeBefore (code : Nat) : Nat :=
  if code = 0xE000 then 0xD7FF else code - 1

/-- The code point of the character after this one. -/
def codeAfter (code : Nat) : Nat :=
  if code = 0xD7FF then 0xE000 else code + 1

/-- The ranges of what the list leaves out, from a code point on. -/
def gapsFrom (start : Nat) : Ranges → Ranges
  | [] => if start ≤ lastCode then [(start, lastCode)] else []
  | (lo, hi) :: rest =>
    if start < lo then (start, codeBefore lo) :: gapsFrom (codeAfter hi) rest
    else gapsFrom (codeAfter hi) rest

/-- The ranges of what the list leaves out. -/
def complementRanges (ranges : Ranges) : Ranges :=
  gapsFrom 0 ranges

/-- Whether the code point lies in one of the ranges. -/
def coversCode (ranges : Ranges) (code : Nat) : Bool :=
  ranges.any fun r => decide (r.1 ≤ code) && decide (code ≤ r.2)

/-- Each code point with variants in case, apart from the first of them, with that first one. -/
def variantPairs : List (Nat × Nat) :=
  foldRuns.flatMap fun run =>
    (List.range ((run.last - run.first) / run.stride + 1)).map fun i =>
      let code := run.first + i * run.stride
      (code, ((code : Int) + run.shift).toNat)

/-- The ranges with all variants in case of what lies in them. -/
def caselessRanges (ranges : Ranges) : Ranges :=
  let met := variantPairs.filterMap fun (code, first) =>
    if coversCode ranges code || coversCode ranges first then some first else none
  variantPairs.foldl (fun ranges (code, first) =>
    if met.contains first then insertRange code code (insertRange first first ranges) else ranges)
    ranges

end MarkupQuery.Regex

namespace MarkupQuery.CharSet

open Regex

/-- The ranges of the characters in a set. -/
def ranges : CharSet → Ranges
  | .none => []
  | .range first last => if first ≤ last then [(first.toNat, last.toNat)] else []
  | .decimal => decimalRanges
  | .space => spaceRanges
  | .word => wordRanges
  | .union a b => unionRanges a.ranges b.ranges
  | .complement a => complementRanges a.ranges
  | .caseless a => caselessRanges a.ranges

end MarkupQuery.CharSet
