/-!
How deep the parts of a regular expression may lie inside one another.

A single part is as deep as it is, and a row of several parts is one level deeper than the deepest
of them (`rowDepth`).
-/

namespace MarkupQuery.Regex

/-- The depth of an expression that is a row of parts with these depths. -/
def rowDepth : List Nat → Nat
  | [] => 0
  | [depth] => depth
  | depths => depths.foldl max 0 + 1

/-- The depth that no expression may exceed. -/
def maxDepth : Nat := 250

end MarkupQuery.Regex
