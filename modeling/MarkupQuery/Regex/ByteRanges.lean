import MarkupQuery.Regex.CharRanges

/-!
Ranges of characters as ranges of bytes.

A text is written in UTF-8 with one to four bytes for each character. The bytes of a range of
characters are no range in general; they are the words of several rows of byte ranges, in which each
byte may be chosen on its own.

* `byteRows`: the rows of a range, in ascending order.
* `rowsOfRanges`: the rows of a list of ranges.
-/

namespace MarkupQuery.Regex

/-- The bytes of a code point in UTF-8. -/
def codeBytes (code : Nat) : List Nat :=
  (String.utf8EncodeChar (Char.ofNat code)).map (·.toNat)

/-- Byte ranges one after another. -/
abbrev ByteRow := List (Nat × Nat)

/-- Where a range has to be cut so that its bytes behind a block of this size are free: at the end
of the first block, if the range does not begin with a whole block, else at the start of the last
one, if the range does not end with a whole block. -/
def blockCut? (first last size : Nat) : Option Nat :=
  if first / size = last / size then none
  else if first % size ≠ 0 then some (first / size * size + size - 1)
  else if last % size ≠ size - 1 then some (last / size * size - 1)
  else none

/-- The last code point before a place at which the range has to be cut: where the number of bytes
changes, or where a block ends that only one of its sides fills. -/
def cut? (first last : Nat) : Option Nat :=
  if last ≤ 0x7F then none
  else match [0x7F, 0x7FF, 0xFFFF].find? fun code => decide (first ≤ code) && decide (code < last) with
    | some code => some code
    | none => [64, 4096, 262144].findSome? (blockCut? first last)

/-- The rows of byte ranges for the characters of a range that lies on one side of U+D800. -/
def byteRows (first last : Nat) : List ByteRow :=
  match cut? first last with
  | none => [(codeBytes first).zip (codeBytes last)]
  | some code =>
    if first ≤ code ∧ code < last then byteRows first code ++ byteRows (code + 1) last else []
termination_by last - first

/-- The rows of byte ranges for the characters of a list of ranges. -/
def rowsOfRanges (ranges : Ranges) : List ByteRow :=
  ranges.flatMap fun (first, last) =>
    if first < 0xE000 ∧ 0xD7FF < last then byteRows first 0xD7FF ++ byteRows 0xE000 last
    else byteRows first last

end MarkupQuery.Regex
