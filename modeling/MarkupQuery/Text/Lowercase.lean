import MarkupQuery.Text.Cased
import MarkupQuery.Text.Lowercase.Table

/-!
Small letters for text of any script.

* `lowerChar`: the small letter of one character, itself if it has none.
* `lowercase`: the small form of a text. Two characters need more than the table: `İ` becomes the
  two characters `i` and U+0307, and `Σ` becomes `ς` where it ends a word (`endsWord`) and `σ`
  everywhere else. On ASCII text it changes the capital letters alone (`lowercase_of_ascii`).
-/

namespace MarkupQuery

/-- The small letter of a character, where that is a single character. -/
def lowerChar (c : Char) : Char :=
  if c.toNat < 128 then c.toLower else (shiftIn lowercaseRuns c).getD c

/-- Whether the first character that is not passed over has a case. -/
def meetsCased (text : List Char) : Bool :=
  match text.dropWhile isCaseIgnorable with
  | [] => false
  | c :: _ => isCased c

/-- Whether a capital sigma ends a word: a letter stands before it and none follows. The text
before it is given nearest character first. -/
def endsWord (before after : List Char) : Bool :=
  meetsCased before && !meetsCased after

/-- The small form of one character, given the text on its two sides, the left one reversed. -/
def lowerAt (before : List Char) (c : Char) (after : List Char) : List Char :=
  if c = 'Σ' then [if endsWord before after then 'ς' else 'σ']
  else if c = 'İ' then ['i', '\u0307']
  else [lowerChar c]

/-- The small form of a text that stands behind `before`, which is given reversed. -/
def lowerFrom (before : List Char) : List Char → List Char
  | [] => []
  | c :: r => lowerAt before c r ++ lowerFrom (c :: before) r

/-- The small form of a text. -/
def lowercase (text : String) : String :=
  String.ofList (lowerFrom [] text.toList)

theorem lowerAt_of_ascii {c : Char} (h : c.toNat < 128) (before after : List Char) :
    lowerAt before c after = [c.toLower] := by
  have hs : c ≠ 'Σ' := by rintro rfl; exact absurd h (by decide)
  have hi : c ≠ 'İ' := by rintro rfl; exact absurd h (by decide)
  simp [lowerAt, lowerChar, hs, hi, h]

theorem lowerFrom_of_ascii {text : List Char} (h : ∀ c ∈ text, c.toNat < 128)
    (before : List Char) : lowerFrom before text = text.map Char.toLower := by
  induction text generalizing before with
  | nil => rfl
  | cons c r ih =>
    rw [lowerFrom, lowerAt_of_ascii (h c (by simp)), ih fun d hd => h d (by simp [hd])]
    rfl

/-- ASCII text loses its capital letters and nothing else. -/
theorem lowercase_of_ascii {text : String} (h : ∀ c ∈ text.toList, c.toNat < 128) :
    lowercase text = String.ofList (text.toList.map Char.toLower) := by
  rw [lowercase, lowerFrom_of_ascii h]

end MarkupQuery
