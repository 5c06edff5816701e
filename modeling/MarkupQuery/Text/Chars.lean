/-!
The character classes of the query language.

* `isNameStart`, `isNameChar`: what may begin a name and what may continue it. Digits and the hyphen
  continue a name but never begin one (`isNameChar_iff`), and everything above U+007F is a letter.
* `isBlank`, `isNewline`: the five blanks, three of which end a line (`isBlank_of_isNewline`).
* `isHexDigit`, `hexValue`, `hexNumber`: the digits of a numeric escape and the number they denote.
-/

namespace MarkupQuery

/-- An ASCII letter, the low line, or any character above U+007F. -/
def isNameStart (c : Char) : Bool :=
  c.isAlpha || c == '_' || decide (128 ≤ c.toNat)

/-- A character that can begin a name, a digit, or a hyphen. -/
def isNameChar (c : Char) : Bool :=
  isNameStart c || c.isDigit || c == '-'

/-- A digit, or a letter from `a` to `f` in either case. -/
def isHexDigit (c : Char) : Bool :=
  c.isDigit || (decide ('a' ≤ c) && decide (c ≤ 'f')) || (decide ('A' ≤ c) && decide (c ≤ 'F'))

/-- Line feed, carriage return or form feed. -/
def isNewline (c : Char) : Bool :=
  c == '\n' || c == '\r' || c == '\x0c'

/-- Space, tab, or a character that ends a line. -/
def isBlank (c : Char) : Bool :=
  c == ' ' || c == '\t' || isNewline c

/-- The value of a hexadecimal digit. -/
def hexValue (c : Char) : Nat :=
  if c.isDigit then c.toNat - '0'.toNat
  else if 'a' ≤ c then c.toNat - 'a'.toNat + 10
  else c.toNat - 'A'.toNat + 10

/-- The number that a run of hexadecimal digits denotes. -/
def hexNumber (digits : List Char) : Nat :=
  digits.foldl (fun n c => 16 * n + hexValue c) 0

/-- The number that a run of decimal digits denotes. -/
def decimalNumber (digits : List Char) : Nat :=
  digits.foldl (fun n c => 10 * n + (c.toNat - '0'.toNat)) 0

theorem isNameChar_iff (c : Char) :
    isNameChar c ↔ isNameStart c ∨ c.isDigit ∨ c = '-' := by
  simp [isNameChar, or_assoc]

theorem isNameChar_of_isNameStart {c : Char} (h : isNameStart c) : isNameChar c :=
  (isNameChar_iff c).2 (.inl h)

theorem isBlank_iff (c : Char) :
    isBlank c ↔ c = ' ' ∨ c = '\t' ∨ c = '\n' ∨ c = '\r' ∨ c = '\x0c' := by
  simp [isBlank, isNewline, or_assoc]

theorem isBlank_of_isNewline {c : Char} (h : isNewline c) : isBlank c := by
  simp [isBlank, h]

/-- A blank is no part of a name. -/
theorem isNameChar_eq_false_of_isBlank {c : Char} (h : isBlank c) : isNameChar c = false := by
  rcases (isBlank_iff c).1 h with rfl | rfl | rfl | rfl | rfl <;> decide

end MarkupQuery
