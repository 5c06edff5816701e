import MarkupQuery.Regex.CaseVariants
import MarkupQuery.Regex.Classes

/-!
Regular expressions as trees.

* `CharSet`: what one character may be. `CharSet.holds` is membership, and the set operations mean
  what they say (`holds_union`, `holds_complement`, `holds_inter`, `holds_diff`, `holds_symmDiff`).
* `Edge`: a condition on the place between two characters, decided by the characters on its two
  sides (`Edge.holds`).
* `Regex`: the expressions, in which flags have been resolved already.
-/

namespace MarkupQuery

/-- A set of characters. -/
inductive CharSet where
  /-- No character. -/
  | none
  /-- The characters from `first` to `last`. -/
  | range (first last : Char)
  /-- The decimal digits of every script. -/
  | decimal
  /-- White space. -/
  | space
  /-- The characters that make up words. -/
  | word
  /-- The characters of either set. -/
  | union (a b : CharSet)
  /-- The characters that are not in the set. -/
  | complement (a : CharSet)
  /-- The characters of the set and all their variants in case. -/
  | caseless (a : CharSet)

namespace CharSet

/-- Whether the character is in the set. -/
def holds : CharSet → Char → Bool
  | .none, _ => false
  | .range first last, c => decide (first ≤ c) && decide (c ≤ last)
  | .decimal, c => Regex.isDecimal c
  | .space, c => Regex.isSpace c
  | .word, c => Regex.isWord c
  | .union a b, c => a.holds c || b.holds c
  | .complement a, c => !a.holds c
  | .caseless a, c => a.holds c || (Regex.caseVariants c).any a.holds

/-- The set of one character. -/
def single (c : Char) : CharSet :=
  .range c c

/-- The characters of any of the sets. -/
def unionAll (sets : List CharSet) : CharSet :=
  sets.foldr .union .none

/-- The characters of both sets. -/
def inter (a b : CharSet) : CharSet :=
  .complement (.union (.complement a) (.complement b))

/-- The characters of the first set that the second leaves out. -/
def diff (a b : CharSet) : CharSet :=
  a.inter (.complement b)

/-- The characters of exactly one of the sets. -/
def symmDiff (a b : CharSet) : CharSet :=
  .union (a.diff b) (b.diff a)

@[simp] theorem holds_single {c d : Char} : (single c).holds d ↔ d = c := by
  simp only [single, holds, Bool.and_eq_true, decide_eq_true_eq]
  exact ⟨fun h => Char.le_antisymm h.2 h.1, fun h => by subst h; simp⟩

@[simp] theorem holds_union {a b : CharSet} {c : Char} :
    (union a b).holds c ↔ a.holds c ∨ b.holds c := by
  simp [holds]

@[simp] theorem holds_complement {a : CharSet} {c : Char} :
    (complement a).holds c ↔ ¬ a.holds c := by
  simp [holds]

@[simp] theorem holds_unionAll {sets : List CharSet} {c : Char} :
    (unionAll sets).holds c ↔ ∃ a ∈ sets, a.holds c := by
  induction sets with
  | nil => simp [unionAll, holds]
  | cons a rest ih =>
    have h : unionAll (a :: rest) = .union a (unionAll rest) := rfl
    simp [h, ih]

@[simp] theorem holds_inter {a b : CharSet} {c : Char} :
    (a.inter b).holds c ↔ a.holds c ∧ b.holds c := by
  simp [inter]

@[simp] theorem holds_diff {a b : CharSet} {c : Char} :
    (a.diff b).holds c ↔ a.holds c ∧ ¬ b.holds c := by
  simp [diff]

@[simp] theorem holds_symmDiff {a b : CharSet} {c : Char} :
    (a.symmDiff b).holds c ↔ (a.holds c ∧ ¬ b.holds c) ∨ (b.holds c ∧ ¬ a.holds c) := by
  simp [symmDiff]

end CharSet

/-- A condition on a place between two characters. -/
inductive Edge where
  /-- The start of the text. -/
  | textStart
  /-- The end of the text. -/
  | textEnd
  /-- The start of the text or the place after a line feed. -/
  | lineStart
  /-- The end of the text or the place before a line feed. -/
  | lineEnd
  /-- A word character on exactly one side. -/
  | wordEdge
  /-- A word character on both sides or on neither. -/
  | noWordEdge
  /-- A word character on the right side alone. -/
  | wordStart
  /-- A word character on the left side alone. -/
  | wordEnd
deriving DecidableEq

/-- Whether the condition holds between the characters on the two sides; there is none at an end
of the text. -/
def Edge.holds (before after : Option Char) : Edge → Bool
  | textStart => before.isNone
  | textEnd => after.isNone
  | lineStart => before.all (· == '\n')
  | lineEnd => after.all (· == '\n')
  | wordEdge => before.any Regex.isWord != after.any Regex.isWord
  | noWordEdge => before.any Regex.isWord == after.any Regex.isWord
  | wordStart => !before.any Regex.isWord && after.any Regex.isWord
  | wordEnd => before.any Regex.isWord && !after.any Regex.isWord

/-- A regular expression. -/
inductive Regex where
  /-- The empty text. -/
  | empty
  /-- One character of the set. -/
  | one (set : CharSet)
  /-- The empty text, at a place where the condition holds. -/
  | edge (condition : Edge)
  /-- A text of the first followed by one of the second. -/
  | seq (first second : Regex)
  /-- A text of either. -/
  | alt (first second : Regex)
  /-- At least `least` texts in a row, and at most `most` where a limit is given. -/
  | times (body : Regex) (least : Nat) (most : Option Nat)

namespace Regex

/-- The texts of the expressions one after another. -/
def seqAll : List Regex → Regex
  | [] => .empty
  | [r] => r
  | r :: rs => .seq r (seqAll rs)

/-- The texts of any of the expressions; there is at least one. -/
def altAll (first : Regex) : List Regex → Regex
  | [] => first
  | r :: rs => .alt first (altAll r rs)

end Regex

end MarkupQuery
