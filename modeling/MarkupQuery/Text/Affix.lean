import MarkupQuery.Text.Chars

/-!
Where one text stands inside another, for texts given as lists of characters.

* `occursIn`: the needle is a run of consecutive characters of the text (`occursIn_iff`).
* `words`: the maximal runs of characters that are not blank. No word is empty or holds a blank
  (`ne_nil_of_mem_words`, `not_isBlank_of_mem_words`).
-/

namespace MarkupQuery

/-- Whether `needle` is a run of consecutive characters of the text. -/
def occursIn (needle : List Char) : List Char → Bool
  | [] => needle.isEmpty
  | c :: r => needle.isPrefixOf (c :: r) || occursIn needle r

theorem occursIn_iff {needle text : List Char} : occursIn needle text ↔ needle <:+: text := by
  induction text with
  | nil => simp [occursIn]
  | cons c r ih => simp [occursIn, List.infix_cons_iff, ih]

/-- The words of a text of which `word` has been read already. -/
def wordsFrom (word : List Char) : List Char → List (List Char)
  | [] => if word.isEmpty then [] else [word]
  | c :: r =>
    if isBlank c then
      if word.isEmpty then wordsFrom [] r else word :: wordsFrom [] r
    else wordsFrom (word ++ [c]) r

/-- The maximal runs of characters that are not blank, in order. -/
def words (text : List Char) : List (List Char) :=
  wordsFrom [] text

theorem ne_nil_of_mem_wordsFrom {word text w : List Char} (h : w ∈ wordsFrom word text) :
    w ≠ [] := by
  induction text generalizing word with
  | nil =>
    rw [wordsFrom] at h
    split at h <;> simp_all
  | cons c r ih =>
    rw [wordsFrom] at h
    split at h
    · split at h
      · exact ih h
      · rcases List.mem_cons.1 h with rfl | h
        · simp_all
        · exact ih h
    · exact ih h

theorem ne_nil_of_mem_words {text w : List Char} (h : w ∈ words text) : w ≠ [] :=
  ne_nil_of_mem_wordsFrom h

theorem not_isBlank_of_mem_wordsFrom {word text w : List Char} (hword : ∀ c ∈ word, ¬ isBlank c)
    (h : w ∈ wordsFrom word text) : ∀ c ∈ w, ¬ isBlank c := by
  induction text generalizing word with
  | nil =>
    rw [wordsFrom] at h
    split at h
    · simp at h
    · rw [List.mem_singleton] at h
      exact h ▸ hword
  | cons c r ih =>
    rw [wordsFrom] at h
    split at h
    · split at h
      · exact ih (by simp) h
      · rcases List.mem_cons.1 h with rfl | h
        · exact hword
        · exact ih (by simp) h
    · refine ih (fun d hd => ?_) h
      rcases List.mem_append.1 hd with hd | hd
      · exact hword d hd
      · simp_all

theorem not_isBlank_of_mem_words {text w : List Char} (h : w ∈ words text) :
    ∀ c ∈ w, ¬ isBlank c :=
  not_isBlank_of_mem_wordsFrom (by simp) h

end MarkupQuery
