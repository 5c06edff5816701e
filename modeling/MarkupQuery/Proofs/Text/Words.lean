import Mathlib.Tactic
import MarkupQuery.Text.Affix

/-!
The words of a text.

Five characters part the words of a text (`separators`). All that is said here of whole texts comes
from what one character does, as it parts what comes before it from what comes behind it
(`wordsFrom_separator`) or belongs to the word being read (`wordsFrom_letter`).

* `words_append_cons`: the words before a separator and those behind it are the words of the text;
* `words_between`, `words_separators_append`, `words_append_separators`: so a run of separators
  parts words like a single one, and one at either end of the text parts nothing;
* `mem_words_iff`: the words are the texts without separators that stand in the text between
  separators or ends of it.
-/

namespace MarkupQuery

/-- What parts the words of a text: space, tab, line feed, carriage return and form feed. -/
def separators : List Char :=
  [' ', '\t', '\n', '\r', '\x0c']

variable {c : Char} {word text before after gap : List Char}

lemma isBlank_iff_mem_separators : isBlank c = true ↔ c ∈ separators := by
  rw [isBlank_iff]
  simp [separators]

/-! ### What a character does -/

/-- A separator ends the word that was being read, if there was one. -/
lemma wordsFrom_separator (hc : c ∈ separators) (word text : List Char) :
    wordsFrom word (c :: text) = wordsFrom word [] ++ words text := by
  simp only [wordsFrom, isBlank_iff_mem_separators.mpr hc, if_true, words]
  split <;> rfl

/-- Any other character goes on with the word that is being read. -/
lemma wordsFrom_letter (hc : c ∉ separators) (word text : List Char) :
    wordsFrom word (c :: text) = wordsFrom (word ++ [c]) text := by
  rw [wordsFrom, if_neg (mt isBlank_iff_mem_separators.mp hc)]

lemma mem_wordsFrom_nil : word ∈ wordsFrom before [] ↔ word = before ∧ before ≠ [] := by
  rw [wordsFrom]
  split <;> simp_all

lemma wordsFrom_append_cons (hc : c ∈ separators) (word before after : List Char) :
    wordsFrom word (before ++ c :: after) = wordsFrom word before ++ words after := by
  induction before generalizing word with
  | nil => exact wordsFrom_separator hc word after
  | cons d before ih =>
      rw [List.cons_append]
      by_cases hd : d ∈ separators
      · rw [wordsFrom_separator hd, wordsFrom_separator hd, List.append_assoc]
        exact congrArg _ (ih [])
      · rw [wordsFrom_letter hd, wordsFrom_letter hd, ih]

/-! ### Runs of separators -/

/-- A separator parts the words before it from those behind it. -/
lemma words_append_cons (hc : c ∈ separators) (before after : List Char) :
    words (before ++ c :: after) = words before ++ words after :=
  wordsFrom_append_cons hc [] before after

/-- Separators at the front of a text part nothing. -/
lemma words_separators_append (h : ∀ c ∈ gap, c ∈ separators) (text : List Char) :
    words (gap ++ text) = words text := by
  induction gap with
  | nil => rfl
  | cons c gap ih =>
      rw [List.forall_mem_cons] at h
      calc words (c :: gap ++ text)
          = words [] ++ words (gap ++ text) := words_append_cons h.1 [] (gap ++ text)
        _ = words text := ih h.2

/-- A run of separators parts words like a single one. -/
lemma words_between (hne : gap ≠ []) (h : ∀ c ∈ gap, c ∈ separators) (before after : List Char) :
    words (before ++ gap ++ after) = words before ++ words after := by
  obtain ⟨c, rest, rfl⟩ := List.exists_cons_of_ne_nil hne
  rw [List.forall_mem_cons] at h
  rw [List.append_assoc, List.cons_append, words_append_cons h.1, words_separators_append h.2]

/-- Separators at the end of a text part nothing. -/
lemma words_append_separators (h : ∀ c ∈ gap, c ∈ separators) (text : List Char) :
    words (text ++ gap) = words text := by
  by_cases hgap : gap = []
  · rw [hgap, List.append_nil]
  · calc words (text ++ gap)
        = words (text ++ gap ++ []) := by rw [List.append_nil]
      _ = words text ++ words [] := words_between hgap h text []
      _ = words text := List.append_nil _

/-! ### What the words are -/

lemma wordsFrom_of_letters (hne : word ++ text ≠ []) (h : ∀ c ∈ text, c ∉ separators) :
    wordsFrom word text = [word ++ text] := by
  induction text generalizing word with
  | nil =>
      rw [List.append_nil] at hne ⊢
      simp [wordsFrom, hne]
  | cons c text ih =>
      rw [List.forall_mem_cons] at h
      rw [List.append_cons] at hne ⊢
      rw [wordsFrom_letter h.1, ih hne h.2]

/-- A text without separators is its own only word. -/
lemma words_of_letters (hne : word ≠ []) (h : ∀ c ∈ word, c ∉ separators) : words word = [word] :=
  wordsFrom_of_letters hne h

/-- The text is empty or ends in a separator. -/
def EndsApart (before : List Char) : Prop :=
  before = [] ∨ ∃ c ∈ separators, before.getLast? = some c

/-- The text is empty or begins with a separator. -/
def BeginsApart (after : List Char) : Prop :=
  after = [] ∨ ∃ c ∈ separators, after.head? = some c

lemma EndsApart.append_cons (h : EndsApart before) (hc : c ∈ separators) (more : List Char) :
    EndsApart (more ++ c :: before) := by
  rcases h with rfl | ⟨d, hd, hlast⟩
  · exact .inr ⟨c, hc, List.getLast?_concat⟩
  · refine .inr ⟨d, hd, ?_⟩
    rw [List.getLast?_append, List.getLast?_cons, hlast]
    rfl

lemma exists_of_mem_wordsFrom {read : List Char} (h : word ∈ wordsFrom read text) :
    ∃ before after, read ++ text = before ++ word ++ after ∧
      EndsApart before ∧ BeginsApart after := by
  induction text generalizing read with
  | nil =>
      rw [(mem_wordsFrom_nil.mp h).1]
      exact ⟨[], [], rfl, .inl rfl, .inl rfl⟩
  | cons c text ih =>
      by_cases hc : c ∈ separators
      · rw [wordsFrom_separator hc, List.mem_append] at h
        rcases h with h | h
        · -- the word that was being read ends before the separator
          rw [(mem_wordsFrom_nil.mp h).1]
          exact ⟨[], c :: text, rfl, .inl rfl, .inr ⟨c, hc, rfl⟩⟩
        · -- a word of what follows the separator
          obtain ⟨before, after, heq, hbefore, hafter⟩ := ih h
          refine ⟨read ++ c :: before, after, ?_, hbefore.append_cons hc read, hafter⟩
          rw [List.nil_append] at heq
          simp [heq]
      · rw [wordsFrom_letter hc] at h
        obtain ⟨before, after, heq, hends⟩ := ih h
        exact ⟨before, after, by rw [List.append_cons, heq], hends⟩

/-- What stands apart from the rest of a text is one of its words. -/
lemma mem_words_of_apart (hne : word ≠ []) (h : ∀ c ∈ word, c ∉ separators)
    (hbefore : EndsApart before) (hafter : BeginsApart after) :
    word ∈ words (before ++ word ++ after) := by
  have hfront : word ∈ words (before ++ word) := by
    have hself : word ∈ words word := by
      rw [words_of_letters hne h]
      exact List.mem_singleton_self word
    rcases hbefore with rfl | ⟨c, hc, hlast⟩
    · exact hself
    · obtain ⟨rest, rfl⟩ := List.getLast?_eq_some_iff.mp hlast
      rw [List.append_assoc, List.singleton_append, words_append_cons hc]
      exact List.mem_append_right _ hself
  rcases hafter with rfl | ⟨c, hc, hfirst⟩
  · rwa [List.append_nil]
  · obtain ⟨rest, rfl⟩ := List.head?_eq_some_iff.mp hfirst
    rw [words_append_cons hc]
    exact List.mem_append_left _ hfront

/-- The words of a text are those texts without separators that stand in it apart from the rest. -/
lemma mem_words_iff :
    word ∈ words text ↔ word ≠ [] ∧ (∀ c ∈ word, c ∉ separators) ∧
      ∃ before after, text = before ++ word ++ after ∧ EndsApart before ∧ BeginsApart after := by
  constructor
  · intro h
    refine ⟨ne_nil_of_mem_words h, fun c hc => ?_, exists_of_mem_wordsFrom h⟩
    exact mt isBlank_iff_mem_separators.mpr (not_isBlank_of_mem_words h c hc)
  · rintro ⟨hne, hletters, before, after, rfl, hbefore, hafter⟩
    exact mem_words_of_apart hne hletters hbefore hafter

end MarkupQuery
