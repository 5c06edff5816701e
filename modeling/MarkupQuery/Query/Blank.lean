import MarkupQuery.Text.Chars

/-!
Blanks and comments, which may stand between the parts of a query.

`skipBlank` drops them from the front of a text. A comment that is never closed is none: it stays
where it is. What is left is an end of the text (`skipBlank_suffix`).
-/

namespace MarkupQuery.Query

mutual

/-- The text without the blanks and comments at its front. -/
def skipBlank : List Char → List Char
  | [] => []
  | '/' :: '*' :: r => skipComment ('/' :: '*' :: r) r
  | c :: r => if isBlank c then skipBlank r else c :: r

/-- The text behind the comment whose inside comes next, and behind what blanks and comments
follow it. Without an end of the comment it is `opening`, the text from where the comment begins. -/
def skipComment (opening : List Char) : List Char → List Char
  | [] => opening
  | '*' :: '/' :: r => skipBlank r
  | _ :: r => skipComment opening r

end

@[simp] theorem skipBlank_nil : skipBlank [] = [] := rfl

theorem skipBlank_of_isBlank {c : Char} (h : isBlank c) (r : List Char) :
    skipBlank (c :: r) = skipBlank r := by
  have hc : c ≠ '/' := by rintro rfl; exact absurd h (by decide)
  rw [skipBlank.eq_def]
  split
  · simp at *
  · simp_all
  · simp_all

mutual

/-- Dropping blanks leaves an end of the text. -/
theorem skipBlank_suffix : (text : List Char) → skipBlank text <:+ text
  | [] => List.suffix_refl _
  | c :: r => by
    rw [skipBlank.eq_def]
    split
    · contradiction
    · rename_i h
      obtain ⟨rfl, rfl⟩ := List.cons.inj h
      rcases skipComment_suffix ('/' :: '*' :: _) _ with h | h
      · exact h.trans ⟨['/', '*'], rfl⟩
      · exact (congrArg (· <:+ _) h).mpr (List.suffix_refl _)
    · rename_i h
      obtain ⟨rfl, rfl⟩ := List.cons.inj h
      split
      · exact (skipBlank_suffix _).trans (List.suffix_cons _ _)
      · exact List.suffix_refl _

/-- A comment that is closed leaves an end of the text, and any other the whole of it. -/
theorem skipComment_suffix (opening : List Char) : (text : List Char) →
    skipComment opening text <:+ text ∨ skipComment opening text = opening
  | [] => .inr rfl
  | c :: r => by
    rw [skipComment.eq_def]
    split
    · contradiction
    · rename_i h
      obtain ⟨rfl, rfl⟩ := List.cons.inj h
      exact .inl ((skipBlank_suffix _).trans ⟨['*', '/'], rfl⟩)
    · rename_i h
      obtain ⟨rfl, rfl⟩ := List.cons.inj h
      rcases skipComment_suffix opening _ with h | h
      · exact .inl (h.trans (List.suffix_cons _ _))
      · exact .inr h

end

theorem length_skipBlank_le (text : List Char) : (skipBlank text).length ≤ text.length :=
  (skipBlank_suffix text).length_le

end MarkupQuery.Query
