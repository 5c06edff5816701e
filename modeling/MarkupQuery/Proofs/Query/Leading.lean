import MarkupQuery.Proofs.Query.Composition
import MarkupQuery.Proofs.Query.Refusals

/-!
Blanks and comments in front of a query.

A list of selectors drops what blanks and comments come first, and from there on it is read without
a look at what stood before. So a query behind blanks and comments is the same query further on:
whatever is wrong with it is wrong by as many characters later.

* `wholeList_behind_blanks`: the list is read as if the blanks were not there;
* `wholeList_reports`: what is wrong stands at most as far from the end as the query is long, so
  that its place counts from the start of the query;
* `compileWith_behind_blanks`: the query moves as a whole.
-/

namespace MarkupQuery.Query

variable {w : List Char}

/-- The same mistake that many characters later. -/
def Error.later (count : ℕ) (e : Error) : Error :=
  { e with position := e.position + count }

lemma selectorList_behind_blanks (E : Engine) (hw : Blanks w) (text : List Char) :
    selectorList E (w ++ text) = selectorList E text := by
  rw [← selectorList_skipBlank, skipBlank_append_of_nil (skipBlank_eq_nil_iff.mpr hw),
    selectorList_skipBlank]

lemma wholeList_behind_blanks (E : Engine) (hw : Blanks w) (text : List Char) :
    wholeList E (w ++ text) = wholeList E text := by
  rw [wholeList, wholeList, selectorList_behind_blanks E hw]

lemma wholeList_reports (E : Engine) : Reports (wholeList E) := by
  intro text f hf
  rcases bind_eq_error.1 hf with hf | ⟨⟨s, rest⟩, hs, hf⟩
  · exact selectorList_reports E text f hf
  · dsimp only at hf
    split at hf
    · cases hf
    · exact (within_failAt (by simp) hf).mono (selectorList_takes E _ _ _ hs).suffix

/-- A mistake as far from the end is later in a longer query. -/
lemma within_add {f : Failure} {length : ℕ} (hf : f.left ≤ length) (count : ℕ) :
    f.within (count + length) = (f.within length).later count := by
  simp only [Failure.within, Error.later, Error.mk.injEq, true_and, and_true]
  omega

/-- Behind blanks and comments a query compiles to the same, or has the same mistake further on. -/
lemma compileWith_append_blanks (E : Engine) {w : String} (hw : Blanks w.toList) (q : String) :
    compileWith E (w ++ q) = (compileWith E q).mapError (Error.later w.length) := by
  rw [compileWith_eq_wholeList, compileWith_eq_wholeList, String.toList_append,
    wholeList_behind_blanks E hw, String.length_append]
  cases h : wholeList E q.toList with
  | ok p => rfl
  | error f =>
      have hle := (wholeList_reports E _ _ h).left_le
      rw [String.length_toList] at hle
      exact congrArg Except.error (within_add hle w.length)

/-- **Blanks and comments in front of a query move it as a whole.** Behind them the query compiles
to the same selector, or has the same mistake by as many characters later. -/
theorem compileWith_behind_blanks (E : Engine) {w : String} (hw : Blanks w.toList) (q : String) :
    (∀ s, compileWith E (w ++ q) = .ok s ↔ compileWith E q = .ok s) ∧
    ∀ kind position cause, compileWith E q = .error ⟨kind, position, cause⟩ →
      compileWith E (w ++ q) = .error ⟨kind, position + w.length, cause⟩ := by
  rw [compileWith_append_blanks E hw]
  constructor
  · intro s
    cases compileWith E q <;> simp [Except.mapError]
  · intro kind position cause h
    rw [h]
    rfl

/-- A space, a comment that ends in two stars, and a line feed, before a query with a refused
pattern and before one without. -/
theorem compileWith_behind_comment :
    Blanks " /***/\n".toList ∧
    compileWith withoutPlus "p:matches(a+)" =
      .error ⟨.unexpectedToken, 10, some ⟨"a+", "plus sign"⟩⟩ ∧
    compileWith withoutPlus (" /***/\n" ++ "p:matches(a+)") =
      .error ⟨.unexpectedToken, 17, some ⟨"a+", "plus sign"⟩⟩ ∧
    compileWith withoutPlus "p > a" = .ok (.complex .child (.tagged "p") (.tagged "a")) ∧
    compileWith withoutPlus (" /***/\n" ++ "p > a") =
      .ok (.complex .child (.tagged "p") (.tagged "a")) := by
  have hw : Blanks " /***/\n".toList := skipBlank_eq_nil_iff.mp (by cbv)
  have hrefused : compileWith withoutPlus "p:matches(a+)" =
      .error ⟨.unexpectedToken, 10, some ⟨"a+", "plus sign"⟩⟩ := by cbv
  have hok : compileWith withoutPlus "p > a" =
      .ok (.complex .child (.tagged "p") (.tagged "a")) := by cbv
  exact ⟨hw, hrefused, (compileWith_behind_blanks withoutPlus hw _).2 _ _ _ hrefused, hok,
    ((compileWith_behind_blanks withoutPlus hw _).1 _).mpr hok⟩

end MarkupQuery.Query
