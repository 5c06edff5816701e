import MarkupQuery.Proofs.Text.Words
import MarkupQuery.Selector.ValueTest

/-!
Values that include a word.

A value includes what is one of its words, and of a value nothing but its words counts
(`accepts_includes_congr`). So all there is to say of the test follows from what is known of words
(`mem_words_iff`, `words_between`): `includes_spec` says where the operand has to stand in the
value, and which changes to the value make no difference.
-/

namespace MarkupQuery.ValueTest

variable {value value' word : String}

lemma accepts_includes : (includes word).accepts value = true ↔ word.toList ∈ words value.toList :=
  List.contains_iff_mem

/-- Values of the same words include the same ones. -/
lemma accepts_includes_congr (h : words value.toList = words value'.toList) :
    (includes word).accepts value = (includes word).accepts value' :=
  congrArg (List.contains · word.toList) h

lemma accepts_includes_iff :
    (includes word).accepts value = true ↔
      word ≠ "" ∧ (∀ c ∈ word.toList, c ∉ separators) ∧
      ∃ before after : String, value = before ++ word ++ after ∧
        EndsApart before.toList ∧ BeginsApart after.toList := by
  rw [accepts_includes, mem_words_iff, ne_eq, String.toList_eq_nil_iff]
  refine and_congr_right fun _ => and_congr_right fun _ => ⟨?_, ?_⟩
  · rintro ⟨before, after, heq, hends⟩
    refine ⟨String.ofList before, String.ofList after, ?_, by simpa using hends⟩
    rw [← String.toList_inj, heq]
    simp
  · rintro ⟨before, after, rfl, hends⟩
    exact ⟨before.toList, after.toList, by simp, hends⟩

/-- **A value includes a word** just if the word is not empty, has no separators and stands in the
value apart from the rest. Separators put at either end of the value make no difference, nor does
another run of them in the place of one. A value that is such a word includes it. -/
theorem includes_spec (word value : String) :
    ((includes word).accepts value = true ↔
      word ≠ "" ∧ (∀ c ∈ word.toList, c ∉ separators) ∧
      ∃ before after : String, value = before ++ word ++ after ∧
        EndsApart before.toList ∧ BeginsApart after.toList) ∧
    (∀ left right : String, (∀ c ∈ left.toList, c ∈ separators) →
      (∀ c ∈ right.toList, c ∈ separators) →
      (includes word).accepts (left ++ value ++ right) = (includes word).accepts value) ∧
    (∀ before gap gap' after : String, value = before ++ gap ++ after →
      gap ≠ "" → (∀ c ∈ gap.toList, c ∈ separators) →
      gap' ≠ "" → (∀ c ∈ gap'.toList, c ∈ separators) →
      (includes word).accepts (before ++ gap' ++ after) = (includes word).accepts value) ∧
    (word ≠ "" → (∀ c ∈ word.toList, c ∉ separators) →
      (equals word).accepts value = true → (includes word).accepts value = true) := by
  refine ⟨accepts_includes_iff, fun left right hleft hright => ?_,
    fun before gap gap' after heq hne hgap hne' hgap' => ?_, fun hne hletters hequals => ?_⟩
  · refine accepts_includes_congr ?_
    rw [String.toList_append, String.toList_append, words_append_separators hright,
      words_separators_append hleft]
  · rw [ne_eq, ← String.toList_eq_nil_iff] at hne hne'
    refine accepts_includes_congr ?_
    rw [heq, String.toList_append, String.toList_append, String.toList_append, String.toList_append,
      words_between hne hgap, words_between hne' hgap']
  · obtain rfl : value = word := by simpa [accepts] using hequals
    exact accepts_includes_iff.mpr
      ⟨hne, hletters, "", "", by simp, .inl rfl, .inl rfl⟩

/-- A word that the value begins with as part of a longer one, and ends with as a word of its own.
It stays there with a line feed in the place of the tab and the space, and with blanks around the
value. -/
theorem includes_behind_longer :
    "foo" ≠ "" ∧ (∀ c ∈ "foo".toList, c ∉ separators) ∧
    (∀ c ∈ "\t ".toList, c ∈ separators) ∧ (∀ c ∈ "\n".toList, c ∈ separators) ∧
    (includes "foo").accepts "foobar\t foo" = true ∧
    (includes "foo").accepts "foobar\nfoo" = true ∧
    (includes "foo").accepts "\nfoobar\t foo\t " = true ∧
    (equals "foo").accepts "foo" = true ∧ (includes "foo").accepts "foo" = true := by
  have hne : "foo" ≠ "" := by decide
  have hletters : ∀ c ∈ "foo".toList, c ∉ separators := by simp [separators]
  have hgap : ∀ c ∈ "\t ".toList, c ∈ separators := by simp [separators]
  have hfeed : ∀ c ∈ "\n".toList, c ∈ separators := by simp [separators]
  obtain ⟨hiff, haround, hbetween, _⟩ := includes_spec "foo" "foobar\t foo"
  have hends : EndsApart "foobar\t ".toList := .inr ⟨' ', by decide, by decide⟩
  have hfound := hiff.mpr ⟨hne, hletters, "foobar\t ", "", rfl, hends, .inl rfl⟩
  have hequals : (equals "foo").accepts "foo" = true := by decide
  refine ⟨hne, hletters, hgap, hfeed, hfound, ?_, ?_, hequals,
    (includes_spec "foo" "foo").2.2.2 hne hletters hequals⟩
  · exact (hbetween "foobar" "\t " "\n" "foo" rfl (by decide) hgap (by decide) hfeed).trans hfound
  · exact (haround "\n" "\t " hfeed hgap).trans hfound

end MarkupQuery.ValueTest
