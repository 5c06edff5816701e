import Mathlib.Tactic
import MarkupQuery.Query.Blank

/-!
Blanks and comments in front of a longer text.

Dropping blanks from a text with a tail behind it is dropping them from the text first
(`skipBlank_append`). What is left of the text begins with no blank, so it stays as it is with its
tail, unless it begins with a comment that the tail may close.

* `skipBlank_skipBlank`: nothing is dropped twice;
* `skipBlank_append_eq`: what is left stays as it is unless it begins with a slash;
* `skipBlank_append_of_inert`: it stays whatever it begins with, where the tail closes no comment.

The texts of which nothing is left are those of blanks and closed comments (`skipBlank_eq_nil_iff`).
-/

namespace MarkupQuery.Query

variable {text tail : List Char} {c : Char}

/-- A text that closes no comment of a text before it: it has neither of the two characters. -/
def Inert (tail : List Char) : Prop :=
  '*' ∉ tail ∧ '/' ∉ tail

lemma skipBlank_cons {r : List Char} (hc : isBlank c = false) (hs : c ≠ '/') :
    skipBlank (c :: r) = c :: r := by
  rw [skipBlank.eq_def]
  split
  · contradiction
  · rename_i h
    exact absurd (List.cons.inj h).1 hs
  · rename_i h
    obtain ⟨rfl, rfl⟩ := List.cons.inj h
    rw [if_neg (by simp [hc])]

lemma skipBlank_blank {r : List Char} (hc : isBlank c = true) : skipBlank (c :: r) = skipBlank r :=
  skipBlank_of_isBlank hc r

lemma skipBlank_comment (r : List Char) :
    skipBlank ('/' :: '*' :: r) = skipComment ('/' :: '*' :: r) r := by
  rw [skipBlank]

lemma skipComment_close (opening r : List Char) :
    skipComment opening ('*' :: '/' :: r) = skipBlank r := by
  rw [skipComment]

lemma skipComment_cons {opening r : List Char} (h : ∀ r', c :: r ≠ '*' :: '/' :: r') :
    skipComment opening (c :: r) = skipComment opening r := by
  rw [skipComment.eq_def]
  split
  · contradiction
  · rename_i heq
    exact absurd heq (h _)
  · rename_i heq
    obtain ⟨rfl, rfl⟩ := List.cons.inj heq
    rfl

/-- A slash that opens no comment stays. -/
lemma skipBlank_slash {r : List Char} (h : ∀ r', r ≠ '*' :: r') :
    skipBlank ('/' :: r) = '/' :: r := by
  rw [skipBlank.eq_def]
  split
  · contradiction
  · rename_i heq
    exact absurd (List.cons.inj heq).2 (h _)
  · rename_i heq
    obtain ⟨rfl, rfl⟩ := List.cons.inj heq
    rw [if_neg (by decide)]

mutual

/-- Blanks are dropped from a text before what stands behind it is looked at. -/
lemma skipBlank_append (tail : List Char) : (text : List Char) →
    skipBlank (text ++ tail) = skipBlank (skipBlank text ++ tail)
  | [] => by rw [skipBlank_nil]
  | [c] => by
      by_cases hc : isBlank c = true
      · rw [List.cons_append, skipBlank_blank hc, skipBlank_blank hc, skipBlank_nil]
      · by_cases hs : c = '/'
        · subst hs
          rw [skipBlank_slash (r := []) (by simp)]
        · rw [skipBlank_cons (Bool.not_eq_true _ ▸ hc) hs]
  | c :: d :: r => by
      by_cases hc : isBlank c = true
      · rw [List.cons_append, skipBlank_blank hc, skipBlank_blank hc, skipBlank_append tail (d :: r)]
      · by_cases hs : c = '/'
        · subst hs
          by_cases hd : d = '*'
          · subst hd
            rw [skipBlank_comment r]
            exact skipComment_append tail ('/' :: '*' :: r) r (skipBlank_comment (r ++ tail))
          · rw [skipBlank_slash (r := d :: r) fun r' h => hd (List.cons.inj h).1]
        · rw [skipBlank_cons (Bool.not_eq_true _ ▸ hc) hs]

/-- A comment that is closed in a text is closed there whatever stands behind it; one that is not
closed is looked at again with the tail. The hypothesis says that `text` is what is left of it. -/
lemma skipComment_append (tail opening : List Char) : (text : List Char) →
    skipBlank (opening ++ tail) = skipComment (opening ++ tail) (text ++ tail) →
    skipBlank (opening ++ tail) = skipBlank (skipComment opening text ++ tail)
  | [], _ => rfl
  | [c], _ => by rw [skipComment_cons (by simp), skipComment]
  | c :: d :: r, h => by
      by_cases hcd : c = '*' ∧ d = '/'
      · obtain ⟨rfl, rfl⟩ := hcd
        rw [skipComment_close, ← skipBlank_append tail r, h]
        exact skipComment_close _ _
      · have hne : ∀ s r', c :: d :: s ≠ '*' :: '/' :: r' := by
          intro s r' heq
          rw [List.cons.injEq, List.cons.injEq] at heq
          exact hcd ⟨heq.1, heq.2.1⟩
        rw [skipComment_cons (hne r)]
        refine skipComment_append tail opening (d :: r) (h.trans ?_)
        exact skipComment_cons (hne (r ++ tail))

end

/-! ### Nothing is dropped twice -/

@[simp] lemma skipBlank_skipBlank (text : List Char) : skipBlank (skipBlank text) = skipBlank text := by
  have h := skipBlank_append [] text
  rw [List.append_nil, List.append_nil] at h
  exact h.symm

/-- No blank is left at the front. -/
lemma isBlank_of_skipBlank {r : List Char} (h : skipBlank text = c :: r) : isBlank c = false := by
  by_contra hc
  have hfix : skipBlank (c :: r) = c :: r := by
    rw [← h, skipBlank_skipBlank]
  rw [skipBlank_blank (Bool.of_not_eq_false hc)] at hfix
  have hle := length_skipBlank_le r
  rw [hfix, List.length_cons] at hle
  omega

/-- Where no slash is left at the front, what is left stays as it is with its tail. -/
lemma skipBlank_append_eq {r : List Char} (h : skipBlank text = c :: r) (hs : c ≠ '/')
    (tail : List Char) : skipBlank (text ++ tail) = c :: (r ++ tail) := by
  rw [skipBlank_append, h, List.cons_append, skipBlank_cons (isBlank_of_skipBlank h) hs]

/-- A slash with something else behind it than a star opens no comment with any tail. -/
lemma skipBlank_append_slash {r : List Char} (h : skipBlank text = '/' :: c :: r) (hc : c ≠ '*')
    (tail : List Char) : skipBlank (text ++ tail) = '/' :: c :: (r ++ tail) := by
  rw [skipBlank_append, h]
  exact skipBlank_slash fun r' heq => hc (List.cons.inj heq).1

/-- Of blanks and comments alone nothing is left, and the tail comes next. -/
lemma skipBlank_append_of_nil (h : skipBlank text = []) (tail : List Char) :
    skipBlank (text ++ tail) = skipBlank tail := by
  rw [skipBlank_append, h, List.nil_append]

/-! ### Tails that close nothing -/

lemma skipComment_of_notMem (opening : List Char) (h : '*' ∉ tail) :
    skipComment opening tail = opening := by
  induction tail with
  | nil => rw [skipComment]
  | cons c r ih =>
      rw [List.mem_cons, not_or] at h
      have hne : ∀ r', c :: r ≠ '*' :: '/' :: r' := fun r' heq => h.1 (List.cons.inj heq).1.symm
      rw [skipComment_cons hne]
      exact ih h.2

lemma skipComment_append_of_inert (hi : Inert tail) {opening : List Char} :
    (text : List Char) → text.length < opening.length → skipComment opening text = opening →
    skipComment (opening ++ tail) (text ++ tail) = opening ++ tail
  | [], _, _ => skipComment_of_notMem _ hi.1
  | [c], _, _ => by
      have hne : ∀ r', c :: tail ≠ '*' :: '/' :: r' := by
        intro r' heq
        exact hi.2 (List.mem_of_mem_head? (by rw [(List.cons.inj heq).2]; rfl))
      rw [List.singleton_append, skipComment_cons hne]
      exact skipComment_of_notMem _ hi.1
  | c :: d :: r, hlt, h => by
      rw [List.length_cons, List.length_cons] at hlt
      by_cases hcd : c = '*' ∧ d = '/'
      · obtain ⟨rfl, rfl⟩ := hcd
        rw [skipComment_close] at h
        have hle := length_skipBlank_le r
        rw [h] at hle
        omega
      · have hne : ∀ s r', c :: d :: s ≠ '*' :: '/' :: r' := by
          intro s r' heq
          rw [List.cons.injEq, List.cons.injEq] at heq
          exact hcd ⟨heq.1, heq.2.1⟩
        rw [skipComment_cons (hne r)] at h
        rw [List.cons_append, List.cons_append, skipComment_cons (hne _)]
        exact skipComment_append_of_inert hi (d :: r) (by rw [List.length_cons]; omega) h

/-- With a tail that closes nothing, what is left stays as it is, whatever it begins with. -/
lemma skipBlank_append_of_inert {r : List Char} (hi : Inert tail) (h : skipBlank text = c :: r) :
    skipBlank (text ++ tail) = c :: (r ++ tail) := by
  by_cases hs : c = '/'
  · subst hs
    have hfix : skipBlank ('/' :: r) = '/' :: r := by
      rw [← h, skipBlank_skipBlank]
    rw [skipBlank_append, h, List.cons_append]
    match r with
    | [] =>
        refine skipBlank_slash fun r' heq => hi.1 ?_
        rw [List.nil_append] at heq
        rw [heq]
        exact List.mem_cons_self
    | d :: r =>
        by_cases hd : d = '*'
        · subst hd
          rw [skipBlank_comment] at hfix
          rw [List.cons_append, skipBlank_comment]
          exact skipComment_append_of_inert hi r (by simp only [List.length_cons]; omega) hfix
        · exact skipBlank_slash fun r' heq => hd (List.cons.inj heq).1
  · exact skipBlank_append_eq h hs tail

/-! ### Texts of blanks and comments -/

/-- A text of blanks and closed comments. Inside of a comment there is no end of one. -/
inductive Blanks : List Char → Prop where
  | nil : Blanks []
  | blank {c : Char} {r : List Char} (hc : isBlank c = true) (hr : Blanks r) : Blanks (c :: r)
  | comment {body r : List Char} (hbody : ¬ ['*', '/'] <:+: body) (hr : Blanks r) :
      Blanks ('/' :: '*' :: (body ++ '*' :: '/' :: r))

/-- A comment goes up to the first end of one. -/
lemma skipComment_body {body : List Char} (h : ¬ ['*', '/'] <:+: body) (opening r : List Char) :
    skipComment opening (body ++ '*' :: '/' :: r) = skipBlank r := by
  induction body with
  | nil => exact skipComment_close opening r
  | cons c body ih =>
      have hne : ∀ r', c :: (body ++ '*' :: '/' :: r) ≠ '*' :: '/' :: r' := by
        intro r' heq
        obtain ⟨hc, hrest⟩ := List.cons.inj heq
        cases body with
        | nil => cases (List.cons.inj hrest).1
        | cons d body =>
            rw [hc, (List.cons.inj hrest).1] at h
            exact h (List.prefix_append ['*', '/'] body).isInfix
      rw [List.cons_append, skipComment_cons hne]
      exact ih fun hinfix => h (List.infix_cons hinfix)

/-- What is left behind a comment is what is left behind the first end of one, if there is any. -/
lemma skipComment_cases (opening text : List Char) :
    (∃ body r, text = body ++ '*' :: '/' :: r ∧ ¬ ['*', '/'] <:+: body ∧
        skipComment opening text = skipBlank r) ∨
      ¬ ['*', '/'] <:+: text ∧ skipComment opening text = opening := by
  induction text with
  | nil => exact .inr ⟨by simp, by rw [skipComment]⟩
  | cons c text ih =>
      by_cases hend : ∃ r, c :: text = '*' :: '/' :: r
      · obtain ⟨r, hr⟩ := hend
        rw [hr]
        exact .inl ⟨[], r, rfl, by simp, skipComment_close opening r⟩
      · have hprefix : ∀ u, u <+: text → ¬ ['*', '/'] <+: c :: u := by
          rintro u hu ⟨v, hv⟩
          obtain ⟨w, hw⟩ := List.cons_prefix_cons.mpr ⟨rfl, hu⟩
          exact hend ⟨v ++ w, by rw [← hw, ← hv]; rfl⟩
        rw [skipComment_cons fun r hr => hend ⟨r, hr⟩]
        rcases ih with ⟨body, r, rfl, hbody, hskip⟩ | ⟨hnone, hskip⟩
        · refine .inl ⟨c :: body, r, rfl, fun hinfix => ?_, hskip⟩
          rcases List.infix_cons_iff.mp hinfix with hp | hi
          · exact hprefix body (List.prefix_append _ _) hp
          · exact hbody hi
        · refine .inr ⟨fun hinfix => ?_, hskip⟩
          rcases List.infix_cons_iff.mp hinfix with hp | hi
          · exact hprefix text List.prefix_rfl hp
          · exact hnone hi

/-- Nothing is left of a text of blanks and closed comments, and of no other. -/
theorem skipBlank_eq_nil_iff : skipBlank text = [] ↔ Blanks text := by
  constructor
  · intro h
    induction hn : text.length using Nat.strongRecOn generalizing text with
    | ind n ih =>
        match text with
        | [] => exact .nil
        | c :: r =>
            by_cases hc : isBlank c = true
            · rw [skipBlank_blank hc] at h
              exact .blank hc (ih r.length (by rw [← hn, List.length_cons]; omega) h rfl)
            · by_cases hcomment : ∃ u, c :: r = '/' :: '*' :: u
              · obtain ⟨u, hu⟩ := hcomment
                rw [hu, skipBlank_comment] at h
                rcases skipComment_cases ('/' :: '*' :: u) u with
                  ⟨body, v, rfl, hbody, hskip⟩ | ⟨_, hskip⟩
                · rw [hu] at hn ⊢
                  refine .comment hbody (ih v.length ?_ (hskip ▸ h) rfl)
                  simp only [List.length_cons, List.length_append] at hn
                  omega
                · rw [hskip] at h
                  cases h
              · have hstays : skipBlank (c :: r) = c :: r := by
                  by_cases hs : c = '/'
                  · subst hs
                    exact skipBlank_slash fun r' hr => hcomment ⟨r', by rw [hr]⟩
                  · exact skipBlank_cons (Bool.of_not_eq_true hc) hs
                rw [hstays] at h
                cases h
  · intro h
    induction h with
    | nil => rfl
    | blank hc _ ih => rw [skipBlank_blank hc, ih]
    | comment hbody _ ih => rw [skipBlank_comment, skipComment_body hbody, ih]

end MarkupQuery.Query
