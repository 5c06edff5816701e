import Mathlib
import MarkupQuery.Text.Lowercase

/-!
The small form of a part of a text.

Of all characters the capital sigma alone looks around before it changes: its small form depends on
whether a letter stands before it and none behind. So the small form of a text need not be found in
the small form of a longer one. It is found in all of them just if the text settles by itself which
of its sigmas end a word (`SettlesSigmas`).

* `lowerFrom_append`: the small form of two texts, the one behind the other;
* `lowerWithin_eq_iff`: between other texts a text has the same small form just if the same sigmas
  end a word;
* `settlesSigmas_iff`: past the characters that are passed over, a sigma with nothing before it has
  a letter behind it, and one with nothing behind it has no letter before it. A text without capital
  sigmas has none to settle (`settlesSigmas_of_notMem`);
* `lowercase_infix_iff`: when the small form of a text is found wherever the text is.
-/

namespace MarkupQuery

variable {before before' after after' text w : List Char} {c : Char}

lemma toNat_le_of_isUpper (hc : c.isUpper = true) : c.toNat ≤ 90 := by
  rw [Char.isUpper, decide_eq_true_eq] at hc
  exact UInt32.le_iff_toNat_le.1 hc.2

/-! ### Past the characters that are passed over -/

lemma meetsCased_of_ignorable (h : ∀ c ∈ text, isCaseIgnorable c = true) (more : List Char) :
    meetsCased (text ++ more) = meetsCased more := by
  rw [meetsCased, meetsCased, List.dropWhile_append_of_pos h]

lemma meetsCased_eq_false (h : ∀ c ∈ text, isCaseIgnorable c = true) : meetsCased text = false := by
  have hnil := meetsCased_of_ignorable h []
  rwa [List.append_nil] at hnil

/-- What comes behind a character that is not passed over is never looked at. -/
lemma meetsCased_append (h : ¬ ∀ c ∈ text, isCaseIgnorable c = true) (more : List Char) :
    meetsCased (text ++ more) = meetsCased text := by
  obtain ⟨d, r, hd⟩ := List.exists_cons_of_ne_nil (mt List.dropWhile_eq_nil_iff.mp h)
  rw [meetsCased, meetsCased, List.dropWhile_append, hd]
  rfl

lemma meetsCased_letter : meetsCased ['A'] = true := by decide +kernel

lemma isCaseIgnorable_sigma : isCaseIgnorable 'Σ' = false := by decide +kernel

/-! ### A text between two others -/

/-- The small form of a text with one text before it, which is given reversed, and one behind it. -/
def lowerWithin (before after : List Char) : List Char → List Char
  | [] => []
  | c :: r => lowerAt before c (r ++ after) ++ lowerWithin (c :: before) after r

lemma lowerFrom_append (before text after : List Char) :
    lowerFrom before (text ++ after) =
      lowerWithin before after text ++ lowerFrom (text.reverse ++ before) after := by
  induction text generalizing before with
  | nil => rfl
  | cons c r ih =>
      rw [List.cons_append, lowerFrom, ih, lowerWithin, List.append_assoc, List.reverse_cons,
        List.append_assoc, List.singleton_append]

lemma lowerWithin_nil (before text : List Char) : lowerWithin before [] text = lowerFrom before text := by
  have h := lowerFrom_append before text []
  rw [List.append_nil, lowerFrom, List.append_nil] at h
  exact h.symm

lemma lowerWithin_append (before after a b : List Char) :
    lowerWithin before after (a ++ b) =
      lowerWithin before (b ++ after) a ++ lowerWithin (a.reverse ++ before) after b := by
  induction a generalizing before with
  | nil => rfl
  | cons c r ih =>
      rw [List.cons_append, lowerWithin, lowerWithin, ih, List.append_assoc, List.append_assoc,
        List.reverse_cons, List.append_assoc, List.singleton_append]

/-- A sigma in the text is a sigma between what stands before it and behind it. -/
lemma lowerWithin_sigma (before after a b : List Char) :
    lowerWithin before after (a ++ 'Σ' :: b) =
      lowerWithin before ('Σ' :: b ++ after) a ++
        (if endsWord (a.reverse ++ before) (b ++ after) then 'ς' else 'σ') ::
          lowerWithin ('Σ' :: (a.reverse ++ before)) after b := by
  rw [lowerWithin_append, lowerWithin, lowerAt, if_pos rfl, List.singleton_append]

lemma length_lowerAt (before before' : List Char) (c : Char) (after after' : List Char) :
    (lowerAt before c after).length = (lowerAt before' c after').length := by
  rw [lowerAt, lowerAt]
  split
  · rfl
  · split <;> rfl

lemma length_lowerWithin (before before' after after' text : List Char) :
    (lowerWithin before after text).length = (lowerWithin before' after' text).length := by
  induction text generalizing before before' with
  | nil => rfl
  | cons c r ih =>
      rw [lowerWithin, lowerWithin, List.length_append, List.length_append,
        length_lowerAt before before' c _ (r ++ after'), ih (c :: before) (c :: before')]

lemma lowerAt_eq_iff :
    lowerAt before c after = lowerAt before' c after' ↔
      (c = 'Σ' → endsWord before after = endsWord before' after') := by
  rw [lowerAt, lowerAt]
  by_cases hc : c = 'Σ'
  · rw [if_pos hc, if_pos hc]
    cases endsWord before after <;> cases endsWord before' after' <;> simp [hc]
  · rw [if_neg hc, if_neg hc]
    exact iff_of_true rfl fun h => absurd h hc

/-- Nothing but the sigmas that end a word depends on what stands around a text. -/
lemma lowerWithin_eq_iff :
    lowerWithin before after text = lowerWithin before' after' text ↔
      ∀ a b, text = a ++ 'Σ' :: b →
        endsWord (a.reverse ++ before) (b ++ after) =
          endsWord (a.reverse ++ before') (b ++ after') := by
  induction text generalizing before before' with
  | nil => exact iff_of_true rfl fun a b h => absurd h (by simp)
  | cons c r ih =>
      have hsplit : lowerWithin before after (c :: r) = lowerWithin before' after' (c :: r) ↔
          lowerAt before c (r ++ after) = lowerAt before' c (r ++ after') ∧
            lowerWithin (c :: before) after r = lowerWithin (c :: before') after' r := by
        constructor
        · exact fun h => List.append_inj h (length_lowerAt _ _ _ _ _)
        · rintro ⟨hc, hr⟩
          rw [lowerWithin, lowerWithin, hc, hr]
      rw [hsplit, lowerAt_eq_iff, ih]
      constructor
      · rintro ⟨hc, hr⟩ a b heq
        cases a with
        | nil =>
            obtain ⟨rfl, rfl⟩ := List.cons.inj heq
            exact hc rfl
        | cons d a =>
            obtain ⟨rfl, rfl⟩ := List.cons.inj heq
            simpa using hr a b rfl
      · intro h
        refine ⟨fun hc => h [] r (by rw [hc]; rfl), fun a b heq => ?_⟩
        simpa using h (c :: a) b (by rw [heq]; rfl)

/-- A text that is passed over as a whole has the same small form everywhere. -/
lemma lowerWithin_of_ignorable (h : ∀ c ∈ text, isCaseIgnorable c = true)
    (before before' after after' : List Char) :
    lowerWithin before after text = lowerWithin before' after' text := by
  refine lowerWithin_eq_iff.mpr fun a b heq => ?_
  have hsigma : isCaseIgnorable 'Σ' = true := h 'Σ' (by rw [heq]; simp)
  rw [isCaseIgnorable_sigma] at hsigma
  cases hsigma

/-! ### Texts that settle which sigmas end a word -/

/-- Whether a capital sigma of the text ends a word does not depend on what stands around the
text. -/
def SettlesSigmas (w : List Char) : Prop :=
  ∀ a b, w = a ++ 'Σ' :: b → ∀ before after,
    endsWord (a.reverse ++ before) (b ++ after) = endsWord a.reverse b

/-- Past the characters that are passed over, a sigma with nothing of the text before it has a
letter behind it, and a sigma with nothing of the text behind it has no letter before it. -/
lemma settlesSigmas_iff :
    SettlesSigmas w ↔ ∀ a b, w = a ++ 'Σ' :: b →
      ((∀ c ∈ a, isCaseIgnorable c = true) → meetsCased b = true) ∧
        ((∀ c ∈ b, isCaseIgnorable c = true) → meetsCased a.reverse = false) := by
  constructor
  · refine fun h a b hw => ⟨fun ha => ?_, fun hb => ?_⟩
    · have hrev : ∀ c ∈ a.reverse, isCaseIgnorable c = true := by simpa using ha
      have hends := h a b hw ['A'] []
      rw [List.append_nil, endsWord, endsWord, meetsCased_of_ignorable hrev, meetsCased_letter,
        meetsCased_eq_false hrev] at hends
      simpa using hends
    · have hends := h a b hw [] ['A']
      rw [List.append_nil, endsWord, endsWord, meetsCased_of_ignorable hb, meetsCased_letter,
        meetsCased_eq_false hb] at hends
      simpa using hends.symm
  · intro h a b hw before after
    obtain ⟨hfront, hback⟩ := h a b hw
    rw [endsWord, endsWord]
    by_cases hb : ∀ c ∈ b, isCaseIgnorable c = true
    · -- nothing behind the sigma counts, so something before it does, and that is no letter
      have ha : ¬ ∀ c ∈ a.reverse, isCaseIgnorable c = true := by
        intro ha
        have hcased := hfront (by simpa using ha)
        rw [meetsCased_eq_false hb] at hcased
        cases hcased
      rw [meetsCased_append ha, hback hb, Bool.false_and, Bool.false_and]
    · rw [meetsCased_append hb]
      by_cases ha : ∀ c ∈ a.reverse, isCaseIgnorable c = true
      · rw [hfront (by simpa using ha), Bool.not_true, Bool.and_false, Bool.and_false]
      · rw [meetsCased_append ha]

lemma settlesSigmas_of_notMem (h : 'Σ' ∉ w) : SettlesSigmas w := by
  rintro a b rfl
  simp at h

/-- The small form of a text that settles its sigmas is the same everywhere. -/
lemma SettlesSigmas.lowerWithin_eq (h : SettlesSigmas w) (before after : List Char) :
    lowerWithin before after w = lowerFrom [] w := by
  rw [← lowerWithin_nil]
  refine lowerWithin_eq_iff.mpr fun a b hw => ?_
  rw [List.append_nil, List.append_nil]
  exact h a b hw before after

/-! ### Small forms in small forms -/

/-- Two lists that differ at one place do not become one by a shift. -/
lemma not_infix_cons {α : Type} {m x y : List α} {p q d : α} (hpq : p ≠ q) (hpd : p ≠ d)
    (hlen : x.length = y.length) : ¬ m ++ p :: x <:+: d :: (m ++ q :: y) := by
  classical
  intro h
  rcases List.infix_cons_iff.mp h with hprefix | hinfix
  · have hshort : m ++ [p] <+: d :: (m ++ q :: y) :=
      (show m ++ [p] <+: m ++ p :: x from ⟨x, by simp⟩).trans hprefix
    have hshift : d :: m <+: d :: (m ++ q :: y) := ⟨q :: y, rfl⟩
    have heq := (List.prefix_of_prefix_length_le hshort hshift (by simp)).eq_of_length (by simp)
    have hcount := congrArg (List.count p) heq
    rw [List.count_append, List.count_singleton_self, List.count_cons_of_ne (Ne.symm hpd)] at hcount
    omega
  · have heq := hinfix.eq_of_length (by simp [hlen])
    exact hpq (List.cons.inj (List.append_cancel_left heq)).1

lemma not_infix_concat {α : Type} {m x y : List α} {p q d : α} (hpq : p ≠ q) (hpd : p ≠ d)
    (hlen : x.length = y.length) : ¬ x ++ p :: m <:+: y ++ q :: m ++ [d] := by
  intro h
  have hreverse := List.reverse_infix.mpr h
  refine not_infix_cons (m := m.reverse) (x := x.reverse) (y := y.reverse) hpq hpd (by simp [hlen]) ?_
  simpa using hreverse

/-- A letter before the text shows a sigma without a letter before it and behind it. -/
lemma meetsCased_behind {a b : List Char} (ha : ∀ c ∈ a, isCaseIgnorable c = true)
    (h : lowerFrom [] (a ++ 'Σ' :: b) <:+: lowerFrom [] ('A' :: (a ++ 'Σ' :: b))) :
    meetsCased b = true := by
  by_contra hb
  rw [Bool.not_eq_true] at hb
  have hrev : ∀ c ∈ a.reverse, isCaseIgnorable c = true := by simpa using ha
  have halone : endsWord a.reverse b = false := by
    rw [endsWord, meetsCased_eq_false hrev, Bool.false_and]
  have hshown : endsWord (a.reverse ++ ['A']) b = true := by
    rw [endsWord, meetsCased_of_ignorable hrev, meetsCased_letter, hb, Bool.not_false, Bool.and_self]
  have hletter : lowerFrom [] ('A' :: (a ++ 'Σ' :: b)) = 'a' :: lowerFrom ['A'] (a ++ 'Σ' :: b) := by
    rw [lowerFrom, lowerAt_of_ascii (by decide)]
    rfl
  rw [hletter, ← lowerWithin_nil, ← lowerWithin_nil, lowerWithin_sigma, lowerWithin_sigma] at h
  simp only [List.append_nil, halone, hshown, if_true] at h
  rw [lowerWithin_of_ignorable ha ['A'] [] _ ('Σ' :: b)] at h
  exact not_infix_cons (by decide) (by decide) (length_lowerWithin _ _ _ _ _) h

/-- A letter behind the text shows a sigma with a letter before it and nothing behind it. -/
lemma not_meetsCased_before {a b : List Char} (hb : ∀ c ∈ b, isCaseIgnorable c = true)
    (h : lowerFrom [] (a ++ 'Σ' :: b) <:+: lowerFrom [] (a ++ 'Σ' :: b ++ ['A'])) :
    meetsCased a.reverse = false := by
  by_contra ha
  rw [Bool.not_eq_false] at ha
  have halone : endsWord a.reverse b = true := by
    rw [endsWord, meetsCased_eq_false hb, ha, Bool.not_false, Bool.and_self]
  have hshown : endsWord a.reverse (b ++ ['A']) = false := by
    rw [endsWord, meetsCased_of_ignorable hb, meetsCased_letter, Bool.not_true, Bool.and_false]
  have hletter : ∀ before, lowerFrom before ['A'] = ['a'] := by
    intro before
    rw [lowerFrom, lowerAt_of_ascii (by decide)]
    rfl
  rw [lowerFrom_append _ _ ['A'], hletter, ← lowerWithin_nil [] (a ++ 'Σ' :: b), lowerWithin_sigma,
    lowerWithin_sigma] at h
  simp only [List.append_nil, halone, hshown, if_true] at h
  rw [lowerWithin_of_ignorable hb _ ('Σ' :: a.reverse) ['A'] []] at h
  exact not_infix_concat (by decide) (by decide) (length_lowerWithin _ _ _ _ _) h

/-- **A text that settles its sigmas is found in small letters wherever it is found**, and only such
a text is. -/
theorem lowercase_infix_iff (w : String) :
    (∀ text : String, w.toList <:+: text.toList →
      (lowercase w).toList <:+: (lowercase text).toList) ↔ SettlesSigmas w.toList := by
  simp only [lowercase, String.toList_ofList]
  constructor
  · refine fun h => settlesSigmas_iff.mpr fun a b hw => ⟨fun ha => ?_, fun hb => ?_⟩
    · refine meetsCased_behind ha ?_
      have hfound := h ("A" ++ w) (by rw [String.toList_append]; exact (List.suffix_append _ _).isInfix)
      rw [String.toList_append, hw] at hfound
      exact hfound
    · refine not_meetsCased_before hb ?_
      have hfound := h (w ++ "A") (by rw [String.toList_append]; exact (List.prefix_append _ _).isInfix)
      rw [String.toList_append, hw] at hfound
      exact hfound
  · rintro h text ⟨front, back, htext⟩
    rw [← htext, List.append_assoc, lowerFrom_append, lowerFrom_append, h.lowerWithin_eq]
    exact List.infix_append' _ _ _

end MarkupQuery
