import Mathlib.Tactic
import MarkupQuery.Query.Progress

/-!
Reading a text with a tail behind it.

What a rule leaves of a text it leaves of the text with the tail too, the tail behind it. The rules
for names look one character ahead, so this needs care where they leave nothing: the tail must not
go on with what was read (`Apart`), and its first blank may still belong to a numeric escape
(`Leaves`). `Extends` says that a function does on the text with its tail what another does on what
is left.

* `many_append`: a step that extends extends when it is repeated, and the repetition is taken up
  again where it ended; `many_extends`: it stays ended where the step finds nothing there.
-/

namespace MarkupQuery.Query

variable {α β : Type} {text rest tail tail' : List Char}

/-! ### Tails -/

/-- A character that goes on neither with a name nor with a compound. -/
structure Separator (c : Char) : Prop where
  not_nameChar : isNameChar c = false
  ne_backslash : c ≠ '\\'
  not_qualifier : beginsQualifier c = false

/-- What ends a list, and what stands between its compounds. -/
lemma separator_of_mem {c : Char} (hc : c ∈ [')', ',', '>', '+', '~', ' ']) : Separator c := by
  simp only [List.mem_cons, List.not_mem_nil, or_false] at hc
  rcases hc with rfl | rfl | rfl | rfl | rfl | rfl <;> exact ⟨rfl, by simp, rfl⟩

/-- The empty text, and a text that begins with a separator. -/
def Separates : List Char → Prop
  | [] => True
  | c :: _ => Separator c

/-- A tail that goes on with nothing of what comes before it, even if that takes a blank of it. -/
structure Apart (tail : List Char) : Prop where
  /-- With the whole tail nothing goes on. -/
  whole : Separates tail
  /-- Nor does anything without the blank that an escape takes. -/
  terminated : Separates (dropTerminator tail)

/-- What is left of the tail is all of it, or all but the blank of an escape right before it. -/
def Leaves (rest tail tail' : List Char) : Prop :=
  tail' = tail ∨ rest = [] ∧ tail' = dropTerminator tail

lemma Leaves.eq (h : Leaves rest tail tail') (hr : rest ≠ []) : tail' = tail :=
  h.resolve_right fun h' => hr h'.1

lemma Leaves.separates (h : Leaves rest tail tail') (ha : Apart tail) : Separates tail' := by
  rcases h with rfl | ⟨_, rfl⟩
  · exact ha.whole
  · exact ha.terminated

/-- What `f` does on the text with its tail is what `g` does on what is left with what is left of
the tail. -/
def Extends (f g : List Char → β) (tail text rest : List Char) : Prop :=
  ∃ tail', Leaves rest tail tail' ∧ f (text ++ tail) = g (rest ++ tail')

lemma Extends.exact {f g : List Char → β} (h : f (text ++ tail) = g (rest ++ tail)) :
    Extends f g tail text rest :=
  ⟨tail, .inl rfl, h⟩

lemma Extends.eq {f g : List Char → β} (h : Extends f g tail text rest) (hr : rest ≠ []) :
    f (text ++ tail) = g (rest ++ tail) := by
  obtain ⟨tail', hl, h⟩ := h
  rw [h, hl.eq hr]

/-- Where something is left nothing has to be known of the tail. -/
lemma eq_of_extends {f g : List Char → β} (tail : List Char) (hr : rest ≠ [])
    (h : (rest = [] → Apart tail) → Extends f g tail text rest) :
    f (text ++ tail) = g (rest ++ tail) :=
  (h fun hnil => absurd hnil hr).eq hr

/-- A function that is worked out from another extends with it. -/
lemma Extends.comp {γ : Type} {f g : List Char → β} {f' g' : List Char → γ} {text' : List Char}
    (h : Extends f g tail text rest) (hf : ∀ x, f (text ++ tail) = g x → f' (text' ++ tail) = g' x) :
    Extends f' g' tail text' rest := by
  obtain ⟨tail', hl, h⟩ := h
  exact ⟨tail', hl, hf _ h⟩

/-! ### Repetition -/

section

variable {step : Step α} {as : List α}

/-- The repetition ended where the step finds nothing. -/
lemma many_stop (h : Shrinks step) (hm : many step text = .ok (as, rest)) :
    step rest = .ok none := by
  induction hn : text.length using Nat.strongRecOn generalizing text as with
  | ind n ih =>
      rw [many_eq h] at hm
      split at hm
      · cases hm
      · next hs =>
        cases hm
        exact hs
      · next a r hs =>
        obtain ⟨⟨as', rest'⟩, hm', heq⟩ := map_eq_ok.1 hm
        cases heq
        exact ih r.length (hn ▸ (h _ _ _ hs).length_lt) hm' rfl

lemma many_of_stop (h : Shrinks step) (hs : step text = .ok none) :
    many step text = .ok ([], text) := by
  rw [many_eq h, hs]

lemma many_empty (h : Shrinks step) (h₀ : step [] = .ok none) : many step [] = .ok ([], []) :=
  many_of_stop h h₀

lemma many_of_found (h : Shrinks step) {a : α} (hs : step text = .ok (some (a, rest))) :
    many step text = (many step rest).map fun p => (a :: p.1, p.2) := by
  rw [many_eq h, hs]

/-- A repetition that gives nothing has read nothing. -/
lemma many_nil (h : Shrinks step) (hm : many step text = .ok ([], rest)) : rest = text := by
  rw [many_eq h] at hm
  split at hm
  · cases hm
  · cases hm
    rfl
  · obtain ⟨_, _, heq⟩ := map_eq_ok.1 hm
    cases heq

/-- All that a repetition gives was found by the step. -/
lemma many_found (h : Shrinks step) (hm : many step text = .ok (as, rest)) :
    ∀ a ∈ as, ∃ t r, step t = .ok (some (a, r)) := by
  induction hn : text.length using Nat.strongRecOn generalizing text as with
  | ind n ih =>
      rw [many_eq h] at hm
      split at hm
      · cases hm
      · cases hm
        exact fun a ha => absurd ha List.not_mem_nil
      · next b r hs =>
        obtain ⟨⟨as', rest'⟩, hm', heq⟩ := map_eq_ok.1 hm
        cases heq
        intro a ha
        rcases List.mem_cons.1 ha with rfl | ha
        · exact ⟨text, r, hs⟩
        · exact ih r.length (hn ▸ (h _ _ _ hs).length_lt) hm' rfl a ha

/-- A repetition that is taken up again with `as` found already. -/
def resumed (as : List α) (x : Except Failure (List α × List Char)) :
    Except Failure (List α × List Char) :=
  x.map fun p => (as ++ p.1, p.2)

lemma resumed_nil (x : Except Failure (List α × List Char)) : resumed [] x = x := by
  cases x <;> rfl

lemma resumed_ok (as bs : List α) : resumed as (.ok (bs, rest)) = .ok (as ++ bs, rest) :=
  rfl

lemma resumed_cons (a : α) (x : Except Failure (List α × List Char)) :
    (resumed as x).map (fun p => (a :: p.1, p.2)) = resumed (a :: as) x := by
  cases x <;> rfl

/-- What is known of the tail at the end of the text is known behind every step that counts. -/
lemma of_next {P : Prop} {r : List Char} (h₀ : step [] = .ok none) (ht : rest = [] → P)
    (hr : r = rest ∨ step r ≠ .ok none) (hnil : r = []) : P := by
  subst hnil
  exact ht (hr.resolve_right fun hne => hne h₀).symm

/-- A step is repeated over a text as it was before, and then goes on with what is left and the
tail, provided that every step it took extends. The steps that count are those that are followed by
another or by what is left in the end. -/
theorem many_append (tail : List Char) (h : Shrinks step) (h₀ : step [] = .ok none)
    (hm : many step text = .ok (as, rest))
    (hs : ∀ t a r, t <:+ text → a ∈ as → step t = .ok (some (a, r)) →
      r = rest ∨ step r ≠ .ok none → Extends step (fun y => .ok (some (a, y))) tail t r) :
    Extends (many step) (fun y => resumed as (many step y)) tail text rest := by
  induction hn : text.length using Nat.strongRecOn generalizing text as with
  | ind n ih =>
      rw [many_eq h] at hm
      split at hm
      · cases hm
      · cases hm
        exact .exact (resumed_nil _).symm
      · next a r hstep =>
        have hb := h _ _ _ hstep
        obtain ⟨⟨as', rest'⟩, hm', heq⟩ := map_eq_ok.1 hm
        cases heq
        have hnext : r = rest ∨ step r ≠ .ok none := by
          by_cases hr : step r = .ok none
          · rw [many_of_stop h hr] at hm'
            cases hm'
            exact .inl rfl
          · exact .inr hr
        obtain ⟨t₁, hl₁, h₁⟩ := hs _ _ _ (List.suffix_refl _) List.mem_cons_self hstep hnext
        have hmany := many_of_found h h₁
        by_cases hr : r = []
        · -- nothing is left behind this step, so what the escape took of the tail is taken here
          subst hr
          rw [many_empty h h₀] at hm'
          cases hm'
          exact ⟨t₁, hl₁, hmany⟩
        · obtain ⟨t₂, hl₂, h₂⟩ := ih r.length (hn ▸ hb.length_lt) hm'
            (fun t b r' ht hb' => hs t b r' (ht.trans hb.suffix) (List.mem_cons_of_mem _ hb')) rfl
          refine ⟨t₂, hl₂, ?_⟩
          rw [hmany, hl₁.eq hr, h₂]
          exact resumed_cons a _

/-- A step that decides by one character whether it finds anything, and that nothing apart begins,
finds nothing in what is left with its tail if it found nothing before. -/
lemma stop_of_head (hhead : ∀ c r r', step (c :: r) = .ok none → step (c :: r') = .ok none)
    (hsep : ∀ c r, Separator c → step (c :: r) = .ok none) (h : step rest = .ok none)
    (ht : rest = [] → Apart tail) (tail' : List Char) (hl : Leaves rest tail tail') :
    step (rest ++ tail') = .ok none := by
  cases rest with
  | nil =>
      have hs := hl.separates (ht rfl)
      cases tail' with
      | nil => exact h
      | cons c r => exact hsep c r hs
  | cons c r => exact hhead c r _ h

/-- Where the step finds nothing in what is left and the tail, the repetition ends as before. -/
lemma many_extends (h : Shrinks step) (h₀ : step [] = .ok none)
    (hm : many step text = .ok (as, rest))
    (hs : ∀ t a r, t <:+ text → a ∈ as → step t = .ok (some (a, r)) →
      r = rest ∨ step r ≠ .ok none → Extends step (fun y => .ok (some (a, y))) tail t r)
    (hstop : ∀ tail', Leaves rest tail tail' → step (rest ++ tail') = .ok none) :
    Extends (many step) (fun y => .ok (as, y)) tail text rest := by
  obtain ⟨tail', hl, heq⟩ := many_append tail h h₀ hm hs
  refine ⟨tail', hl, ?_⟩
  rw [heq]
  dsimp only
  rw [many_of_stop h (hstop _ hl), resumed_ok, List.append_nil]

end

end MarkupQuery.Query
