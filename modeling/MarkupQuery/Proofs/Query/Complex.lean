import MarkupQuery.Proofs.Query.Compound

/-!
Complexes and lists with a tail behind them.

* `combinator?_append`, `combinator?_stop`: the combinator, or its absence, behind a compound;
* `complexWith_resume`: a complex is read as before, and then its links go on with the tail;
* `complexWith_append`: if the tail ends the complex it is read as before and nothing more;
* `listWith_resume`: a list is read as before, and then its alternatives go on with the tail;
* `lasts`: before a closing parenthesis a list does not mind the tail, whatever the tail is.
-/

namespace MarkupQuery.Query

variable {engine : Engine} {text rest tail tail' : List Char} {s : Selector}

/-! ### Combinators -/

/-- The combinator that a character stands for. -/
def ofMark? : Char → Option Combinator
  | '>' => some .child
  | '+' => some .nextSibling
  | '~' => some .subsequentSibling
  | _ => none

/-- Whether the character ends a complex. -/
def endsComplex (c : Char) : Bool :=
  c == ',' || c == ')'

lemma combinator?_nil (h : skipBlank text = []) : combinator? text = none := by
  rw [combinator?, h]

lemma combinator?_end {c : Char} {r : List Char} (h : skipBlank text = c :: r)
    (hc : endsComplex c = true) : combinator? text = none := by
  rw [endsComplex, Bool.or_eq_true, beq_iff_eq, beq_iff_eq] at hc
  rw [combinator?, h]
  rcases hc with rfl | rfl <;> rfl

lemma combinator?_mark {c : Char} {r : List Char} {relation : Combinator}
    (h : skipBlank text = c :: r) (hc : ofMark? c = some relation) :
    combinator? text = some (relation, skipBlank r) := by
  rw [ofMark?.eq_def] at hc
  rw [combinator?, h]
  split at hc
  · cases hc
    rfl
  · cases hc
    rfl
  · cases hc
    rfl
  · cases hc

lemma combinator?_blank {c : Char} {r : List Char} (h : skipBlank text = c :: r)
    (he : endsComplex c = false) (hc : ofMark? c = none) :
    combinator? text =
      if (c :: r).length < text.length then some (.descendant, c :: r) else none := by
  have hne : ∀ d u, c :: r = d :: u → endsComplex d = false ∧ ofMark? d = none := by
    intro d u heq
    rw [← (List.cons.inj heq).1]
    exact ⟨he, hc⟩
  rw [combinator?, h]
  split
  · contradiction
  · next heq => exact absurd (hne _ _ heq).1 (by decide)
  · next heq => exact absurd (hne _ _ heq).1 (by decide)
  · next heq => exact absurd (hne _ _ heq).2 (by decide)
  · next heq => exact absurd (hne _ _ heq).2 (by decide)
  · next heq => exact absurd (hne _ _ heq).2 (by decide)
  · rfl

/-- A combinator is the same with a tail behind what it joins, if that begins with no slash. -/
lemma combinator?_append {relation : Combinator} (h : combinator? text = some (relation, rest))
    (hr : ∃ c r, rest = c :: r ∧ c ≠ '/') (tail : List Char) :
    combinator? (text ++ tail) = some (relation, rest ++ tail) := by
  obtain ⟨d, u, rfl, hd⟩ := hr
  cases hfront : skipBlank text with
  | nil =>
      rw [combinator?_nil hfront] at h
      cases h
  | cons c r =>
      by_cases he : endsComplex c = true
      · rw [combinator?_end hfront he] at h
        cases h
      rw [Bool.not_eq_true] at he
      cases hc : ofMark? c with
      | some relation' =>
          rw [combinator?_mark hfront hc] at h
          obtain ⟨rfl, hrest⟩ := Prod.mk.inj (Option.some.inj h)
          have hs : c ≠ '/' := by
            rintro rfl
            cases hc
          rw [combinator?_mark (skipBlank_append_eq hfront hs tail) hc,
            skipBlank_append_eq hrest hd tail, List.cons_append]
      | none =>
          rw [combinator?_blank hfront he hc] at h
          split at h
          · next hlt =>
            obtain ⟨rfl, hrest⟩ := Prod.mk.inj (Option.some.inj h)
            obtain ⟨rfl, rfl⟩ := List.cons.inj hrest
            rw [combinator?_blank (skipBlank_append_eq hfront hd tail) he hc, if_pos]
            · rfl
            · rw [List.length_cons] at hlt
              rw [List.length_cons, List.length_append, List.length_append]
              omega
          · cases h

/-- Where no combinator comes there comes none with a tail either, if the tail ends the complex in
case nothing is left. -/
lemma combinator?_stop (h : combinator? text = none) (hs : ∀ r, skipBlank text ≠ '/' :: r)
    (ht : skipBlank text = [] → ∃ c r, tail = c :: r ∧ endsComplex c = true) :
    combinator? (text ++ tail) = none ∧ skipBlank (text ++ tail) = skipBlank text ++ tail := by
  cases hfront : skipBlank text with
  | nil =>
      obtain ⟨c, r, rfl, hc⟩ := ht hfront
      have hblank : skipBlank (c :: r) = c :: r := by
        rw [endsComplex, Bool.or_eq_true, beq_iff_eq, beq_iff_eq] at hc
        rcases hc with rfl | rfl <;> exact skipBlank_cons rfl (by simp)
      have hfront' := (skipBlank_append_of_nil hfront (c :: r)).trans hblank
      exact ⟨combinator?_end hfront' hc, hfront'⟩
  | cons c r =>
      have hsc : c ≠ '/' := by
        rintro rfl
        exact hs r hfront
      have hfront' := skipBlank_append_eq hfront hsc tail
      refine ⟨?_, hfront'⟩
      by_cases he : endsComplex c = true
      · exact combinator?_end hfront' he
      rw [Bool.not_eq_true] at he
      cases hc : ofMark? c with
      | some relation =>
          rw [combinator?_mark hfront hc] at h
          cases h
      | none =>
          rw [combinator?_blank hfront he hc] at h
          split at h
          · cases h
          · next hlt =>
            rw [combinator?_blank hfront' he hc, if_neg]
            rw [List.length_cons] at hlt
            rw [List.length_cons, List.length_append, List.length_append]
            omega

/-! ### Complexes -/

lemma link_eq_none {nested : Rule Selector} :
    link engine nested text = .ok none ↔ combinator? text = none := by
  rw [link.eq_def]
  cases combinator? text with
  | none => simp
  | some p =>
      constructor
      · intro h
        obtain ⟨_, _, heq⟩ := map_eq_ok.1 h
        cases heq
      · intro h
        cases h

lemma link_of_combinator {nested : Rule Selector} {relation : Combinator} {u : List Char}
    (hc : combinator? text = some (relation, u)) (h : compoundWith engine nested u = .ok (s, rest)) :
    link engine nested text = .ok (some ((relation, s), rest)) := by
  rw [link, hc]
  dsimp only
  rw [h]
  rfl

lemma link_eq_some {nested : Rule Selector} {relation : Combinator}
    (h : link engine nested text = .ok (some ((relation, s), rest))) :
    ∃ u, combinator? text = some (relation, u) ∧ compoundWith engine nested u = .ok (s, rest) := by
  rw [link.eq_def] at h
  split at h
  · cases h
  · next relation' u hc =>
    obtain ⟨⟨s', r⟩, hw, heq⟩ := map_eq_ok.1 h
    cases heq
    exact ⟨u, hc, hw⟩

lemma link_extends (hl : Lasts engine tail text) {relation : Combinator}
    (h : link engine (selectorList engine) text = .ok (some ((relation, s), rest)))
    (ht : rest = [] → Apart tail) (hs : Spares engine tail s) :
    Extends (link engine (selectorList engine)) (fun y => .ok (some ((relation, s), y))) tail text
      rest := by
  obtain ⟨u, hc, hw⟩ := link_eq_some h
  refine (compoundWith_extends (hl.mono (combinator?_suffix hc)) hw ht hs).comp fun x hx => ?_
  exact link_of_combinator (combinator?_append hc (compoundWith_solid engine _ _ _ _ hw) tail) hx

/-- What is read of a complex: its first compound, its links, and where the last of them ends. -/
lemma complexWith_eq_ok {nested : Rule Selector} :
    complexWith engine nested text = .ok (s, rest) ↔
      ∃ first r links r', compoundWith engine nested (skipBlank text) = .ok (first, r) ∧
        many (link engine nested) r = .ok (links, r') ∧ Selector.chain first links = s ∧
        skipBlank r' = rest := by
  constructor
  · intro h
    obtain ⟨⟨first, r⟩, hf, h⟩ := bind_eq_ok.1 h
    obtain ⟨⟨links, r'⟩, hl, h⟩ := bind_eq_ok.1 h
    cases h
    exact ⟨first, r, links, r', hf, hl, rfl, rfl⟩
  · rintro ⟨first, r, links, r', hf, hl, rfl, rfl⟩
    exact bind_eq_ok.2 ⟨_, hf, bind_eq_ok.2 ⟨_, hl, rfl⟩⟩

/-- **A complex is read as before, and its links go on with the tail** from where they ended. Blanks
at the end of the text stay there for the next combinator. -/
theorem complexWith_resume (hl : Lasts engine tail text)
    (h : complexWith engine (selectorList engine) text = .ok (s, rest))
    (ht : rest = [] → Apart tail) (hs : Spares engine tail s) :
    ∃ r tail', skipBlank r = rest ∧ Leaves r tail tail' ∧ combinator? r = none ∧
      ∀ more rest', many (link engine (selectorList engine)) (r ++ tail') = .ok (more, rest') →
        complexWith engine (selectorList engine) (text ++ tail) =
          .ok (Selector.chain s more, skipBlank rest') := by
  have hshrinks := link_shrinks engine (selectorList_takes engine).keeps
  obtain ⟨first, r₀, links, r, hf, hm, rfl, rfl⟩ := complexWith_eq_ok.1 h
  have hgrow : ∀ a (l : Combinator × Selector),
      (Selector.complex l.1 a l.2).patterns = a.patterns ++ Patterned.patterns l :=
    fun _ _ => rfl
  obtain ⟨hsf, hsl⟩ := spares_foldl hgrow hs
  have ht' : r = [] → Apart tail := by
    rintro rfl
    exact ht rfl
  have hstop := link_eq_none.1 (many_stop hshrinks hm)
  have hblank := (compoundWith_solid engine _).skipBlank_append hf tail
  have hlb := hl.mono (skipBlank_suffix text)
  have hr₀ : r₀ = [] → Apart tail := by
    rintro rfl
    exact ht' (List.suffix_nil.1 (many_rest hshrinks hm).1)
  obtain ⟨tail₁, hleaves₁, hfirst⟩ := compoundWith_extends hlb hf hr₀ hsf
  rw [← hblank] at hfirst
  by_cases hnil : r₀ = []
  · -- the first compound ends the text, so there are no links yet
    subst hnil
    rw [many_empty hshrinks rfl] at hm
    cases hm
    refine ⟨[], tail₁, rfl, hleaves₁, hstop, fun more rest' hmore => ?_⟩
    exact complexWith_eq_ok.2 ⟨_, _, _, _, hfirst, hmore, rfl, rfl⟩
  · rw [hleaves₁.eq hnil] at hfirst
    have hlr := hlb.mono (compoundWith_takes engine (selectorList_takes engine).keeps _ _ _ hf).suffix
    have hlinks := many_append tail hshrinks rfl hm fun t l u hsuf hmem hstep hu =>
      link_extends (hlr.mono hsuf) hstep (of_next rfl ht' hu) (hsl l hmem)
    obtain ⟨tail', hleaves, hmany⟩ := hlinks
    refine ⟨r, tail', rfl, hleaves, hstop, fun more rest' hmore => ?_⟩
    dsimp only at hmany
    rw [hmore, resumed_ok] at hmany
    exact complexWith_eq_ok.2 ⟨_, _, _, _, hfirst, hmany, Selector.chain_append _ _ _, rfl⟩

/-! ### Complexes that the tail ends -/

/-- A tail that ends the complex before it. -/
def Ends (tail : List Char) : Prop :=
  ∃ c r, tail = c :: r ∧ endsComplex c = true

lemma Ends.cases (h : Ends tail) : ∃ r, tail = ',' :: r ∨ tail = ')' :: r := by
  obtain ⟨c, r, rfl, hc⟩ := h
  rw [endsComplex, Bool.or_eq_true, beq_iff_eq, beq_iff_eq] at hc
  rcases hc with rfl | rfl
  · exact ⟨r, .inl rfl⟩
  · exact ⟨r, .inr rfl⟩

lemma Ends.dropTerminator (h : Ends tail) : dropTerminator tail = tail := by
  obtain ⟨r, rfl | rfl⟩ := h.cases <;> rfl

lemma Ends.apart (h : Ends tail) : Apart tail := by
  have hs : Separates tail := by
    obtain ⟨r, rfl | rfl⟩ := h.cases <;> exact separator_of_mem (by simp)
  exact ⟨hs, h.dropTerminator.symm ▸ hs⟩

lemma Leaves.eq_of_ends (h : Leaves rest tail tail') (ht : rest = [] → Ends tail) :
    tail' = tail := by
  rcases h with heq | ⟨hr, heq⟩
  · exact heq
  · exact heq.trans (ht hr).dropTerminator

/-- Where a list may go on or end: at no slash, and at the end of the text only if the tail ends
what came before. -/
def Settled (rest tail : List Char) : Prop :=
  (∀ r, skipBlank rest ≠ '/' :: r) ∧ (rest = [] → Ends tail)

/-- A complex is read as it was before if the tail ends it. -/
theorem complexWith_append (hl : Lasts engine tail text)
    (h : complexWith engine (selectorList engine) text = .ok (s, rest)) (hr : Settled rest tail)
    (hs : Spares engine tail s) :
    complexWith engine (selectorList engine) (text ++ tail) = .ok (s, rest ++ tail) := by
  obtain ⟨r, tail', hblank, hleaves, hstop, hresume⟩ :=
    complexWith_resume hl h (fun hnil => (hr.2 hnil).apart) hs
  subst hblank
  rw [Settled, skipBlank_skipBlank] at hr
  have htail : tail' = tail := hleaves.eq_of_ends fun hnil => hr.2 (by rw [hnil]; rfl)
  subst htail
  obtain ⟨hnone, hskip⟩ := combinator?_stop hstop hr.1 hr.2
  have hmany := many_of_stop (link_shrinks engine (selectorList_takes engine).keeps)
    (link_eq_none.2 hnone)
  rw [hresume _ _ hmany, hskip]
  rfl

/-! ### Lists -/

lemma alternative_eq_some {nested : Rule Selector}
    (h : alternative engine nested text = .ok (some (s, rest))) :
    ∃ r, text = ',' :: r ∧ complexWith engine nested r = .ok (s, rest) := by
  rw [alternative.eq_def] at h
  split at h
  · exact ⟨_, rfl, found_eq_ok.1 h⟩
  · cases h

lemma alternative_of_complexWith {nested : Rule Selector}
    (h : complexWith engine nested text = .ok (s, rest)) :
    alternative engine nested (',' :: text) = .ok (some (s, rest)) :=
  found_eq_ok.2 h

lemma alternative_ne_none {nested : Rule Selector} (h : alternative engine nested text ≠ .ok none) :
    ∃ r, text = ',' :: r := by
  rw [alternative.eq_def] at h
  split at h
  · exact ⟨_, rfl⟩
  · exact absurd rfl h

lemma alternative_none_append {nested : Rule Selector} (tail : List Char)
    (h : alternative engine nested rest = .ok none) (hr : rest ≠ []) :
    alternative engine nested (rest ++ tail) = .ok none := by
  cases rest with
  | nil => exact absurd rfl hr
  | cons c r =>
      by_cases hc : c = ','
      · subst hc
        obtain ⟨_, _, heq⟩ := map_eq_ok.1 h
        cases heq
      · rw [List.cons_append, alternative.eq_def]
        split
        · next heq => exact absurd (List.cons.inj heq).1 hc
        · rfl

lemma settled_comma (r tail : List Char) : Settled (',' :: r) tail := by
  refine ⟨fun v heq => ?_, fun hnil => by cases hnil⟩
  rw [skipBlank_cons rfl (by simp)] at heq
  cases heq

/-- Between two alternatives and behind the last one the list is settled. -/
lemma settled_of_next {nested : Rule Selector} {r : List Char} (hr : Settled rest tail)
    (h : r = rest ∨ alternative engine nested r ≠ .ok none) : Settled r tail := by
  rcases h with rfl | hne
  · exact hr
  · obtain ⟨u, rfl⟩ := alternative_ne_none hne
    exact settled_comma u tail

/-- What is read of a list: its first complex and the others, one behind each comma. -/
lemma listWith_eq_ok {nested : Rule Selector} :
    listWith engine nested text = .ok (s, rest) ↔
      ∃ first r others, complexWith engine nested text = .ok (first, r) ∧
        many (alternative engine nested) r = .ok (others, rest) ∧
        others.foldl .union first = s := by
  constructor
  · intro h
    obtain ⟨⟨first, r⟩, hf, h⟩ := bind_eq_ok.1 h
    obtain ⟨⟨others, r'⟩, ho, h⟩ := bind_eq_ok.1 h
    cases h
    exact ⟨first, r, others, hf, ho, rfl⟩
  · rintro ⟨first, r, others, hf, ho, rfl⟩
    exact bind_eq_ok.2 ⟨_, hf, bind_eq_ok.2 ⟨_, ho, rfl⟩⟩

/-- **A list is read as before, and its alternatives go on with the tail** from where they ended. -/
theorem listWith_resume (hl : Lasts engine tail text)
    (h : listWith engine (selectorList engine) text = .ok (s, rest)) (hr : Settled rest tail)
    (hs : Spares engine tail s) {more : List Selector} {rest' : List Char}
    (hmore : many (alternative engine (selectorList engine)) (rest ++ tail) = .ok (more, rest')) :
    listWith engine (selectorList engine) (text ++ tail) = .ok (more.foldl .union s, rest') := by
  have hn := (selectorList_takes engine).keeps
  have hshrinks := alternative_shrinks engine hn
  obtain ⟨first, r, others, hf, ho, rfl⟩ := listWith_eq_ok.1 h
  obtain ⟨hsf, hso⟩ := spares_foldl Selector.patterns_union hs
  have hnext : r = rest ∨ alternative engine (selectorList engine) r ≠ .ok none := by
    by_cases ha : alternative engine (selectorList engine) r = .ok none
    · rw [many_of_stop hshrinks ha] at ho
      cases ho
      exact .inl rfl
    · exact .inr ha
  have hfirst := complexWith_append hl hf (settled_of_next hr hnext) hsf
  have hlr := hl.mono (complexWith_takes engine hn _ _ _ hf).suffix
  have hothers := many_append tail hshrinks rfl ho fun t o u hsuf hmem hstep hu => by
    obtain ⟨v, rfl, hc⟩ := alternative_eq_some hstep
    have hlv := (hlr.mono hsuf).mono (List.suffix_cons ',' v)
    exact .exact (found_eq_ok.2 (complexWith_append hlv hc (settled_of_next hr hu) (hso o hmem)))
  obtain ⟨tail', hleaves, hmany⟩ := hothers
  dsimp only at hmany
  rw [hleaves.eq_of_ends hr.2, hmore, resumed_ok] at hmany
  exact listWith_eq_ok.2 ⟨_, _, _, hfirst, hmany, List.foldl_append⟩

/-- **Before a closing parenthesis a list does not mind the tail**, whatever the tail is. The lists
inside it stand behind its start, so this is an induction on the length of the text. -/
theorem selectorList_append_close {r : List Char} (h : selectorList engine text = .ok (s, rest))
    (hr : skipBlank rest = ')' :: r) (hs : Spares engine tail s) :
    selectorList engine (text ++ tail) = .ok (s, rest ++ tail) := by
  induction hn : text.length using Nat.strongRecOn generalizing text rest r s with
  | ind n ih =>
      have hl : Lasts engine tail text := fun t s' u u' hb ht hu hs' =>
        ih t.length (hn ▸ hb.length_lt) ht hu hs' rfl
      have hne := ne_nil_of_skipBlank hr
      have hsettled : Settled rest tail := by
        refine ⟨fun u heq => ?_, fun hnil => absurd hnil hne⟩
        rw [hr] at heq
        cases heq
      rw [selectorList_eq] at h ⊢
      obtain ⟨_, _, _, _, ho, _⟩ := listWith_eq_ok.1 h
      have hshrinks := alternative_shrinks engine (selectorList_takes engine).keeps
      have hstop := alternative_none_append tail (many_stop hshrinks ho) hne
      exact listWith_resume hl h hsettled hs (many_of_stop hshrinks hstop)

lemma lasts (engine : Engine) (tail text : List Char) : Lasts engine tail text :=
  fun _ _ _ _ _ h hr hs => selectorList_append_close h hr hs

end MarkupQuery.Query
