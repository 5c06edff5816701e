import Mathlib
import MarkupQuery.Proofs.Query.Bounds
import MarkupQuery.Proofs.Query.Complex
import MarkupQuery.Query.Compile

/-!
Queries put together from queries.

A query that compiles may stand in a pseudo-class, before a comma or before a combinator, and what
comes out is put together from what it compiles to.

* `isCompound_compoundWith`, `not_isAny_complexWith`: what compounds and complexes give;
* `qualifier_wrapped`, `selectorList_comma`, `selectorList_linked`: the three ways to put lists
  together;
* `compileWith_compositional`: the same about whole queries.
-/

namespace MarkupQuery.Query

variable {engine : Engine} {nested : Rule Selector} {text rest : List Char} {s : Selector}

/-! ### What compounds and complexes give -/

lemma isCompound_attributeSelector (h : attributeSelector engine text = .ok (s, rest)) :
    s.isCompound = true := by
  obtain ⟨⟨key, r⟩, _, h⟩ := bind_eq_ok.1 h
  dsimp only at h
  split at h
  · exact absurd h failAt_ne_ok
  · cases h
    rfl
  · obtain ⟨_, _, h⟩ := bind_eq_ok.1 h
    obtain ⟨_, _, h⟩ := bind_eq_ok.1 h
    obtain ⟨_, _, h⟩ := bind_eq_ok.1 h
    cases h
    rfl

lemma isCompound_argument {p : PseudoClass} (h : p.argument engine nested text = .ok (s, rest)) :
    s.isCompound = true := by
  cases p with
  | wrapper w =>
      obtain ⟨_, _, heq⟩ := map_eq_ok.1 h
      cases heq
      cases w <;> rfl
  | plain test =>
      cases h
      rfl
  | _ =>
      rw [PseudoClass.argument] at h
      obtain ⟨_, _, heq⟩ := map_eq_ok.1 h
      cases heq
      rfl

lemma isCompound_pseudoClass (h : pseudoClass engine nested text = .ok (s, rest)) :
    s.isCompound = true := by
  obtain ⟨⟨name, r⟩, _, h⟩ := bind_eq_ok.1 h
  dsimp only at h
  split at h
  · exact isCompound_argument h
  · exact absurd h failAt_ne_ok

lemma isCompound_qualifier (h : qualifier engine nested text = .ok (some (s, rest))) :
    s.isCompound = true := by
  rw [qualifier.eq_def] at h
  split at h
  · obtain ⟨_, _, heq⟩ := map_eq_ok.1 h
    cases heq
    rfl
  · obtain ⟨_, _, heq⟩ := map_eq_ok.1 h
    cases heq
    rfl
  · exact isCompound_attributeSelector (found_eq_ok.1 h)
  · exact isCompound_pseudoClass (found_eq_ok.1 h)
  · cases h

lemma isCompound_compoundHead (h : compoundHead text = .ok (s, rest)) : s.isCompound = true := by
  rw [compoundHead.eq_def] at h
  split at h
  · exact absurd h failAt_ne_ok
  · split at h
    · cases h
      rfl
    · split at h
      · cases h
        rfl
      · obtain ⟨_, _, heq⟩ := map_eq_ok.1 h
        cases heq
        rfl

lemma isCompound_compoundWith (hn : Keeps nested)
    (h : compoundWith engine nested text = .ok (s, rest)) : s.isCompound = true := by
  obtain ⟨⟨head, r⟩, hh, h⟩ := bind_eq_ok.1 h
  obtain ⟨⟨qs, r'⟩, hq, h⟩ := bind_eq_ok.1 h
  cases h
  refine Selector.isCompound_foldl_inter (isCompound_compoundHead hh) fun q hmem => ?_
  obtain ⟨_, _, hstep⟩ := many_found (qualifier_shrinks engine hn) hq q hmem
  exact isCompound_qualifier hstep

lemma not_isAny_complexWith (hn : Keeps nested)
    (h : complexWith engine nested text = .ok (s, rest)) : s.isAny = false := by
  obtain ⟨first, _, links, _, hf, _, rfl, _⟩ := complexWith_eq_ok.1 h
  rcases Selector.chain_cases first links with rfl | ⟨relation, left, right, heq⟩
  · exact Selector.not_isAny_of_isCompound (isCompound_compoundWith hn hf)
  · rw [heq]
    rfl

lemma not_isAny_alternatives (hn : Keeps nested) {others : List Selector}
    (h : many (alternative engine nested) text = .ok (others, rest)) :
    ∀ o ∈ others, o.isAny = false := by
  intro o ho
  obtain ⟨t, r, hstep⟩ := many_found (alternative_shrinks engine hn) h o ho
  obtain ⟨_, _, hc⟩ := alternative_eq_some hstep
  exact not_isAny_complexWith hn hc

/-! ### Lists put together -/

lemma selectorList_eq_ok :
    selectorList engine text = .ok (s, rest) ↔
      ∃ first r others, complexWith engine (selectorList engine) text = .ok (first, r) ∧
        many (alternative engine (selectorList engine)) r = .ok (others, rest) ∧
        others.foldl .union first = s := by
  rw [selectorList_eq]
  exact listWith_eq_ok

/-- A list that ends the text goes on with a tail that begins where a complex may end. -/
lemma selectorList_append {tail : List Char} (h : selectorList engine text = .ok (s, []))
    (ht : Ends tail) (hs : Spares engine tail s) {more : List Selector}
    (hmore : many (alternative engine (selectorList engine)) tail = .ok (more, rest)) :
    selectorList engine (text ++ tail) = .ok (more.foldl .union s, rest) := by
  have hsettled : Settled [] tail := ⟨by simp, fun _ => ht⟩
  rw [selectorList_eq] at h ⊢
  exact listWith_resume (lasts engine tail text) h hsettled hs hmore

lemma inert_singleton {c : Char} (h₁ : c ≠ '*') (h₂ : c ≠ '/') : Inert [c] :=
  ⟨by simpa using h₁.symm, by simpa using h₂.symm⟩

lemma selectorList_skipBlank (engine : Engine) (text : List Char) :
    selectorList engine (skipBlank text) = selectorList engine text := by
  rw [selectorList_eq, selectorList_eq, listWith, listWith, complexWith, complexWith,
    skipBlank_skipBlank]

/-! #### In parentheses -/

/-- The name of a pseudo-class that holds a list. -/
def Wrapper.word : Wrapper → List Char
  | not => ['n', 'o', 't']
  | has => ['h', 'a', 's']
  | hasChild => ['h', 'a', 's', 'C', 'h', 'i', 'l', 'd']

lemma identifier_word_wrapper (w : Wrapper) (text : List Char) :
    identifier (w.word ++ '(' :: text) = .ok (String.ofList w.word, '(' :: text) := by
  have hstop : nameChar ('(' :: text) = .ok none := nameChar_cons_eq_none.2 (by decide)
  cases w with
  | not => exact name_of_nameChars rfl hstop
  | has => exact name_of_nameChars rfl hstop
  | hasChild => exact name_of_nameChars rfl hstop

lemma ofName?_word (w : Wrapper) :
    PseudoClass.ofName? (lowercase (String.ofList w.word)) = some (.wrapper w) := by
  cases w <;> rfl

lemma parenthesized_of_close {α : Type} {rule : Rule α} {a : α} {tail : List Char}
    (h : rule (skipBlank text) = .ok (a, ')' :: tail)) :
    parenthesized rule ('(' :: text) = .ok (a, tail) :=
  parenthesized_eq_ok.2 ⟨text, _, rfl, h, skipBlank_cons rfl (by simp)⟩

/-- Any list may stand in a pseudo-class: nothing of it depends on the parenthesis behind it, or on
what comes behind that. -/
theorem qualifier_wrapped (w : Wrapper) {tail : List Char}
    (h : selectorList engine text = .ok (s, [])) (hs : Spares engine (')' :: tail) s) :
    qualifier engine (selectorList engine) (':' :: (w.word ++ '(' :: (text ++ ')' :: tail))) =
      .ok (some (w.wrap s, tail)) := by
  have hn := (selectorList_takes engine).keeps
  have hlist : selectorList engine (skipBlank (text ++ ')' :: tail)) = .ok (s, ')' :: tail) := by
    have hstop : many (alternative engine (selectorList engine)) (')' :: tail) =
        .ok ([], ')' :: tail) := many_of_stop (alternative_shrinks engine hn) rfl
    rw [selectorList_skipBlank]
    exact selectorList_append h ⟨_, _, rfl, rfl⟩ hs hstop
  have hclass : pseudoClass engine (selectorList engine)
      (w.word ++ '(' :: (text ++ ')' :: tail)) = .ok (w.wrap s, tail) := by
    refine bind_eq_ok.2 ⟨_, identifier_word_wrapper w _, ?_⟩
    dsimp only
    rw [ofName?_word]
    exact map_eq_ok.2 ⟨_, parenthesized_of_close hlist, rfl⟩
  exact found_eq_ok.2 hclass

/-- A text that is read as a compound is a list of its own. -/
lemma selectorList_of_compoundWith (hb : skipBlank text = text)
    (h : compoundWith engine (selectorList engine) text = .ok (s, [])) :
    selectorList engine text = .ok (s, []) := by
  have hn := (selectorList_takes engine).keeps
  have hlinks := many_empty (link_shrinks engine hn) rfl
  have hothers := many_empty (alternative_shrinks engine hn) rfl
  refine selectorList_eq_ok.2 ⟨_, _, _, complexWith_eq_ok.2 ⟨_, _, _, _, ?_, hlinks, rfl, rfl⟩,
    hothers, rfl⟩
  rw [hb]
  exact h

/-- A text that is read as a qualifier is a list of its own. -/
lemma selectorList_of_qualifier
    (h : qualifier engine (selectorList engine) text = .ok (some (s, []))) :
    selectorList engine text = .ok (s, []) := by
  have hshrinks := qualifier_shrinks engine (selectorList_takes engine).keeps
  have hqualifier := many_of_found hshrinks h
  rw [many_empty hshrinks rfl] at hqualifier
  obtain ⟨hhead, hblank⟩ := compoundHead_of_qualifier (by rw [h]; nofun)
  refine selectorList_of_compoundWith hblank
    (bind_eq_ok.2 ⟨_, hhead, bind_eq_ok.2 ⟨_, hqualifier, ?_⟩⟩)
  dsimp only
  rw [List.foldl_cons, List.foldl_nil, Selector.universal_inter]

/-- A mistake in a qualifier is a mistake in the list that begins with it. -/
lemma selectorList_of_qualifier_error {f : Failure}
    (h : qualifier engine (selectorList engine) text = .error f) :
    selectorList engine text = .error f := by
  have hshrinks := qualifier_shrinks engine (selectorList_takes engine).keeps
  have hqualifiers : many (qualifier engine (selectorList engine)) text = .error f := by
    rw [many_eq hshrinks, h]
  obtain ⟨hhead, hblank⟩ := compoundHead_of_qualifier (by rw [h]; nofun)
  have hcompound : compoundWith engine (selectorList engine) (skipBlank text) = .error f := by
    rw [hblank]
    exact bind_eq_error.2 (.inr ⟨_, hhead, bind_eq_error.2 (.inl hqualifiers)⟩)
  rw [selectorList_eq]
  exact bind_eq_error.2 (.inl (bind_eq_error.2 (.inl hcompound)))

/-- A list in a pseudo-class is a list again. -/
theorem selectorList_wrapped (w : Wrapper) (h : selectorList engine text = .ok (s, [])) :
    selectorList engine (':' :: (w.word ++ '(' :: (text ++ [')']))) = .ok (w.wrap s, []) :=
  have hspares : Spares engine [')'] s := .inl (inert_singleton (by simp) (by simp))
  selectorList_of_qualifier (qualifier_wrapped w h hspares)

/-! #### Behind a comma -/

/-- Two lists with a comma between them make one list, the parts of the first before those of the
second. -/
theorem selectorList_comma {text₁ text₂ : List Char} {s₁ s₂ : Selector}
    (h₁ : selectorList engine text₁ = .ok (s₁, [])) (h₂ : selectorList engine text₂ = .ok (s₂, []))
    (hfree : s₁.patternFree = true) :
    selectorList engine (text₁ ++ ',' :: text₂) = .ok (.any (s₁.members ++ s₂.members), []) := by
  have hn := (selectorList_takes engine).keeps
  obtain ⟨first, r, others, hf, ho, rfl⟩ := selectorList_eq_ok.1 h₂
  have hmore := many_of_found (alternative_shrinks engine hn) (alternative_of_complexWith hf)
  rw [ho] at hmore
  have hfirst := not_isAny_complexWith hn hf
  have hothers := not_isAny_alternatives hn ho
  rw [selectorList_append h₁ ⟨_, _, rfl, rfl⟩ (spares_of_patternFree engine _ hfree) hmore,
    Selector.foldl_union_cons, Selector.members_foldl_union _ hothers,
    Selector.members_of_not_isAny hfirst, List.singleton_append]
  intro o hmem
  rcases List.mem_cons.1 hmem with rfl | hmem
  · exact hfirst
  · exact hothers o hmem

/-! #### Behind a combinator -/

/-- Behind anything that ends in blanks alone, the tail is a combinator and then the text. -/
structure Links (relation : Combinator) (tail text : List Char) : Prop where
  /-- Nothing before the tail goes on with it. -/
  apart : Apart tail
  /-- What is left of the tail is read as the combinator. -/
  combinator : ∀ r tail', skipBlank r = [] → Leaves r tail tail' →
    combinator? (r ++ tail') = some (relation, skipBlank text)

lemma links_mark {c : Char} {relation : Combinator} (hc : ofMark? c = some relation)
    (text : List Char) : Links relation (c :: text) text := by
  have hmark : c = '>' ∨ c = '+' ∨ c = '~' := by
    rw [ofMark?.eq_def] at hc
    split at hc
    · exact .inl rfl
    · exact .inr (.inl rfl)
    · exact .inr (.inr rfl)
    · cases hc
  have hblank : isBlank c = false ∧ c ≠ '/' := by
    rcases hmark with rfl | rfl | rfl <;> decide
  have hterm : dropTerminator (c :: text) = c :: text := by
    rcases hmark with rfl | rfl | rfl <;> rfl
  have hsep : Separates (c :: text) := by
    rcases hmark with rfl | rfl | rfl <;> exact separator_of_mem (by simp)
  refine ⟨⟨hsep, hterm.symm ▸ hsep⟩, fun r tail' hr hl => ?_⟩
  have htail : tail' = c :: text := by
    rcases hl with heq | ⟨_, heq⟩
    · exact heq
    · exact heq.trans hterm
  refine combinator?_mark ?_ hc
  rw [htail, skipBlank_append_of_nil hr, skipBlank_cons hblank.1 hblank.2]

/-- Of two blanks one is left for the combinator even if an escape takes the other. -/
lemma links_blanks {c : Char} {r : List Char} (h : skipBlank text = c :: r)
    (hc : beginsCompound c = true) : Links .descendant (' ' :: ' ' :: text) text := by
  have hsep : ∀ t, Separates (' ' :: t) := fun _ => separator_of_mem (by simp)
  have hend : endsComplex c = false ∧ ofMark? c = none := by
    constructor
    · by_contra he
      rw [Bool.not_eq_false, endsComplex, Bool.or_eq_true, beq_iff_eq, beq_iff_eq] at he
      rcases he with rfl | rfl <;> exact absurd hc (by decide)
    · rw [ofMark?.eq_def]
      split
      · exact absurd hc (by decide)
      · exact absurd hc (by decide)
      · exact absurd hc (by decide)
      · rfl
  refine ⟨⟨hsep _, hsep _⟩, fun u tail' hu hl => ?_⟩
  have htail : tail' = ' ' :: ' ' :: text ∨ tail' = ' ' :: text := by
    rcases hl with heq | ⟨_, heq⟩
    · exact .inl heq
    · exact .inr heq
  have hfront : skipBlank (u ++ tail') = c :: r ∧ text.length < (u ++ tail').length := by
    rw [skipBlank_append_of_nil hu, List.length_append]
    rcases htail with rfl | rfl
    · rw [skipBlank_blank rfl, skipBlank_blank rfl, List.length_cons, List.length_cons]
      exact ⟨h, by omega⟩
    · rw [skipBlank_blank rfl, List.length_cons]
      exact ⟨h, by omega⟩
  have hle := length_skipBlank_le text
  rw [h] at hle
  rw [combinator?_blank hfront.1 hend.1 hend.2, if_pos (by omega), h]

/-- A list that is one complex: all of it is read as a complex. -/
lemma complexWith_of_not_isAny (h : selectorList engine text = .ok (s, rest))
    (hs : s.isAny = false) : complexWith engine (selectorList engine) text = .ok (s, rest) := by
  have hn := (selectorList_takes engine).keeps
  obtain ⟨first, r, others, hf, ho, rfl⟩ := selectorList_eq_ok.1 h
  have hothers := not_isAny_alternatives hn ho
  cases others with
  | nil =>
      rw [many_nil (alternative_shrinks engine hn) ho]
      exact hf
  | cons o others =>
      rw [Selector.foldl_union_cons _ hothers] at hs
      cases hs

/-- A complex that is one compound: all of it but the blanks around it is read as a compound. -/
lemma compoundWith_of_isCompound (h : complexWith engine nested text = .ok (s, rest))
    (hn : Keeps nested) (hs : s.isCompound = true) :
    ∃ r, compoundWith engine nested (skipBlank text) = .ok (s, r) ∧
      many (link engine nested) r = .ok ([], r) ∧ skipBlank r = rest := by
  obtain ⟨first, r, links, r', hf, hl, rfl, rfl⟩ := complexWith_eq_ok.1 h
  rcases Selector.chain_cases first links with rfl | ⟨relation, left, right, heq⟩
  · obtain rfl := many_nil (link_shrinks engine hn) hl
    exact ⟨_, hf, hl, rfl⟩
  · rw [heq] at hs
    cases hs

/-- A complex behind which comes a combinator and a compound makes one complex with it. -/
theorem selectorList_linked {relation : Combinator} {text₁ text₂ tail : List Char}
    {s₁ s₂ : Selector} (ht : Links relation tail text₂)
    (h₁ : selectorList engine text₁ = .ok (s₁, [])) (h₂ : selectorList engine text₂ = .ok (s₂, []))
    (hfree : s₁.patternFree = true) (hs₁ : s₁.isAny = false) (hs₂ : s₂.isCompound = true) :
    selectorList engine (text₁ ++ tail) = .ok (.complex relation s₁ s₂, []) := by
  have hn := (selectorList_takes engine).keeps
  have hleft := complexWith_of_not_isAny h₁ hs₁
  have hright := complexWith_of_not_isAny h₂ (Selector.not_isAny_of_isCompound hs₂)
  obtain ⟨r, hcompound, hlinks, hblank⟩ := compoundWith_of_isCompound hright hn hs₂
  obtain ⟨u, tail', hu, hleaves, _, hresume⟩ :=
    complexWith_resume (lasts engine tail text₁) hleft (fun _ => ht.apart)
      (spares_of_patternFree engine _ hfree)
  have hstep := link_of_combinator (ht.combinator u tail' hu hleaves) hcompound
  have hmany := many_of_found (link_shrinks engine hn) hstep
  rw [hlinks] at hmany
  have hcomplex := hresume _ _ hmany
  rw [hblank] at hcomplex
  have hothers := many_empty (alternative_shrinks engine hn) rfl
  exact selectorList_eq_ok.2 ⟨_, _, _, hcomplex, hothers, rfl⟩

/-! ### Queries put together -/

/-- A query compiles when a list is read from it and nothing is left over. -/
lemma compileWith_eq_ok {q : String} :
    compileWith engine q = .ok s ↔ selectorList engine q.toList = .ok (s, []) := by
  rw [compileWith, Cursor.read, Cursor.start]
  dsimp only
  cases selectorList engine q.toList with
  | error e =>
      constructor
      · intro h
        cases h
      · intro h
        cases h
  | ok p =>
      obtain ⟨s', rest⟩ := p
      cases rest with
      | nil =>
          constructor
          · intro h
            cases h
            rfl
          · intro h
            cases h
            rfl
      | cons c r =>
          constructor
          · intro h
            cases h
          · intro h
            cases h

/-- **Compilation is compositional.** A query in a pseudo-class that holds lists, two queries with a
comma between them and two queries with a combinator between them compile to what their parts
compile to, put together. In front of something the selector must have no pattern, whose text could
open a comment that is closed behind it, and a combinator binds more than a comma and groups to the
left. Two blanks stand for the descendant combinator, since a numeric escape takes one. -/
theorem compileWith_compositional (engine : Engine) :
    (∀ q s, compileWith engine q = .ok s →
      compileWith engine (":not(" ++ q ++ ")") = .ok (.not s) ∧
      compileWith engine (":has(" ++ q ++ ")") = .ok (.has s) ∧
      compileWith engine (":hasChild(" ++ q ++ ")") = .ok (.hasChild s)) ∧
    (∀ q₁ q₂ s₁ s₂, compileWith engine q₁ = .ok s₁ → compileWith engine q₂ = .ok s₂ →
      s₁.patternFree = true →
      compileWith engine (q₁ ++ "," ++ q₂) = .ok (.any (s₁.members ++ s₂.members))) ∧
    (∀ q₁ q₂ s₁ s₂, compileWith engine q₁ = .ok s₁ → compileWith engine q₂ = .ok s₂ →
      s₁.patternFree = true → s₁.isAny = false → s₂.isCompound = true →
      compileWith engine (q₁ ++ ">" ++ q₂) = .ok (.complex .child s₁ s₂) ∧
      compileWith engine (q₁ ++ "+" ++ q₂) = .ok (.complex .nextSibling s₁ s₂) ∧
      compileWith engine (q₁ ++ "~" ++ q₂) = .ok (.complex .subsequentSibling s₁ s₂) ∧
      compileWith engine (q₁ ++ "  " ++ q₂) = .ok (.complex .descendant s₁ s₂)) := by
  refine ⟨fun q s h => ?_, fun q₁ q₂ s₁ s₂ h₁ h₂ hfree => ?_,
    fun q₁ q₂ s₁ s₂ h₁ h₂ hfree hany hcompound => ?_⟩
  · rw [compileWith_eq_ok] at h
    have hwrap : ∀ (w : Wrapper) (opening : String),
        opening.toList = ':' :: (w.word ++ ['(']) →
        compileWith engine (opening ++ q ++ ")") = .ok (w.wrap s) := by
      intro w opening hopening
      have hlist := selectorList_wrapped w h
      rw [compileWith_eq_ok, String.toList_append, String.toList_append, hopening]
      simpa using hlist
    exact ⟨hwrap .not _ rfl, hwrap .has _ rfl, hwrap .hasChild _ rfl⟩
  · rw [compileWith_eq_ok] at h₁ h₂
    have hlist := selectorList_comma h₁ h₂ hfree
    rw [compileWith_eq_ok, String.toList_append, String.toList_append]
    simpa using hlist
  · rw [compileWith_eq_ok] at h₁ h₂
    have hlinked : ∀ (relation : Combinator) (symbol : String),
        Links relation (symbol.toList ++ q₂.toList) q₂.toList →
        compileWith engine (q₁ ++ symbol ++ q₂) = .ok (.complex relation s₁ s₂) := by
      intro relation symbol hlinks
      have hlist := selectorList_linked hlinks h₁ h₂ hfree hany hcompound
      rw [compileWith_eq_ok, String.toList_append, String.toList_append, List.append_assoc]
      exact hlist
    have hn := (selectorList_takes engine).keeps
    have hright := complexWith_of_not_isAny h₂ (Selector.not_isAny_of_isCompound hcompound)
    obtain ⟨_, hword, _, _⟩ := compoundWith_of_isCompound hright hn hcompound
    obtain ⟨c, r, hfront, hc⟩ := compoundWith_first hword
    exact ⟨hlinked .child ">" (links_mark rfl _), hlinked .nextSibling "+" (links_mark rfl _),
      hlinked .subsequentSibling "~" (links_mark rfl _),
      hlinked .descendant "  " (links_blanks hfront hc)⟩

/-- The first query ends in a numeric escape and the second has a pattern that looks like the start
of a comment. -/
theorem compileWith_behind_escape :
    ∃ s₁ s₂, compileWith .literal "ul > a\\31" = .ok s₁ ∧
      compileWith .literal "*:matches(/*) " = .ok s₂ ∧
      s₁.patternFree = true ∧ s₁.isAny = false ∧ s₂.isCompound = true ∧
      compileWith .literal (":not(" ++ "*:matches(/*) " ++ ")") = .ok (.not s₂) ∧
      compileWith .literal ("ul > a\\31" ++ "," ++ "*:matches(/*) ") = .ok (.any [s₁, s₂]) ∧
      compileWith .literal ("ul > a\\31" ++ "  " ++ "*:matches(/*) ") =
        .ok (.complex .descendant s₁ s₂) := by
  have h₁ : compileWith .literal "ul > a\\31" =
      .ok (.complex .child (.simple (.tag "ul")) (.simple (.tag "a1"))) := by
    cbv
  have h₂ : compileWith .literal "*:matches(/*) " =
      .ok (.textMatching ⟨"/*", fun text => occursIn ['/', '*'] text.toList⟩ false) := by
    cbv
  obtain ⟨hwrapped, hcomma, hlinked⟩ := compileWith_compositional .literal
  exact ⟨_, _, h₁, h₂, rfl, rfl, rfl, (hwrapped _ _ h₂).1, hcomma _ _ _ _ h₁ h₂ rfl,
    (hlinked _ _ _ _ h₁ h₂ rfl rfl rfl).2.2.2⟩

end MarkupQuery.Query
