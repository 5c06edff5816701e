import MarkupQuery.Proofs.Query.Bracket

/-!
Compounds with a tail behind them.

The lists inside a compound are read by the rule for lists; what that rule does before a closing
parenthesis is a hypothesis here (`Lasts`), and the lists that come up stand behind the place that
the hypothesis is about.

* `argument_append`, `pseudoClass_extends`: pseudo-classes;
* `qualifier_extends`: everything that may stand behind the head of a compound;
* `compoundWith_extends`: a compound ends where it ended before.
-/

namespace MarkupQuery.Query

variable {engine : Engine} {text rest tail : List Char} {s : Selector}

/-- The lists that begin behind the start of `text` are read with the tail as without it, up to a
closing parenthesis. -/
def Lasts (engine : Engine) (tail text : List Char) : Prop :=
  ∀ t s r r', Behind t text → selectorList engine t = .ok (s, r) → skipBlank r = ')' :: r' →
    Spares engine tail s → selectorList engine (t ++ tail) = .ok (s, r ++ tail)

lemma Lasts.mono {text' : List Char} (h : Lasts engine tail text) (ht : text' <:+ text) :
    Lasts engine tail text' :=
  fun t s r r' hb => h t s r r' (hb.trans_suffix ht)

/-! ### The first character of a list -/

/-- Whether a compound may begin with the character. -/
def beginsCompound (c : Char) : Bool :=
  c == '*' || beginsQualifier c || beginsIdentifier c

lemma compoundHead_first (h : compoundHead text = .ok (s, rest)) :
    ∃ c r, text = c :: r ∧ beginsCompound c = true := by
  match text with
  | [] => exact absurd h failAt_ne_ok
  | c :: r =>
      refine ⟨c, r, rfl, ?_⟩
      rw [compoundHead] at h
      by_cases hstar : c = '*'
      · simp [beginsCompound, hstar]
      · rw [if_neg hstar] at h
        by_cases hq : beginsQualifier c = true
        · simp [beginsCompound, hq]
        · rw [if_neg hq] at h
          obtain ⟨⟨name, r'⟩, hi, _⟩ := map_eq_ok.1 h
          obtain ⟨d, u, heq, hd⟩ := identifier_first hi
          rw [← (List.cons.inj heq).1] at hd
          simp [beginsCompound, hd]

lemma compoundWith_first {nested : Rule Selector}
    (h : compoundWith engine nested text = .ok (s, rest)) :
    ∃ c r, text = c :: r ∧ beginsCompound c = true := by
  obtain ⟨⟨head, r⟩, hh, _⟩ := bind_eq_ok.1 h
  exact compoundHead_first hh

lemma compoundWith_solid (engine : Engine) (nested : Rule Selector) :
    Solid (compoundWith engine nested) := by
  intro text s rest h
  obtain ⟨c, r, rfl, hc⟩ := compoundWith_first h
  refine ⟨c, r, rfl, ?_⟩
  rintro rfl
  exact absurd hc (by decide)

/-- Behind its blanks a list begins with no slash, so a tail leaves them as they are. -/
lemma skipBlank_append_selectorList (h : selectorList engine (skipBlank text) = .ok (s, rest))
    (tail : List Char) : skipBlank (text ++ tail) = skipBlank text ++ tail := by
  rw [selectorList_eq] at h
  obtain ⟨⟨first, r⟩, hf, _⟩ := bind_eq_ok.1 h
  obtain ⟨⟨first', r'⟩, hc, _⟩ := bind_eq_ok.1 hf
  rw [skipBlank_skipBlank] at hc
  exact (compoundWith_solid engine _).skipBlank_append hc tail

/-! ### Pseudo-classes -/

/-- The argument of a pseudo-class goes up to its parenthesis, whatever stands behind that. -/
theorem argument_append (hl : Lasts engine tail text) {p : PseudoClass}
    (h : p.argument engine (selectorList engine) text = .ok (s, rest)) (hs : Spares engine tail s) :
    p.argument engine (selectorList engine) (text ++ tail) = .ok (s, rest ++ tail) := by
  cases p with
  | wrapper w =>
      obtain ⟨⟨s', r⟩, hp, heq⟩ := map_eq_ok.1 h
      cases heq
      have hs' : Spares engine tail s' := by
        refine hs.imp fun p hp => ?_
        cases w <;> exact hp
      have hpar := parenthesized_append tail
        (fun u r hu => skipBlank_append_selectorList hu tail)
        (fun u r r' hb hu hr => hl u s' r r' hb hu hr hs') hp
      exact map_eq_ok.2 ⟨_, hpar, rfl⟩
  | contains own =>
      obtain ⟨⟨needle, r⟩, hp, heq⟩ := map_eq_ok.1 h
      cases heq
      have hpar := parenthesized_append tail
        (fun u r hu => stringOrIdentifier_solid.skipBlank_append hu tail)
        (fun u r r' _ hu hr =>
          eq_of_extends tail (ne_nil_of_skipBlank hr) (stringOrIdentifier_extends hu)) hp
      exact map_eq_ok.2 ⟨_, hpar, rfl⟩
  | textMatches own =>
      obtain ⟨⟨pattern, r⟩, hp, heq⟩ := map_eq_ok.1 h
      cases heq
      have hpattern : Spares engine tail pattern := hs.imp (List.Subset.refl _)
      have hpar := parenthesized_append tail
        (fun u r hu => skipBlank_append_pattern hpattern hu)
        (fun u r r' _ hu _ => patternOperand_append hu) hp
      exact map_eq_ok.2 ⟨_, hpar, rfl⟩
  | nthChild last ofType =>
      obtain ⟨⟨f, r⟩, hp, heq⟩ := map_eq_ok.1 h
      cases heq
      have hpar := parenthesized_append tail
        (fun u r hu => formula_solid.skipBlank_append hu tail)
        (fun u r r' _ hu hr => formula_append hu hr) hp
      exact map_eq_ok.2 ⟨_, hpar, rfl⟩
  | plain test =>
      cases h
      rfl

/-- Only a pseudo-class without parentheses can end the text with its name. -/
lemma argument_nil {nested : Rule Selector} {p : PseudoClass}
    (h : p.argument engine nested [] = .ok (s, rest)) (text : List Char) :
    p.argument engine nested text = .ok (s, text) := by
  cases p with
  | plain test =>
      cases h
      rfl
  | _ =>
      rw [PseudoClass.argument] at h
      obtain ⟨_, hp, _⟩ := map_eq_ok.1 h
      exact absurd hp unexpected_ne_ok

theorem pseudoClass_extends (hl : Lasts engine tail text)
    (h : pseudoClass engine (selectorList engine) text = .ok (s, rest))
    (ht : rest = [] → Apart tail) (hs : Spares engine tail s) :
    Extends (pseudoClass engine (selectorList engine)) (fun y => .ok (s, y)) tail text rest := by
  obtain ⟨⟨name, r⟩, hi, h⟩ := bind_eq_ok.1 h
  dsimp only at h
  split at h
  · next p hp =>
    by_cases hr : r = []
    · subst hr
      have hrest : rest = [] :=
        List.suffix_nil.1 (argument_keeps engine (selectorList_takes engine).keeps p _ _ _ h)
      subst hrest
      refine (identifier_extends hi ht).comp fun x hx => bind_eq_ok.2 ⟨_, hx, ?_⟩
      dsimp only
      rw [hp]
      exact argument_nil h x
    · have hname := eq_of_extends tail hr (identifier_extends hi)
      refine .exact (bind_eq_ok.2 ⟨_, hname, ?_⟩)
      dsimp only
      rw [hp]
      exact argument_append (hl.mono (identifier_takes _ _ _ hi).suffix) h hs
  · exact absurd h failAt_ne_ok

/-! ### Compounds -/

lemma qualifier_cons_eq_none {nested : Rule Selector} {c : Char} {r : List Char} :
    qualifier engine nested (c :: r) = .ok none ↔ beginsQualifier c = false := by
  constructor
  · intro h
    by_contra hc
    exact qualifier_ne_none engine nested (Bool.of_not_eq_false hc) h
  · intro hc
    have hne : ∀ d u, c :: r = d :: u → beginsQualifier d = false := by
      intro d u heq
      rw [← (List.cons.inj heq).1]
      exact hc
    rw [qualifier.eq_def]
    split
    · next heq => exact absurd (hne _ _ heq) (by decide)
    · next heq => exact absurd (hne _ _ heq) (by decide)
    · next heq => exact absurd (hne _ _ heq) (by decide)
    · next heq => exact absurd (hne _ _ heq) (by decide)
    · rfl

/-- Before a qualifier stands the head that is nothing. -/
lemma compoundHead_of_qualifier {nested : Rule Selector}
    (h : qualifier engine nested text ≠ .ok none) :
    compoundHead text = .ok (.universal, text) ∧ skipBlank text = text := by
  rw [qualifier.eq_def] at h
  split at h
  all_goals first
    | exact ⟨rfl, skipBlank_cons rfl (by simp)⟩
    | exact absurd rfl h

/-- No qualifier begins in what is left and the tail if none began in what is left. -/
lemma qualifier_stop {tail' : List Char} {nested : Rule Selector}
    (h : qualifier engine nested rest = .ok none) (ht : rest = [] → Apart tail)
    (hl : Leaves rest tail tail') : qualifier engine nested (rest ++ tail') = .ok none := by
  refine stop_of_head ?_ ?_ h ht tail' hl
  · intro c u u' hc
    exact qualifier_cons_eq_none.2 (qualifier_cons_eq_none.1 hc)
  · intro c u hsep
    exact qualifier_cons_eq_none.2 hsep.not_qualifier

theorem qualifier_extends (hl : Lasts engine tail text)
    (h : qualifier engine (selectorList engine) text = .ok (some (s, rest)))
    (ht : rest = [] → Apart tail) (hs : Spares engine tail s) :
    Extends (qualifier engine (selectorList engine)) (fun y => .ok (some (s, y))) tail text
      rest := by
  rw [qualifier.eq_def] at h
  split at h
  · obtain ⟨⟨id, r⟩, hn, heq⟩ := map_eq_ok.1 h
    cases heq
    exact (name_extends hn ht).comp fun x hx => map_eq_ok.2 ⟨_, hx, rfl⟩
  · obtain ⟨⟨word, r⟩, hn, heq⟩ := map_eq_ok.1 h
    cases heq
    exact (name_extends hn ht).comp fun x hx => map_eq_ok.2 ⟨_, hx, rfl⟩
  · exact .exact (found_eq_ok.2 (attributeSelector_append (found_eq_ok.1 h) hs))
  · next r =>
    have hr := hl.mono (List.suffix_cons ':' r)
    exact (pseudoClass_extends hr (found_eq_ok.1 h) ht hs).comp fun x hx => found_eq_ok.2 hx
  · cases h

lemma compoundHead_extends (h : compoundHead text = .ok (s, rest)) (ht : rest = [] → Apart tail) :
    Extends compoundHead (fun y => .ok (s, y)) tail text rest := by
  match text with
  | [] => exact absurd h failAt_ne_ok
  | c :: r =>
      rw [compoundHead] at h
      by_cases hstar : c = '*'
      · rw [if_pos hstar] at h
        cases h
        refine .exact ?_
        rw [List.cons_append, compoundHead, if_pos hstar]
      · rw [if_neg hstar] at h
        by_cases hq : beginsQualifier c = true
        · rw [if_pos hq] at h
          cases h
          refine .exact ?_
          rw [List.cons_append, compoundHead, if_neg hstar, if_pos hq]
        · rw [if_neg hq] at h
          obtain ⟨⟨name, r'⟩, hi, heq⟩ := map_eq_ok.1 h
          cases heq
          refine (identifier_extends hi ht).comp fun x hx => ?_
          rw [List.cons_append, compoundHead, if_neg hstar, if_neg hq, ← List.cons_append, hx]
          rfl

lemma qualifiers_extends {qs : List Selector} (hl : Lasts engine tail text)
    (h : many (qualifier engine (selectorList engine)) text = .ok (qs, rest))
    (ht : rest = [] → Apart tail) (hs : ∀ q ∈ qs, Spares engine tail q) :
    Extends (many (qualifier engine (selectorList engine))) (fun y => .ok (qs, y)) tail text
      rest := by
  have hshrinks := qualifier_shrinks engine (selectorList_takes engine).keeps
  refine many_extends hshrinks rfl h ?_ fun tail' => qualifier_stop (many_stop hshrinks h) ht
  intro t q r hsuf hq hstep hr
  exact qualifier_extends (hl.mono hsuf) hstep (of_next rfl ht hr) (hs q hq)

/-- **A compound ends where it ended before**, if the tail is apart from it where it ends the
text. -/
theorem compoundWith_extends (hl : Lasts engine tail text)
    (h : compoundWith engine (selectorList engine) text = .ok (s, rest))
    (ht : rest = [] → Apart tail) (hs : Spares engine tail s) :
    Extends (compoundWith engine (selectorList engine)) (fun y => .ok (s, y)) tail text rest := by
  have hshrinks := qualifier_shrinks engine (selectorList_takes engine).keeps
  obtain ⟨⟨head, r⟩, hh, h⟩ := bind_eq_ok.1 h
  obtain ⟨⟨qs, r'⟩, hq, h⟩ := bind_eq_ok.1 h
  cases h
  by_cases hr : r = []
  · -- the head ends the text, and then there are no qualifiers, with the tail neither
    subst hr
    rw [many_empty hshrinks rfl] at hq
    cases hq
    obtain ⟨tail', hleaves, hhead⟩ := compoundHead_extends hh ht
    have hnone : qualifier engine (selectorList engine) ([] ++ tail') = .ok none :=
      qualifier_stop rfl ht hleaves
    have hstop := many_of_stop hshrinks hnone
    exact ⟨tail', hleaves, bind_eq_ok.2 ⟨_, hhead, bind_eq_ok.2 ⟨_, hstop, rfl⟩⟩⟩
  · have hhead := eq_of_extends tail hr (compoundHead_extends hh)
    have hlr := hl.mono (compoundHead_keeps _ _ _ hh)
    refine (qualifiers_extends hlr hq ht (spares_foldl Selector.patterns_inter hs).2).comp fun x hx => ?_
    exact bind_eq_ok.2 ⟨_, hhead, bind_eq_ok.2 ⟨_, hx, rfl⟩⟩

end MarkupQuery.Query
