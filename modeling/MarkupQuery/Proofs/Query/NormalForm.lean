import Mathlib
import MarkupQuery.Proofs.Query.Composition
import MarkupQuery.Proofs.Selector.Normal

/-!
What queries compile to is in normal form.

Each rule gives a selector of its rank, the rule for lists inside it given; for the rule that is its
own argument this is an induction on the length of the text.

* `balancedSpan_ofNat_cons`: the count of open brackets, as long as the word has room for it;
* `countP_of_balancedSpan`: the brackets before the one that ends a source;
* `admits_patternOperand`: what is known of the source of a pattern;
* `bounded_formula`: the numbers of a formula;
* `normal_qualifier`, `normal_compoundWith`, `normal_complexWith`, `normal_listWith`: one lemma per
  rank;
* `normal_of_compileWith`: the normal form of a whole query.
-/

namespace MarkupQuery

/-! ### Sources of patterns -/

/-- In the whole text as many brackets are opened as are closed, and in no part of it from its start
on are more closed than opened. Round and square brackets count alike. -/
def Balanced (text : List Char) : Prop :=
  text.countP Query.closesBracket = text.countP Query.opensBracket ∧
    ∀ front, front <+: text →
      front.countP Query.closesBracket ≤ front.countP Query.opensBracket

/-- In no part of the text from its start on are so many brackets open, with `depth` that are open
in front of it, that a word of 32 bits has no number for them. -/
def Query.Fits (depth : ℕ) (text : List Char) : Prop :=
  ∀ front, front <+: text →
    front.countP opensBracket + depth < front.countP closesBracket + 2 ^ 31

/-- The engine made the pattern from its source. The source begins with no blank and with no
comment that is closed in it, and its brackets are balanced, unless there are too many of them to be
counted. -/
structure Engine.Admits (engine : Engine) (p : Pattern) : Prop where
  compiled : engine.compile p.source = .ok p
  no_blank : ∀ c ∈ p.source.toList.head?, isBlank c = false
  no_comment : ∀ inside rest, p.source.toList ≠ ['/', '*'] ++ inside ++ ['*', '/'] ++ rest
  balanced : Query.Fits 0 p.source.toList → Balanced p.source.toList

namespace Query

variable {engine : Engine} {nested : Rule Selector} {text rest : List Char} {s : Selector}

lemma countP_cons_eq_add (p : Char → Bool) (c : Char) (source : List Char) :
    (c :: source).countP p = [c].countP p + source.countP p := by
  rw [← List.countP_append, List.singleton_append]

/-- No part of the source from its start on closes more brackets than it opens, but for `depth`. -/
def Nests (depth : ℕ) (source : List Char) : Prop :=
  ∀ front, front <+: source →
    front.countP closesBracket ≤ front.countP opensBracket + depth

/-- One character changes the number of open brackets by what it says. -/
lemma nests_cons {depth d : ℕ} {c : Char} {source : List Char}
    (hd : d + [c].countP closesBracket = depth + [c].countP opensBracket) :
    Nests depth (c :: source) ↔ Nests d source := by
  constructor
  · intro h front hf
    have hfront := h (c :: front) (List.cons_prefix_cons.2 ⟨rfl, hf⟩)
    rw [countP_cons_eq_add _ c front, countP_cons_eq_add _ c front] at hfront
    omega
  · rintro h (_ | ⟨b, front⟩) hf
    · exact Nat.zero_le _
    · obtain ⟨rfl, hf'⟩ := List.cons_prefix_cons.1 hf
      have hfront := h front hf'
      rw [countP_cons_eq_add _ b front, countP_cons_eq_add _ b front]
      omega

lemma Fits.depth_lt {depth : ℕ} {source : List Char} (h : Fits depth source) : depth < 2 ^ 31 := by
  simpa using h [] List.nil_prefix

lemma Fits.head_lt {depth : ℕ} {c : Char} {source : List Char} (h : Fits depth (c :: source)) :
    depth + [c].countP opensBracket < 2 ^ 31 := by
  have hfirst := h [c] (List.cons_prefix_cons.2 ⟨rfl, List.nil_prefix⟩)
  cases hc : closesBracket c with
  | true =>
      have := h.depth_lt
      simpa [opensBracket_of_closesBracket hc] using this
  | false =>
      have hclose : [c].countP closesBracket = 0 := by simp [hc]
      omega

lemma Fits.tail {depth d : ℕ} {c : Char} {source : List Char}
    (hd : d + [c].countP closesBracket = depth + [c].countP opensBracket)
    (h : Fits depth (c :: source)) : Fits d source := by
  intro front hf
  have hfront := h (c :: front) (List.cons_prefix_cons.2 ⟨rfl, hf⟩)
  rw [countP_cons_eq_add _ c front, countP_cons_eq_add _ c front] at hfront
  omega

lemma ofNat_add_one_sub_one (n : ℕ) : Int32.ofNat (n + 1) - 1 = .ofNat n := by
  rw [Int32.ofNat_add]
  exact Int32.add_sub_cancel _ _

/-- As long as the open brackets are fewer than the word has numbers for, a character ends the span
if no bracket is open for it to close, and else is counted among the brackets. -/
lemma balancedSpan_ofNat_cons {depth : ℕ} {c : Char}
    (h : depth + [c].countP opensBracket < 2 ^ 31) :
    (depth = 0 ∧ closesBracket c = true ∧
      ∀ r, balancedSpan (.ofNat depth) (c :: r) = some ([], c :: r)) ∨
    ∃ d, d + [c].countP closesBracket = depth + [c].countP opensBracket ∧
      ∀ r, balancedSpan (.ofNat depth) (c :: r) =
        (balancedSpan (.ofNat d) r).map fun p => (c :: p.1, p.2) := by
  cases hc : closesBracket c with
  | true =>
      have ho := opensBracket_of_closesBracket hc
      cases depth with
      | zero => exact .inl ⟨rfl, rfl, fun r => by simp [balancedSpan, ho, hc]⟩
      | succ d =>
          have hopen : ¬ Int32.ofNat d < 0 := by
            rw [Int32.lt_iff_toInt_lt, Int32.toInt_ofNat_of_lt (by omega), Int32.toInt_zero]
            omega
          refine .inr ⟨d, by simp [ho, hc], fun r => ?_⟩
          rw [balancedSpan]
          simp only [ho, hc, ofNat_add_one_sub_one, hopen, Bool.false_eq_true, if_false, if_true]
  | false =>
      cases ho : opensBracket c with
      | true =>
          refine .inr ⟨depth + 1, by simp [ho, hc], fun r => ?_⟩
          rw [Int32.ofNat_add]
          simp [balancedSpan, ho]
      | false => exact .inr ⟨depth, by simp [ho, hc], fun r => by simp [balancedSpan, ho, hc]⟩

/-- Up to the bracket that ends a span, `depth` more brackets are closed than opened, and never more
than that, provided that the open ones can be counted. -/
lemma countP_of_balancedSpan {depth : ℕ} {span : List Char}
    (h : balancedSpan (.ofNat depth) text = some (span, rest)) (hfits : Fits depth span) :
    span.countP closesBracket = span.countP opensBracket + depth ∧ Nests depth span := by
  obtain ⟨rfl, c, r, rfl, hc⟩ := append_of_balancedSpan h
  induction span generalizing depth with
  | nil =>
      have hroom : depth + [c].countP opensBracket < 2 ^ 31 := by
        simpa [opensBracket_of_closesBracket hc] using hfits.depth_lt
      rcases balancedSpan_ofNat_cons hroom with ⟨rfl, _, _⟩ | ⟨d, _, heq⟩
      · refine ⟨rfl, fun front hf => ?_⟩
        rw [List.prefix_nil.1 hf]
        exact Nat.zero_le _
      · rw [List.nil_append, heq] at h
        obtain ⟨_, _, hspan⟩ := Option.map_eq_some_iff.1 h
        cases (Prod.mk.inj hspan).1
  | cons b span ih =>
      rcases balancedSpan_ofNat_cons hfits.head_lt with ⟨_, _, heq⟩ | ⟨d, hd, heq⟩
      · rw [List.cons_append, heq] at h
        cases h
      · rw [List.cons_append, heq] at h
        obtain ⟨⟨span', rest'⟩, h', hspan⟩ := Option.map_eq_some_iff.1 h
        cases hspan
        obtain ⟨hcount, hnests⟩ := ih (hfits.tail hd) h'
        refine ⟨?_, (nests_cons hd).2 hnests⟩
        dsimp only at hcount ⊢
        rw [countP_cons_eq_add _ b span', countP_cons_eq_add _ b span', hcount]
        omega

/-- A comment that is closed does not stay. -/
lemma skipComment_suffix_of_close (opening inside rest : List Char) :
    skipComment opening (inside ++ '*' :: '/' :: rest) <:+ inside ++ '*' :: '/' :: rest := by
  induction inside with
  | nil =>
      rw [List.nil_append, skipComment_close]
      exact (skipBlank_suffix rest).trans ⟨['*', '/'], rfl⟩
  | cons c inside ih =>
      by_cases h : ∃ r, c :: inside ++ '*' :: '/' :: rest = '*' :: '/' :: r
      · obtain ⟨r, h⟩ := h
        rw [h, skipComment_close]
        exact (skipBlank_suffix r).trans ⟨['*', '/'], rfl⟩
      · have hne : ∀ r, c :: (inside ++ '*' :: '/' :: rest) ≠ '*' :: '/' :: r :=
          fun r heq => h ⟨r, heq⟩
        rw [List.cons_append, skipComment_cons hne]
        exact ih.trans (List.suffix_cons _ _)

lemma ne_comment_of_skipBlank (h : skipBlank text = text) (inside rest : List Char) :
    text ≠ '/' :: '*' :: (inside ++ '*' :: '/' :: rest) := by
  rintro rfl
  have hle := (skipComment_suffix_of_close
    ('/' :: '*' :: (inside ++ '*' :: '/' :: rest)) inside rest).length_le
  rw [← skipBlank_comment, h, List.length_cons, List.length_cons] at hle
  omega

/-- A pattern is read behind blanks and comments, up to the bracket that closes what is around
it. -/
theorem admits_patternOperand (hf : engine.Faithful) {p : Pattern}
    (h : patternOperand engine (skipBlank text) = .ok (p, rest)) : engine.Admits p := by
  rw [patternOperand.eq_def] at h
  split at h
  · exact absurd h failAt_ne_ok
  · split at h
    · exact absurd h failAt_ne_ok
    · next source r hb =>
      split at h
      · next p' hp =>
        cases h
        have hsource : p.source = String.ofList source := hf _ _ hp
        obtain ⟨htext, _⟩ := append_of_balancedSpan hb
        have hfix : skipBlank (source ++ rest) = source ++ rest := by
          rw [← htext, skipBlank_skipBlank]
        refine ⟨by rw [hsource]; exact hp, ?_, ?_, ?_⟩
        · intro c hc
          rw [hsource, String.toList_ofList] at hc
          cases source with
          | nil => cases hc
          | cons d source =>
              cases hc
              exact isBlank_of_skipBlank hfix
        · intro inside after heq
          rw [hsource, String.toList_ofList] at heq
          refine ne_comment_of_skipBlank hfix inside (after ++ rest) ?_
          rw [heq]
          simp
        · rw [hsource, String.toList_ofList]
          exact countP_of_balancedSpan hb
      · cases h

/-! ### Formulas -/

lemma bounded_signed {n : ℕ} (h : n ≤ 2147483647) (negative : Bool) :
    BoundedNumber (signed negative n) := by
  rw [BoundedNumber, signed]
  cases negative with
  | false =>
      rw [if_neg (by simp), Int64.toInt_ofInt_of_le (by omega) (by omega)]
      omega
  | true =>
      rw [if_pos rfl, Int64.toInt_ofInt_of_le (by omega) (by omega)]
      omega

lemma le_of_formulaNumber {n : ℕ} (h : formulaNumber text = .ok (n, rest)) : n ≤ 2147483647 := by
  rw [formulaNumber] at h
  split at h
  · exact absurd h failAt_ne_ok
  · next hn =>
    cases h
    simp only [Bool.or_eq_true, decide_eq_true_eq, not_or, Nat.not_lt] at hn
    exact hn.2

lemma bounded_formulaOffset {n : Int64} (h : formulaOffset text = .ok (n, rest)) :
    BoundedNumber n := by
  rw [formulaOffset.eq_def] at h
  dsimp only at h
  split at h
  · exact absurd h failAt_ne_ok
  · obtain ⟨_, hn, heq⟩ := map_eq_ok.1 h
    cases heq
    exact bounded_signed (le_of_formulaNumber hn) _
  · obtain ⟨_, hn, heq⟩ := map_eq_ok.1 h
    cases heq
    exact bounded_signed (le_of_formulaNumber hn) _
  · cases h
    exact Nat.zero_le _

lemma bounded_formulaOfStep {step : Int64} {f : Formula} (hs : BoundedNumber step)
    (h : formulaOfStep step text = .ok (f, rest)) : f.Bounded := by
  obtain ⟨_, hn, heq⟩ := map_eq_ok.1 h
  cases heq
  exact ⟨hs, bounded_formulaOffset hn⟩

lemma bounded_unsignedFormula {negative : Bool} {f : Formula}
    (h : unsignedFormula negative text = .ok (f, rest)) : f.Bounded := by
  rw [unsignedFormula.eq_def] at h
  split at h
  · exact absurd h failAt_ne_ok
  · split at h
    · obtain ⟨⟨n, r⟩, hn, h⟩ := bind_eq_ok.1 h
      have hb := bounded_signed (le_of_formulaNumber hn) negative
      dsimp only at h
      split at h
      · exact absurd h failAt_ne_ok
      · split at h
        · exact bounded_formulaOfStep hb h
        · cases h
          exact ⟨Nat.zero_le _, hb⟩
    · split at h
      · exact bounded_formulaOfStep (bounded_signed (by omega) negative) h
      · exact absurd h failAt_ne_ok

/-- The numbers of a formula are bounded, however it is written. -/
theorem bounded_formula {f : Formula} (h : formula text = .ok (f, rest)) : f.Bounded := by
  rw [formula.eq_def] at h
  split at h
  · exact absurd h failAt_ne_ok
  · exact bounded_unsignedFormula h
  · exact bounded_unsignedFormula h
  · split at h
    · exact bounded_unsignedFormula h
    · split at h
      · obtain ⟨⟨word, r⟩, _, h⟩ := bind_eq_ok.1 h
        dsimp only at h
        split at h
        · next f' hf =>
          cases h
          rw [formulaOfWord?] at hf
          split at hf
          · cases hf
            exact ⟨by decide, by decide⟩
          · cases hf
            exact ⟨by decide, by decide⟩
          · cases hf
        · exact absurd h failAt_ne_ok
      · exact absurd h failAt_ne_ok

/-! ### Names -/

lemma name_ne_empty {word : String} (h : name text = .ok (word, rest)) : word ≠ "" := by
  obtain ⟨⟨chars, r⟩, _, h⟩ := bind_eq_ok.1 h
  dsimp only at h
  split at h
  · exact absurd h failAt_ne_ok
  · next hne =>
    cases h
    simpa using hne

lemma identifier_ne_empty {word : String} (h : identifier text = .ok (word, rest)) : word ≠ "" := by
  rw [identifier.eq_def] at h
  split at h
  · split at h
    · obtain ⟨⟨word', r⟩, hn, heq⟩ := map_eq_ok.1 h
      cases heq
      simp
    · exact absurd h failAt_ne_ok
  · split at h
    · exact name_ne_empty h
    · exact absurd h failAt_ne_ok

/-! ### Qualifiers -/

open Selector (Normal)

lemma admits_operand (hf : engine.Faithful) {op : Operator} {v : ValueTest}
    (h : operand engine op (skipBlank text) = .ok (v, rest)) :
    ∀ p, v = .pattern p → engine.Admits p := by
  cases op with
  | text op =>
      obtain ⟨_, _, heq⟩ := map_eq_ok.1 h
      cases heq
      cases op <;> nofun
  | pattern =>
      obtain ⟨_, hp, heq⟩ := map_eq_ok.1 h
      cases heq
      rintro _ ⟨⟩
      exact admits_patternOperand hf hp

lemma normal_withAttribute {accepted : Pattern → Prop} {key : String} {v : ValueTest}
    (hk : key ≠ "") (hv : ∀ p, v = .pattern p → accepted p) :
    Normal accepted .qualifier (.withAttribute key v) :=
  .test ⟨⟨key, hk, rfl⟩, hv⟩

lemma normal_attributeSelector (hf : engine.Faithful)
    (h : attributeSelector engine text = .ok (s, rest)) : Normal engine.Admits .qualifier s := by
  obtain ⟨⟨key, r⟩, hk, h⟩ := bind_eq_ok.1 h
  have hne := identifier_ne_empty hk
  dsimp only at h
  split at h
  · exact absurd h failAt_ne_ok
  · cases h
    exact normal_withAttribute hne (by rintro _ ⟨⟩)
  · obtain ⟨⟨op, r₁⟩, _, h⟩ := bind_eq_ok.1 h
    obtain ⟨⟨v, r₂⟩, hv, h⟩ := bind_eq_ok.1 h
    obtain ⟨r₃, _, h⟩ := bind_eq_ok.1 h
    cases h
    exact normal_withAttribute hne (admits_operand hf hv)

/-- The test of a pseudo-class without parentheses. -/
lemma qualifies_of_ofName? {accepted : Pattern → Prop} {word : String} {test : Test}
    (h : PseudoClass.ofName? word = some (.plain test)) : test.Qualifies accepted := by
  rw [PseudoClass.ofName?.eq_def] at h
  split at h <;> cases h <;> trivial

section

variable (hf : engine.Faithful) (hn : ∀ t s r, nested t = .ok (s, r) → Normal engine.Admits .list s)
include hf hn

lemma normal_argument {p : PseudoClass} {word : String} (hp : PseudoClass.ofName? word = some p)
    (h : p.argument engine nested text = .ok (s, rest)) : Normal engine.Admits .qualifier s := by
  cases p with
  | wrapper w =>
      obtain ⟨_, hs, heq⟩ := map_eq_ok.1 h
      cases heq
      obtain ⟨_, _, _, hs, _⟩ := parenthesized_eq_ok.1 hs
      cases w with
      | not => exact .not (hn _ _ _ hs)
      | has => exact .has (hn _ _ _ hs)
      | hasChild => exact .hasChild (hn _ _ _ hs)
  | contains own =>
      obtain ⟨_, _, heq⟩ := map_eq_ok.1 h
      cases heq
      exact .test ⟨_, rfl⟩
  | textMatches own =>
      obtain ⟨_, hs, heq⟩ := map_eq_ok.1 h
      cases heq
      obtain ⟨_, _, _, hs, _⟩ := parenthesized_eq_ok.1 hs
      exact .test (admits_patternOperand hf hs)
  | nthChild last ofType =>
      obtain ⟨_, hs, heq⟩ := map_eq_ok.1 h
      cases heq
      obtain ⟨_, _, _, hs, _⟩ := parenthesized_eq_ok.1 hs
      exact .test (bounded_formula hs)
  | plain test =>
      cases h
      exact .test (qualifies_of_ofName? hp)

lemma normal_pseudoClass (h : pseudoClass engine nested text = .ok (s, rest)) :
    Normal engine.Admits .qualifier s := by
  obtain ⟨⟨word, r⟩, _, h⟩ := bind_eq_ok.1 h
  dsimp only at h
  split at h
  · next hp => exact normal_argument hf hn hp h
  · exact absurd h failAt_ne_ok

lemma normal_qualifier (h : qualifier engine nested text = .ok (some (s, rest))) :
    Normal engine.Admits .qualifier s := by
  rw [qualifier.eq_def] at h
  split at h
  · obtain ⟨_, _, heq⟩ := map_eq_ok.1 h
    cases heq
    exact normal_withAttribute (by simp) (by rintro _ ⟨⟩)
  · obtain ⟨_, _, heq⟩ := map_eq_ok.1 h
    cases heq
    exact normal_withAttribute (by simp) (by rintro _ ⟨⟩)
  · exact normal_attributeSelector hf (found_eq_ok.1 h)
  · exact normal_pseudoClass hf hn (found_eq_ok.1 h)
  · cases h

/-! ### Compounds, complexes and lists -/

variable (hk : Keeps nested)
include hk

lemma normal_compoundWith (h : compoundWith engine nested text = .ok (s, rest)) :
    Normal engine.Admits .compound s := by
  obtain ⟨⟨head, r⟩, hh, h⟩ := bind_eq_ok.1 h
  obtain ⟨⟨qs, r'⟩, hq, h⟩ := bind_eq_ok.1 h
  cases h
  have hqs : ∀ q ∈ qs, Normal engine.Admits .qualifier q := by
    intro q hmem
    obtain ⟨_, _, hstep⟩ := many_found (qualifier_shrinks engine hk) hq q hmem
    exact normal_qualifier hf hn hstep
  have hform : ∀ q ∈ qs, q.isQualifier = true := fun q hmem => (hqs q hmem).isQualifier
  rw [compoundHead.eq_def] at hh
  split at hh
  · exact absurd hh failAt_ne_ok
  · split at hh
    · cases hh
      rw [Selector.foldl_inter_universal hform]
      exact Selector.normal_conj hqs
    · split at hh
      · cases hh
        rw [Selector.foldl_inter_universal hform]
        exact Selector.normal_conj hqs
      · obtain ⟨⟨word, r''⟩, hi, heq⟩ := map_eq_ok.1 hh
        cases heq
        rw [Selector.tagged, Selector.foldl_inter rfl hform]
        exact Selector.normal_conj_tag ⟨word, identifier_ne_empty hi, rfl⟩ hqs

lemma normal_complexWith (h : complexWith engine nested text = .ok (s, rest)) :
    Normal engine.Admits .complex s := by
  obtain ⟨first, r, links, r', hfirst, hlinks, rfl, rfl⟩ := complexWith_eq_ok.1 h
  refine Selector.normal_chain (normal_compoundWith hf hn hk hfirst) ?_
  rintro ⟨relation, right⟩ hmem
  obtain ⟨_, _, hstep⟩ := many_found (link_shrinks engine hk) hlinks _ hmem
  obtain ⟨_, _, hw⟩ := link_eq_some hstep
  exact normal_compoundWith hf hn hk hw

lemma normal_listWith (h : listWith engine nested text = .ok (s, rest)) :
    Normal engine.Admits .list s := by
  obtain ⟨first, r, others, hfirst, hothers, rfl⟩ := listWith_eq_ok.1 h
  refine Selector.normal_foldl_union (normal_complexWith hf hn hk hfirst) fun o hmem => ?_
  obtain ⟨_, _, hstep⟩ := many_found (alternative_shrinks engine hk) hothers o hmem
  obtain ⟨_, _, hc⟩ := alternative_eq_some hstep
  exact normal_complexWith hf hn hk hc

end

/-- What the rule for lists gives is in normal form. -/
theorem normal_selectorList (hf : engine.Faithful) (h : selectorList engine text = .ok (s, rest)) :
    Normal engine.Admits .list s := by
  induction hn : text.length using Nat.strongRecOn generalizing text s rest with
  | ind n ih =>
      rw [selectorList] at h
      refine normal_listWith hf (fun t s' r ht => ?_) (fun t s' r ht => ?_) h
      · split at ht
        · next hlt => exact ih t.length (hn ▸ hlt) ht rfl
        · exact absurd ht failAt_ne_ok
      · split at ht
        · exact (selectorList_takes engine).keeps _ _ _ ht
        · exact absurd ht failAt_ne_ok

/-- **What a query compiles to is in normal form**, on every level: a list of complexes, each of
them compounds grouped to the left, each of those a tag and qualifiers, with nothing around what is
single. Nothing is nested in one of its kind. -/
theorem normal_of_compileWith (hf : engine.Faithful) {q : String}
    (h : compileWith engine q = .ok s) :
    Normal engine.Admits .list s ∧ ∀ t, Selector.Occurs t s → t.Flat := by
  have hnormal := normal_selectorList hf (compileWith_eq_ok.1 h)
  exact ⟨hnormal, fun t ht => hnormal.flat ht⟩

/-- A tag before a pattern that looks like an open comment, and behind it a disjunction in a
negation: of its parts one begins with a star, and the other is a complex. -/
theorem normal_tagged_negation :
    ∃ p s, compileWith .literal "UL[Href #= /*(a)]:Not(*.b:nth-child(-2n+7), c>:contains(X))" =
        .ok s ∧
      s = .all [.simple (.tag "ul"), .simple (.hasAttribute "href" (.pattern p)),
        .not (.any [
          .all [.simple (.hasAttribute "class" (.includes "b")),
            .simple (.nthChild ⟨-2, 7⟩ false false)],
          .complex .child (.simple (.tag "c")) (.simple (.contains "x" false))])] ∧
      Normal Engine.literal.Admits .list s ∧ ∀ t, Selector.Occurs t s → t.Flat := by
  have h : compileWith .literal "UL[Href #= /*(a)]:Not(*.b:nth-child(-2n+7), c>:contains(X))" =
      .ok (.all [.simple (.tag "ul"), .simple (.hasAttribute "href"
          (.pattern ⟨"/*(a)", fun text => occursIn ['/', '*', '(', 'a', ')'] text.toList⟩)),
        .not (.any [
          .all [.simple (.hasAttribute "class" (.includes "b")),
            .simple (.nthChild ⟨-2, 7⟩ false false)],
          .complex .child (.simple (.tag "c")) (.simple (.contains "x" false))])]) := by
    cbv
  exact ⟨_, _, h, rfl, normal_of_compileWith Engine.literal_faithful h⟩

end Query

end MarkupQuery
