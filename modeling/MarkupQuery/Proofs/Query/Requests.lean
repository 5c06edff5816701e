import MarkupQuery.Proofs.Query.Complex
import MarkupQuery.Proofs.Query.Transcript

/-!
What the rules of the grammar ask of the pattern engine.

Every rule has requests that are the same for all engines (`Transcribed`). Only the rule for
patterns makes a request of its own, one for each pattern; the rules around it hand on those of
their parts.

* `patternOperand_transcribed`: the one request of a pattern;
* `many_transcribed`: a loop asks what its step asks, round by round;
* `attributeSelector_transcribed`, `parenthesized_transcribed`, `pseudoClass_transcribed`,
  `compoundWith_transcribed`, `complexWith_transcribed`, `listWith_transcribed`: one lemma per
  production, the rule for the lists inside it given;
* `selectorList_transcribed`: the rule that is its own argument.
-/

namespace MarkupQuery.Query

open Transcribed

variable {text rest : List Char}

/-! ### Patterns and attributes -/

lemma patternOperand_transcribed (hb : skipBlank text = text) :
    Transcribed text [] fun E => patternOperand E text := by
  by_cases hshort : text.length < 2
  · refine congr (fun E => ?_) (Transcribed.failAt .unexpectedEnd text)
    rw [patternOperand, if_pos hshort]
  cases hspan : balancedSpan 0 text with
  | none =>
      refine congr (fun E => ?_) (Transcribed.failAt .unexpectedEnd [])
      rw [patternOperand, if_neg hshort, hspan]
  | some p =>
      obtain ⟨source, rest⟩ := p
      obtain ⟨htext, hclosed⟩ := append_of_balancedSpan hspan
      have hok : ∀ (E : Engine) p, E.compile (String.ofList source) = .ok p →
          patternOperand E text = .ok (p, rest) := by
        intro E p hp
        simp [patternOperand, hshort, hspan, hp]
      have herror : ∀ (E : Engine) e, E.compile (String.ofList source) = .error e →
          patternOperand E text = .error ⟨.unexpectedToken, text.length, some e⟩ := by
        intro E e he
        simp [patternOperand, hshort, hspan, he]
      have hblank := hok .blank ⟨String.ofList source, fun _ => false⟩ rfl
      refine ⟨[⟨source, rest, hclosed, htext ▸ hb⟩], fun E => ?_, fun f hf => ?_, fun a r h => ?_,
        fun a r h => ?_, ?_, List.pairwise_singleton _ _, ?_⟩
      · rw [hblank, Engine.answer, List.findSome?_singleton, Engine.refusal?]
        cases hE : E.compile (String.ofList source) with
        | ok p => simp [hok E p hE, Except.map, Patterned.mapPatterns, Engine.fill, hE]
        | error e =>
            rw [herror E e hE]
            simp [Request.text, htext]
      · rw [hblank] at hf
        cases hf
      · rw [hblank] at h
        cases h
        exact ⟨source, htext.symm⟩
      · rw [hblank] at h
        cases h
        rfl
      · simp [Request.text, htext]
      · intro a r h
        rw [hblank] at h
        cases h
        simp

/-- What is read without patterns. -/
lemma Transcribed.of_patternFree {x : Except Failure (Selector × List Char)}
    (hx : Uncaused x)
    (hvalue : ∀ s rest, x = .ok (s, rest) → rest <:+ text ∧ s.patternFree = true) :
    Transcribed text [] fun _ => x :=
  free hx fun s rest h =>
    have hfree := (hvalue s rest h).2
    ⟨(hvalue s rest h).1, s.patterns_eq_nil_iff.mpr hfree,
      fun _ => Selector.mapPatterns_of_patternFree hfree⟩

lemma operand_transcribed (op : Operator) (hb : skipBlank text = text) :
    Transcribed text [] fun E => operand E op text := by
  cases op with
  | text op =>
      refine free ((stringOrIdentifier_blameless text).map _) fun value rest h => ?_
      obtain ⟨⟨word, r⟩, hr, heq⟩ := map_eq_ok.1 h
      cases heq
      refine ⟨(stringOrIdentifier_takes _ _ _ hr).suffix, ?_, fun f => ?_⟩ <;> cases op <;> rfl
  | pattern =>
      exact (patternOperand_transcribed hb).map ValueTest.pattern (fun _ _ => rfl) fun _ => rfl

lemma attributeSelector_transcribed (text : List Char) :
    Transcribed text [] fun E => attributeSelector E text := by
  refine after (identifier_blameless _) fun p hp => ?_
  obtain ⟨key, r⟩ := p
  have hr := (skipBlank_suffix r).trans
    ((identifier_takes _ _ _ hp).suffix.trans (skipBlank_suffix text))
  dsimp only
  generalize skipBlank r = u at hr
  cases u with
  | nil => exact fail rfl
  | cons c u =>
      by_cases hc : c = ']'
      · subst hc
        exact finish (fun _ => Selector.withAttribute key .present)
          ((List.suffix_cons _ _).trans hr) (fun _ => rfl) rfl
      · suffices h : Transcribed text [] fun E => operator (c :: u) >>= fun o =>
            operand E o.1 (skipBlank o.2) >>= fun v =>
              closeBracket v.2 >>= fun r => .ok (Selector.withAttribute key v.1, r) by
          refine congr (fun E => ?_) h
          split
          · next heq => cases heq
          · next heq => exact absurd (List.cons.inj heq).1 hc
          · rfl
        refine after (operator_blameless _) fun o ho => ?_
        have ho' := (skipBlank_suffix o.2).trans ((operator_takes _ _ _ ho).suffix.trans hr)
        have hoperand := operand_transcribed o.1 (skipBlank_skipBlank o.2)
        refine (hoperand.of_suffix ho').bind fun v r' hfix _ => ?_
        refine after (closeBracket_blameless _) fun r'' hclose => ?_
        refine finish (fun E => Selector.withAttribute key (Patterned.mapPatterns E.fill v))
          (closeBracket_behind hclose).suffix (fun E => ?_) ?_
        · rw [hfix]
          rfl
        · rw [hfix]
          rfl

/-! ### Pseudo-classes -/

lemma parenthesized_transcribed {α : Type} [Patterned α] {rule : Engine → Rule α}
    (h : ∀ t, skipBlank t = t → Transcribed t [] fun E => rule E t) (text : List Char) :
    Transcribed text [] fun E => parenthesized (rule E) text := by
  by_cases hopen : ∃ u, text = '(' :: u
  · obtain ⟨u, rfl⟩ := hopen
    have hs := (skipBlank_suffix u).trans (List.suffix_cons '(' u)
    refine ((h (skipBlank u) (skipBlank_skipBlank u)).of_suffix hs).bind fun a r hfix _ => ?_
    have hr := skipBlank_suffix r
    dsimp only
    generalize skipBlank r = v at hr
    by_cases hclose : ∃ w, v = ')' :: w
    · obtain ⟨w, rfl⟩ := hclose
      refine finish (fun E => Patterned.mapPatterns E.fill a)
        ((List.suffix_cons _ _).trans hr) (fun E => ?_) ?_
      · rw [hfix]
      · rw [hfix, List.nil_append]
    · refine congr (fun E => ?_) (Transcribed.unexpected v)
      split
      · exact absurd ⟨_, rfl⟩ hclose
      · rfl
  · refine congr (fun E => ?_) (Transcribed.unexpected text)
    rw [parenthesized.eq_def]
    split
    · exact absurd ⟨_, rfl⟩ hopen
    · rfl

/-- A step that finds nothing with any engine, or that does what a rule with requests does. -/
def StepTranscribed {α : Type} [Patterned α] (text : List Char)
    (step : Engine → Except Failure (Option (α × List Char))) : Prop :=
  (∀ E, step E = .ok none) ∨
    ∃ run, (∀ E, step E = (run E).map some) ∧ Transcribed text [] run

/-- A loop asks what its step asks, round by round. Every round takes something, so this is an
induction on the length of the text. -/
lemma many_transcribed {α : Type} [Patterned α] {step : Engine → Step α}
    (hs : ∀ E, Shrinks (step E)) (h : ∀ t, StepTranscribed t fun E => step E t)
    (text : List Char) : Transcribed text [] fun E => many (step E) text := by
  induction hn : text.length using Nat.strongRecOn generalizing text with
  | ind n ih =>
      rcases h text with hnone | ⟨run, hrun, hrequests⟩
      · dsimp only at hnone
        refine congr (fun E => ?_) (finish (fun _ => []) List.suffix_rfl (fun _ => rfl) rfl)
        rw [many_eq (hs E), hnone]
      · dsimp only at hrun
        have hmany : ∀ E, many (step E) text
            = run E >>= fun p => many (step E) p.2 >>= fun q => .ok (p.1 :: q.1, q.2) := by
          intro E
          rw [many_eq (hs E), hrun]
          cases run E with
          | error f => rfl
          | ok p => exact map_eq_bind
        refine congr hmany (hrequests.bind fun a r hfix ha => ?_)
        have hb : Behind r text := hs .blank text a r (by rw [hrun, ha]; rfl)
        refine (ih r.length (hn ▸ hb.length_lt) r rfl).bind fun as r' hfixes _ => ?_
        refine finish (fun E => Patterned.mapPatterns E.fill a :: Patterned.mapPatterns E.fill as)
          List.suffix_rfl (fun E => ?_) ?_
        · rw [hfix, hfixes]
          rfl
        · rw [hfix, hfixes, List.nil_append]
          exact List.map_append

/-- The tests of pseudo-classes without parentheses ask for no pattern. -/
lemma patternFree_of_ofName? {word : String} {test : Test}
    (h : PseudoClass.ofName? word = some (.plain test)) : test.patternFree = true := by
  rw [PseudoClass.ofName?.eq_def] at h
  split at h <;> cases h <;> rfl

section

variable {nested : Engine → Rule Selector} (hk : ∀ E, Keeps (nested E))
  (h : ∀ t, Transcribed t [] fun E => nested E t)

/-- The head of a compound asks for no pattern. -/
lemma patternFree_of_compoundHead {head : Selector} (hh : compoundHead text = .ok (head, rest)) :
    head.patternFree = true := by
  rw [compoundHead.eq_def] at hh
  split at hh
  · exact absurd hh failAt_ne_ok
  · split at hh
    · cases hh
      rfl
    · split at hh
      · cases hh
        rfl
      · obtain ⟨_, _, heq⟩ := map_eq_ok.1 hh
        cases heq
        rfl

include h

lemma argument_transcribed {p : PseudoClass}
    (hp : ∀ test, p = .plain test → test.patternFree = true) (text : List Char) :
    Transcribed text [] fun E => p.argument E (nested E) text := by
  cases p with
  | wrapper w =>
      refine (parenthesized_transcribed (fun t _ => h t) text).map w.wrap
        (fun E a => ?_) fun a => ?_ <;> cases w <;> rfl
  | contains own =>
      refine of_patternFree ((stringOrIdentifier_blameless.parenthesized text).map _)
        fun s r hr => ?_
      obtain ⟨p, hp, heq⟩ := map_eq_ok.1 hr
      cases heq
      exact ⟨(parenthesized_takes stringOrIdentifier_takes.keeps _ _ _ hp).suffix, rfl⟩
  | textMatches own =>
      exact (parenthesized_transcribed (fun _ => patternOperand_transcribed) text).map
        (Selector.textMatching · own) (fun _ _ => rfl) fun _ => rfl
  | nthChild last ofType =>
      refine of_patternFree ((formula_blameless.parenthesized text).map _) fun s r hr => ?_
      obtain ⟨p, hp, heq⟩ := map_eq_ok.1 hr
      cases heq
      exact ⟨(parenthesized_takes formula_takes.keeps _ _ _ hp).suffix, rfl⟩
  | plain test =>
      refine of_patternFree (.of_ok _) fun s r hr => ?_
      cases hr
      exact ⟨List.suffix_rfl, hp test rfl⟩

lemma pseudoClass_transcribed (text : List Char) :
    Transcribed text [] fun E => pseudoClass E (nested E) text := by
  refine after (identifier_blameless text) fun p hname => ?_
  obtain ⟨word, r⟩ := p
  dsimp only
  cases hp : PseudoClass.ofName? (lowercase word) with
  | none => exact fail rfl
  | some p =>
      refine (argument_transcribed h ?_ r).of_suffix (identifier_takes _ _ _ hname).suffix
      rintro test rfl
      exact patternFree_of_ofName? hp

/-! ### Compounds, complexes and lists -/

lemma qualifier_transcribed (text : List Char) :
    StepTranscribed text fun E => qualifier E (nested E) text := by
  cases text with
  | nil => exact Or.inl fun E => rfl
  | cons c r =>
      have hname : ∀ build : String → Selector, (∀ word, (build word).patternFree = true) →
          Transcribed (c :: r) [] fun _ => (name r).map fun p => (build p.1, p.2) := by
        intro build hbuild
        refine of_patternFree ((name_blameless r).map _) fun s rest hr => ?_
        obtain ⟨p, hp, heq⟩ := map_eq_ok.1 hr
        cases heq
        exact ⟨(name_takes _ _ _ hp).suffix.trans (List.suffix_cons c r), hbuild p.1⟩
      by_cases hc : beginsQualifier c = true
      · simp only [beginsQualifier, Bool.or_eq_true, beq_iff_eq, or_assoc] at hc
        rcases hc with rfl | rfl | rfl | rfl
        · refine Or.inr ⟨_, fun E => ?_, hname Selector.withId fun _ => rfl⟩
          simp only [qualifier]
          cases name r <;> rfl
        · refine Or.inr ⟨_, fun E => ?_, hname Selector.withClass fun _ => rfl⟩
          simp only [qualifier]
          cases name r <;> rfl
        · exact Or.inr ⟨_, fun E => rfl,
            (attributeSelector_transcribed r).of_suffix (List.suffix_cons _ _)⟩
        · exact Or.inr ⟨_, fun E => rfl,
            (pseudoClass_transcribed h r).of_suffix (List.suffix_cons _ _)⟩
      · exact Or.inl fun E => qualifier_cons_eq_none.2 (Bool.of_not_eq_true hc)

include hk

lemma compoundWith_transcribed (text : List Char) :
    Transcribed text [] fun E => compoundWith E (nested E) text := by
  have hqualifiers := many_transcribed (fun E => qualifier_shrinks E (hk E))
    (qualifier_transcribed h)
  refine after (compoundHead_blameless text) fun p hp => ?_
  obtain ⟨head, r⟩ := p
  have hhead := patternFree_of_compoundHead hp
  refine ((hqualifiers r).of_suffix (compoundHead_keeps _ _ _ hp)).bind fun qs r' hfix _ => ?_
  refine finish (fun E => (Patterned.mapPatterns E.fill qs).foldl .inter head) List.suffix_rfl
    (fun E => ?_) ?_
  · rw [hfix]
    show (qs.foldl .inter head).mapPatterns E.fill = _
    rw [Selector.mapPatterns_foldl _ (Selector.mapPatterns_inter _),
      Selector.mapPatterns_of_patternFree hhead]
  · rw [hfix]
    show (qs.foldl .inter head).patterns.map _ = _
    rw [Selector.patterns_foldl Selector.patterns_inter, (Selector.patterns_eq_nil_iff _).mpr hhead]
    rfl

lemma link_transcribed (text : List Char) :
    StepTranscribed text fun E => link E (nested E) text := by
  cases hc : combinator? text with
  | none => exact Or.inl fun E => link_eq_none.2 hc
  | some p =>
      obtain ⟨relation, r⟩ := p
      have hright := (compoundWith_transcribed hk h r).of_suffix (combinator?_suffix hc)
      refine Or.inr ⟨_, fun E => ?_, hright.map (Prod.mk relation) (fun _ _ => rfl) fun _ => rfl⟩
      show link E (nested E) text = _
      rw [link, hc]
      dsimp only
      cases compoundWith E (nested E) r <;> rfl

lemma complexWith_transcribed (text : List Char) :
    Transcribed text [] fun E => complexWith E (nested E) text := by
  have hlinks := many_transcribed (fun E => link_shrinks E (hk E)) (link_transcribed hk h)
  refine ((compoundWith_transcribed hk h _).of_suffix (skipBlank_suffix text)).bind
    fun first r hfirst _ => ?_
  refine (hlinks r).bind fun links r' hlinks _ => ?_
  refine finish (fun E => Selector.chain (Patterned.mapPatterns E.fill first)
    (Patterned.mapPatterns E.fill links)) (skipBlank_suffix r') (fun E => ?_) ?_
  · rw [hfirst, hlinks]
    exact Selector.mapPatterns_chain _ first links
  · rw [hfirst, hlinks, List.nil_append]
    show (Selector.chain first links).patterns.map _ = _
    rw [Selector.patterns_chain, List.map_append]
    rfl

lemma alternative_transcribed (text : List Char) :
    StepTranscribed text fun E => alternative E (nested E) text := by
  by_cases hcomma : ∃ r, text = ',' :: r
  · obtain ⟨r, rfl⟩ := hcomma
    exact Or.inr ⟨_, fun E => rfl,
      (complexWith_transcribed hk h r).of_suffix (List.suffix_cons ',' r)⟩
  · refine Or.inl fun E => ?_
    show alternative E (nested E) text = .ok none
    rw [alternative.eq_def]
    split
    · exact absurd ⟨_, rfl⟩ hcomma
    · rfl

lemma listWith_transcribed (text : List Char) :
    Transcribed text [] fun E => listWith E (nested E) text := by
  have hothers := many_transcribed (fun E => alternative_shrinks E (hk E))
    (alternative_transcribed hk h)
  refine (complexWith_transcribed hk h text).bind fun first r hfirst _ => ?_
  refine (hothers r).bind fun others r' hothers _ => ?_
  refine finish (fun E => (Patterned.mapPatterns E.fill others).foldl .union
    (Patterned.mapPatterns E.fill first)) List.suffix_rfl (fun E => ?_) ?_
  · rw [hfirst, hothers]
    exact Selector.mapPatterns_foldl _ (Selector.mapPatterns_union _) others first
  · rw [hfirst, hothers, List.nil_append]
    show (others.foldl .union first).patterns.map _ = _
    rw [Selector.patterns_foldl Selector.patterns_union, List.map_append]
    rfl

end

/-- The lists inside a list stand behind its start, so this is an induction on the length of the
text. -/
lemma selectorList_transcribed (text : List Char) :
    Transcribed text [] fun E => selectorList E text := by
  induction hn : text.length using Nat.strongRecOn generalizing text with
  | ind n ih =>
      have hlist : ∀ E, selectorList E text = listWith E (fun inner =>
          if inner.length < text.length then selectorList E inner
          else Query.failAt .unexpectedToken inner) text := fun E => by rw [selectorList]
      refine congr hlist (listWith_transcribed (fun E t s r ht => ?_) (fun t => ?_) text)
      · split at ht
        · exact (selectorList_takes E).keeps _ _ _ ht
        · exact absurd ht failAt_ne_ok
      · by_cases hlt : t.length < text.length
        · exact congr (fun E => if_pos hlt) (ih t.length (hn ▸ hlt) t rfl)
        · exact congr (fun E => if_neg hlt) (Transcribed.failAt .unexpectedToken t)

end MarkupQuery.Query
