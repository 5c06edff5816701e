import MarkupQuery.Proofs.Query.Padding
import MarkupQuery.Proofs.Query.PatternSource

/-!
Queries that end in a closing bracket.

What ends a query and is closed by a bracket is read in the same way with blanks behind it, but for
one thing: the source of a pattern needs two characters left, be the source empty and the second
character a blank behind the bracket. So the blanks can be left out of a query that compiles unless
an empty source is all that its last bracket closes. Rules that may meet an empty source are in the
second case of `ShedsBut`: then the source is the last that was read (`EndsBare`).

* `patternOperand_shedsInside`: where the two characters are asked for;
* `attributeSelector_shedsBut`, `pseudoClass_shedsBut`, `qualifier_stepSheds`: what a bracket
  closes;
* `ShedsBut.grown`: compounds, complexes and lists, each a selector and the parts behind it;
* `selectorList_shedsBut`: lists, by induction on a bound for the lists inside them;
* `compileWith_behind_bracket`: whole queries.
-/

namespace MarkupQuery.Query

variable {α β : Type} {engine : Engine} {nested : Rule Selector} {text rest w : List Char}
  {s : Selector}

/-! ### Empty sources -/

/-- The last pattern of the value is what the engine makes of the empty source. -/
def EndsBare [Patterned α] (engine : Engine) (a : α) : Prop :=
  ∃ p, (Patterned.patterns a).getLast? = some p ∧ engine.compile "" = .ok p

/-- What comes before does not matter. -/
lemma EndsBare.of_append [Patterned α] [Patterned β] {a : α} {b : β} (h : EndsBare engine a)
    (front : List Pattern) (hb : Patterned.patterns b = front ++ Patterned.patterns a) :
    EndsBare engine b := by
  obtain ⟨p, hp, hbare⟩ := h
  refine ⟨p, ?_, hbare⟩
  rw [hb, List.getLast?_append, hp]
  rfl

/-- A selector that has grown by parts ends as its parts do. -/
lemma EndsBare.foldl [Patterned β] {grow : Selector → β → Selector} {parts : List β}
    (hgrow : ∀ a b, (grow a b).patterns = a.patterns ++ Patterned.patterns b)
    (h : EndsBare engine parts) (first : Selector) : EndsBare engine (parts.foldl grow first) :=
  h.of_append first.patterns (Selector.patterns_foldl hgrow parts first)

lemma endsBare_cons [Patterned β] {b : β} {parts : List β} (h : EndsBare engine parts) :
    EndsBare engine (b :: parts) :=
  h.of_append (Patterned.patterns b) List.flatMap_cons

lemma endsBare_singleton [Patterned β] {b : β} (h : EndsBare engine b) : EndsBare engine [b] :=
  h.of_append [] (List.flatMap_singleton _ _)

/-! ### Between brackets -/

/-- What comes first behind the blanks comes first in the text alone. -/
lemma skipBlank_cons_of_append (hw : Padding w) {c : Char} (h : skipBlank (text ++ w) = c :: rest) :
    ∃ r w', Padding w' ∧ rest = r ++ w' ∧ skipBlank text = c :: r := by
  obtain ⟨w', hw', hskip, _⟩ := skipBlank_append_padding hw text
  obtain ⟨r, hr, rfl⟩ := hw'.cons_of_append (hskip.symm.trans h) (isBlank_of_skipBlank h)
  exact ⟨r, w', hw', rfl, hr⟩

lemma operator_sheds : Sheds operator := by
  intro text w op rest ht hw h
  rw [operator.eq_def] at h
  split at h
  · exact absurd h failAt_ne_ok
  · next htext =>
    obtain ⟨t, rfl, rfl⟩ := hw.cons_of_append htext rfl
    cases h
    exact ⟨t, w, hw, rfl, rfl⟩
  · next c r hne htext =>
    split at h
    · next op' r' hop =>
      cases h
      have hc : isBlank c = false :=
        isBlank_eq_false_of (p := fun d => (Operator.ofSymbol? d).isSome) rfl (by rw [hop]; rfl)
      obtain ⟨t, rfl, heq⟩ := hw.cons_of_append htext hc
      obtain ⟨t, rfl, rfl⟩ := hw.cons_of_append heq.symm rfl
      refine ⟨t, w, hw, rfl, ?_⟩
      rw [operator]
      · exact hne
      · exact hop
    · exact absurd h failAt_ne_ok
    · exact absurd h failAt_ne_ok

/-- A rule for the inside of brackets sheds the blanks too, but where the text alone lacks a
character only blanks come behind the bracket that ends the inside, and `P` holds of what was
read. -/
def ShedsInside (P : α → Prop) (rule : Rule α) : Prop :=
  ∀ text w a rest, Closed text → Padding w → rule (text ++ w) = .ok (a, rest) →
    (∃ r w', Padding w' ∧ rest = r ++ w' ∧ rule text = .ok (a, r)) ∨
      (rule text = .error starved ∧
        ∀ c u, closesBracket c = true → skipBlank rest = c :: u → Padding u ∧ P a)

lemma Sheds.inside {rule : Rule α} (h : Sheds rule) {P : α → Prop} : ShedsInside P rule :=
  fun text w a rest ht hw hr => .inl (h text w a rest ht hw hr)

/-- A rule that leaves only blanks leaves no bracket. -/
lemma ShedsBut.inside {rule : Rule α} {P Q : α → Prop} (h : ShedsBut P rule) :
    ShedsInside Q rule := by
  intro text w a rest ht hw hr
  refine (h text w a rest ht hw hr).imp_right fun ⟨_, hrest, herr⟩ => ⟨herr, fun c u _ hu => ?_⟩
  rw [hrest.skipBlank] at hu
  cases hu

lemma ShedsInside.map {rule : Rule α} {P : α → Prop} {Q : β → Prop} (h : ShedsInside P rule)
    (f : α → β) (hPQ : ∀ a, P a → Q (f a)) :
    ShedsInside Q fun text => (rule text).map fun p => (f p.1, p.2) := by
  intro text w b rest ht hw hb
  obtain ⟨⟨a, r'⟩, ha, heq⟩ := map_eq_ok.1 hb
  cases heq
  rcases h text w a _ ht hw ha with ⟨r, w', hw', rfl, hr⟩ | ⟨herr, hclose⟩
  · exact .inl ⟨r, w', hw', rfl, map_eq_ok.2 ⟨_, hr, rfl⟩⟩
  · exact .inr ⟨map_eq_error.2 herr, fun c u hc hu => (hclose c u hc hu).imp_right (hPQ a)⟩

/-- A pattern is read up to its bracket, with blanks behind the text or without. But a text that is
only the bracket is too short for it. -/
lemma patternOperand_shedsInside :
    ShedsInside (EndsBare engine) (patternOperand engine) := by
  intro text w p rest _ hw h
  obtain ⟨hlen, source, hspan, hp⟩ := patternOperand_eq_ok.1 h
  obtain ⟨htext, c, r, rfl, hc⟩ := append_of_balancedSpan hspan
  have hblank : isBlank c = false := isBlank_eq_false_of rfl hc
  have hslash : c ≠ '/' := by
    rintro rfl
    cases hc
  -- the bracket is no blank, so it stands in the text
  obtain ⟨r, rfl, rfl⟩ : ∃ r', text = source ++ c :: r' ∧ r = r' ++ w := by
    rcases List.append_eq_append_iff.1 htext with ⟨u, _, hu⟩ | ⟨u, rfl, hu⟩
    · have hmem := hw c (by rw [hu]; simp)
      rw [hblank] at hmem
      cases hmem
    · obtain ⟨r', rfl, rfl⟩ := hw.cons_of_append hu.symm hblank
      exact ⟨r', rfl, rfl⟩
  by_cases hl : (source ++ c :: r).length < 2
  · rw [List.length_append, List.length_cons] at hl
    obtain rfl : source = [] := List.length_eq_zero_iff.1 (by omega)
    obtain rfl : r = [] := List.length_eq_zero_iff.1 (by omega)
    refine .inr ⟨rfl, fun d u _ hu => ?_⟩
    rw [List.nil_append, skipBlank_cons hblank hslash] at hu
    obtain rfl := (List.cons.inj hu).2
    exact ⟨hw, p, rfl, hp⟩
  · refine .inl ⟨c :: r, w, hw, rfl, patternOperand_eq_ok.2 ⟨by omega, source, ?_, hp⟩⟩
    rw [List.append_assoc] at hspan
    exact balancedSpan_of_bracket hspan r

lemma operand_shedsInside (op : Operator) : ShedsInside (EndsBare engine) (operand engine op) := by
  cases op with
  | text op => exact (stringOrIdentifier_sheds.map op.test).inside
  | pattern => exact patternOperand_shedsInside.map ValueTest.pattern fun _ h => h

lemma closeBracket_shed (hw : Padding w) (h : closeBracket (text ++ w) = .ok rest) :
    ∃ r w', Padding w' ∧ rest = r ++ w' ∧ closeBracket text = .ok r := by
  obtain ⟨r, w', hw', hrest, hfront⟩ := skipBlank_cons_of_append hw (closeBracket_eq_ok.1 h)
  exact ⟨r, w', hw', hrest, closeBracket_eq_ok.2 hfront⟩

/-- What stands in parentheses is read up to the closing one. -/
lemma parenthesized_shedsBut {rule : Rule α} {P : α → Prop} (h : ShedsInside P rule) :
    ShedsBut P (parenthesized rule) := by
  intro text w a rest ht hw hr
  obtain ⟨u, r₁, htext, ha, hclose⟩ := parenthesized_eq_ok.1 hr
  obtain ⟨t, rfl, rfl⟩ := hw.cons_of_append htext rfl
  obtain ⟨w₁, hw₁, hskip, _⟩ := skipBlank_append_padding hw t
  rw [hskip] at ha
  rcases h _ w₁ a _ ht.of_cons.skipBlank hw₁ ha with ⟨r, w₂, hw₂, rfl, hread⟩ | ⟨herr, hbracket⟩
  · obtain ⟨r', w₃, hw₃, rfl, hfront⟩ := skipBlank_cons_of_append hw₂ hclose
    exact .inl ⟨r', w₃, hw₃, rfl, parenthesized_eq_ok.2 ⟨t, r, rfl, hread, hfront⟩⟩
  · obtain ⟨hrest, hP⟩ := hbracket ')' rest rfl hclose
    exact .inr ⟨hP, hrest, bind_eq_error.2 (.inl herr)⟩

lemma attributeValue_shedsBut (key : String) (op : Operator) :
    ShedsBut (EndsBare engine) fun text =>
      operand engine op (skipBlank text) >>= fun p => closeBracket p.2 >>= fun r =>
        .ok (Selector.withAttribute key p.1, r) := by
  intro text w s rest ht hw h
  obtain ⟨⟨v, r₁⟩, hv, h⟩ := bind_eq_ok.1 h
  obtain ⟨r₂, hc, h⟩ := bind_eq_ok.1 h
  cases h
  obtain ⟨w₁, hw₁, hskip, _⟩ := skipBlank_append_padding hw text
  rw [hskip] at hv
  rcases operand_shedsInside op _ w₁ v _ ht.skipBlank hw₁ hv with
    ⟨r, w₂, hw₂, rfl, hvalue⟩ | ⟨herr, hbracket⟩
  · obtain ⟨r', w₃, hw₃, rfl, hend⟩ := closeBracket_shed hw₂ hc
    exact .inl ⟨r', w₃, hw₃, rfl, bind_eq_ok.2 ⟨_, hvalue, bind_eq_ok.2 ⟨_, hend, rfl⟩⟩⟩
  · obtain ⟨hrest, hbare⟩ := hbracket ']' rest rfl (closeBracket_eq_ok.1 hc)
    exact .inr ⟨hbare.of_append [] rfl, hrest, bind_eq_error.2 (.inl herr)⟩

lemma attributeSelector_shedsBut : ShedsBut (EndsBare engine) (attributeSelector engine) := by
  intro text w s rest ht hw h
  have hread := h
  obtain ⟨⟨key, r₁⟩, hk, h⟩ := bind_eq_ok.1 h
  obtain ⟨r, w₁, hw₁, rfl, hkey⟩ := identifier_sheds.skip text w key _ ht hw hk
  dsimp only at hkey h
  have hr := ht.of_suffix ((identifier_takes _ _ _ hkey).suffix.trans (skipBlank_suffix text))
  split at h
  · exact absurd h failAt_ne_ok
  · next hclose =>
    cases h
    obtain ⟨r', w₂, hw₂, rfl, hfront⟩ := skipBlank_cons_of_append hw₁ hclose
    refine .inl ⟨r', w₂, hw₂, rfl, bind_eq_ok.2 ⟨_, hkey, ?_⟩⟩
    dsimp only
    rw [hfront]
    rfl
  · obtain ⟨⟨op, r₂⟩, ho, _⟩ := bind_eq_ok.1 h
    obtain ⟨r₂, w₂, hw₂, rfl, hop⟩ := operator_sheds.skip r w₁ op _ hr hw₁ ho
    dsimp only at hop
    rw [attributeSelector_of_operator hk ho] at hread
    rw [attributeSelector_of_operator hkey hop]
    have hr₂ := hr.of_suffix ((operator_takes _ _ _ hop).suffix.trans (skipBlank_suffix r))
    exact attributeValue_shedsBut key op r₂ w₂ s rest hr₂ hw₂ hread

/-! ### Compounds -/

lemma argument_shedsBut {P : Selector → Prop} (h : ShedsBut P nested) (p : PseudoClass) :
    ShedsBut (EndsBare engine) (p.argument engine nested) := by
  cases p with
  | wrapper wrapper =>
      have hinside := parenthesized_shedsBut (h.inside (Q := fun _ => False))
      exact ((hinside.sheds fun _ hx => hx).map wrapper.wrap).but
  | contains own =>
      have hinside := parenthesized_shedsBut (stringOrIdentifier_sheds.inside (P := fun _ => False))
      exact ((hinside.sheds fun _ hx => hx).map (Selector.containing · own)).but
  | textMatches own =>
      exact (parenthesized_shedsBut patternOperand_shedsInside).map (Selector.textMatching · own)
        fun p hp => hp.of_append [] rfl
  | nthChild last ofType =>
      have hinside := parenthesized_shedsBut (formula_sheds.inside (P := fun _ => False))
      exact ((hinside.sheds fun _ hx => hx).map (Selector.nthChild · last ofType)).but
  | plain test =>
      intro text w s rest _ hw hr
      cases hr
      exact .inl ⟨text, w, hw, rfl, rfl⟩

lemma pseudoClass_shedsBut {P : Selector → Prop} (h : ShedsBut P nested) :
    ShedsBut (EndsBare engine) (pseudoClass engine nested) := by
  intro text w s rest ht hw hr
  obtain ⟨⟨name, r₁⟩, hn, hr⟩ := bind_eq_ok.1 hr
  obtain ⟨r, w₁, hw₁, rfl, hname⟩ := identifier_sheds text w name _ ht hw hn
  have hclosed := ht.of_suffix (identifier_takes _ _ _ hname).suffix
  dsimp only at hr
  split at hr
  · next p hp =>
    have hread : pseudoClass engine nested text = p.argument engine nested r := by
      rw [pseudoClass, hname]
      dsimp only [bind, Except.bind]
      rw [hp]
    rw [hread]
    exact argument_shedsBut h p r w₁ s rest hclosed hw₁ hr
  · exact absurd hr failAt_ne_ok

lemma qualifier_padding (hw : Padding w) : qualifier engine nested w = .ok none := by
  cases w with
  | nil => rfl
  | cons c r =>
      exact qualifier_cons_eq_none.2 (Separator.of_isBlank (hw c List.mem_cons_self)).not_qualifier

lemma qualifier_stepSheds {P : Selector → Prop} (h : ShedsBut P nested) :
    StepSheds (EndsBare engine) (qualifier engine nested) := by
  intro text w hne ht hw
  obtain ⟨c, t, rfl⟩ := List.exists_cons_of_ne_nil hne
  refine ⟨fun hnone => qualifier_cons_eq_none.2 (qualifier_cons_eq_none.1 hnone),
    fun s rest hr => ?_⟩
  rw [List.cons_append, qualifier.eq_def] at hr
  split at hr
  · next heq =>
    obtain ⟨rfl, rfl⟩ := List.cons.inj heq
    obtain ⟨⟨id, r'⟩, hn, heq⟩ := map_eq_ok.1 hr
    cases heq
    obtain ⟨r, w', hw', rfl, hname⟩ := name_sheds t w id _ ht.of_cons hw hn
    exact .inl ⟨r, w', hw', rfl, map_eq_ok.2 ⟨_, hname, rfl⟩⟩
  · next heq =>
    obtain ⟨rfl, rfl⟩ := List.cons.inj heq
    obtain ⟨⟨word, r'⟩, hn, heq⟩ := map_eq_ok.1 hr
    cases heq
    obtain ⟨r, w', hw', rfl, hname⟩ := name_sheds t w word _ ht.of_cons hw hn
    exact .inl ⟨r, w', hw', rfl, map_eq_ok.2 ⟨_, hname, rfl⟩⟩
  · next heq =>
    obtain ⟨rfl, rfl⟩ := List.cons.inj heq
    exact attributeSelector_shedsBut.found ht.of_cons hw hr
  · next heq =>
    obtain ⟨rfl, rfl⟩ := List.cons.inj heq
    exact (pseudoClass_shedsBut h).found ht.of_cons hw hr
  · cases hr

lemma compoundHead_sheds : Sheds compoundHead := by
  intro text w s rest ht hw h
  obtain ⟨c, u, htext, hc⟩ := compoundHead_first h
  obtain ⟨t, rfl, rfl⟩ := hw.cons_of_append htext (isBlank_eq_false_of rfl hc)
  rw [List.cons_append, compoundHead] at h
  rw [compoundHead]
  by_cases hstar : c = '*'
  · rw [if_pos hstar] at h ⊢
    cases h
    exact ⟨t, w, hw, rfl, rfl⟩
  rw [if_neg hstar] at h ⊢
  by_cases hq : beginsQualifier c = true
  · rw [if_pos hq] at h ⊢
    cases h
    exact ⟨c :: t, w, hw, rfl, rfl⟩
  · rw [if_neg hq] at h ⊢
    exact identifier_sheds.map Selector.tagged _ w s rest ht hw h

/-! ### Selectors that grow by parts -/

/-- A selector and the parts by which it grows. If the selector is the exception, only blanks are
left for the parts, and there are none. -/
lemma ShedsBut.grown [Patterned β] {first : Rule Selector} {step : Step β}
    {grow : Selector → β → Selector} (hfirst : ShedsBut (EndsBare engine) first)
    (hkeeps : Keeps first) (hstep : StepSheds (EndsBare engine) step) (hs : Shrinks step)
    (hidle : ∀ w, Padding w → step w = .ok none)
    (hgrow : ∀ a b, (grow a b).patterns = a.patterns ++ Patterned.patterns b) :
    ShedsBut (EndsBare engine) fun text =>
      first text >>= fun p => many step p.2 >>= fun q => .ok (q.1.foldl grow p.1, q.2) := by
  intro text w s rest ht hw h
  obtain ⟨⟨a, r₁⟩, hf, h⟩ := bind_eq_ok.1 h
  obtain ⟨⟨parts, r₂⟩, hm, h⟩ := bind_eq_ok.1 h
  cases h
  dsimp only at hm
  rcases hfirst text w a _ ht hw hf with ⟨r, w₁, hw₁, rfl, hread⟩ | ⟨hbare, hrest, herr⟩
  · have hparts := hstep.many (Q := EndsBare engine) hs hidle (fun _ => endsBare_singleton)
      (fun _ _ => endsBare_cons)
    rcases hparts r w₁ parts _ (ht.of_suffix (hkeeps _ _ _ hread)) hw₁ hm with
      ⟨r', w₂, hw₂, rfl, hmany⟩ | ⟨hbare, hrest, herr⟩
    · exact .inl ⟨r', w₂, hw₂, rfl, bind_eq_ok.2 ⟨_, hread, bind_eq_ok.2 ⟨_, hmany, rfl⟩⟩⟩
    · exact .inr ⟨hbare.foldl hgrow a, hrest,
        bind_eq_error.2 (.inr ⟨_, hread, bind_eq_error.2 (.inl herr)⟩)⟩
  · rw [many_of_stop hs (hidle r₁ hrest)] at hm
    cases hm
    exact .inr ⟨hbare, hrest, bind_eq_error.2 (.inl herr)⟩

lemma compoundWith_shedsBut {P : Selector → Prop} (h : ShedsBut P nested) (hn : Keeps nested) :
    ShedsBut (EndsBare engine) (compoundWith engine nested) :=
  compoundHead_sheds.but.grown compoundHead_keeps (qualifier_stepSheds h)
    (qualifier_shrinks engine hn) (fun _ => qualifier_padding) Selector.patterns_inter

/-- The combinator is the same with blanks behind the text, which are left over behind it. -/
lemma combinator?_append_padding (hw : Padding w) (text : List Char) :
    ∃ w', Padding w' ∧
      combinator? (text ++ w) = (combinator? text).map fun p => (p.1, p.2 ++ w') := by
  cases hfront : skipBlank text with
  | nil =>
      refine ⟨w, hw, ?_⟩
      rw [combinator?_nil hfront,
        combinator?_nil ((skipBlank_append_of_nil hfront w).trans hw.skipBlank)]
      rfl
  | cons c r =>
      have hfront' : skipBlank (text ++ w) = c :: (r ++ w) :=
        skipBlank_append_of_inert (inert_of_isBlank hw) hfront
      by_cases he : endsComplex c = true
      · refine ⟨w, hw, ?_⟩
        rw [combinator?_end hfront he, combinator?_end hfront' he]
        rfl
      rw [Bool.not_eq_true] at he
      cases hc : ofMark? c with
      | some relation =>
          obtain ⟨w', hw', hskip, _⟩ := skipBlank_append_padding hw r
          refine ⟨w', hw', ?_⟩
          rw [combinator?_mark hfront hc, combinator?_mark hfront' hc, hskip]
          rfl
      | none =>
          refine ⟨w, hw, ?_⟩
          have hlength : (c :: (r ++ w)).length < (text ++ w).length ↔
              (c :: r).length < text.length := by
            rw [List.length_cons, List.length_cons, List.length_append, List.length_append]
            omega
          rw [combinator?_blank hfront he hc, combinator?_blank hfront' he hc]
          by_cases hlt : (c :: r).length < text.length
          · rw [if_pos hlt, if_pos (hlength.2 hlt)]
            rfl
          · rw [if_neg hlt, if_neg (mt hlength.1 hlt)]
            rfl

lemma link_padding (hw : Padding w) : link engine nested w = .ok none :=
  link_eq_none.2 (combinator?_nil hw.skipBlank)

lemma link_stepSheds {P : Selector → Prop} (h : ShedsBut P nested) (hn : Keeps nested) :
    StepSheds (EndsBare engine) (link engine nested) := by
  intro text w _ ht hw
  obtain ⟨w₁, hw₁, hcombinator⟩ := combinator?_append_padding hw text
  refine ⟨fun hnone => ?_, fun ⟨relation, s⟩ rest hlink => ?_⟩
  · rw [link_eq_none, hcombinator, Option.map_eq_none_iff] at hnone
    exact link_eq_none.2 hnone
  · obtain ⟨u, hc, hread⟩ := link_eq_some hlink
    rw [hcombinator, Option.map_eq_some_iff] at hc
    obtain ⟨⟨relation', t⟩, hc, heq⟩ := hc
    cases heq
    rcases compoundWith_shedsBut h hn t w₁ s rest (ht.of_suffix (combinator?_suffix hc)) hw₁ hread
      with ⟨r, w₂, hw₂, rfl, hfront⟩ | ⟨hbare, hrest, herr⟩
    · exact .inl ⟨r, w₂, hw₂, rfl, link_of_combinator hc hfront⟩
    · refine .inr ⟨hbare, hrest, ?_⟩
      rw [link, hc]
      exact map_eq_error.2 herr

/-- A complex is a compound and its links, and the blanks around it are dropped. -/
lemma complexWith_eq (text : List Char) :
    complexWith engine nested text =
      (compoundWith engine nested (skipBlank text) >>= fun p =>
        many (link engine nested) p.2 >>= fun q =>
          Except.ok (q.1.foldl (fun left l => Selector.complex l.1 left l.2) p.1, q.2)).map
        fun p => (p.1, skipBlank p.2) := by
  rw [complexWith]
  cases compoundWith engine nested (skipBlank text) with
  | error f => rfl
  | ok p =>
      dsimp only [bind, Except.bind]
      cases many (link engine nested) p.2 <;> rfl

lemma complexWith_shedsBut {P : Selector → Prop} (h : ShedsBut P nested) (hn : Keeps nested) :
    ShedsBut (EndsBare engine) (complexWith engine nested) := by
  have hkeeps : Keeps fun text => compoundWith engine nested (skipBlank text) :=
    fun text s rest hc =>
      (compoundWith_takes engine hn _ s rest hc).suffix.trans (skipBlank_suffix text)
  have hgrow : ∀ a (l : Combinator × Selector),
      (Selector.complex l.1 a l.2).patterns = a.patterns ++ Patterned.patterns l := fun _ _ => rfl
  have hcompound : ShedsBut (EndsBare engine) (compoundWith engine nested) :=
    compoundWith_shedsBut h hn
  have hlinks := hcompound.skip.grown hkeeps (link_stepSheds h hn) (link_shrinks engine hn)
    (fun _ => link_padding) hgrow
  rw [show complexWith engine nested = _ from funext complexWith_eq]
  exact hlinks.dropBlank

lemma alternative_of_ne {c : Char} (hc : c ≠ ',') (text : List Char) :
    alternative engine nested (c :: text) = .ok none := by
  by_contra hne
  obtain ⟨r, heq⟩ := alternative_ne_none hne
  exact hc (List.cons.inj heq).1

lemma alternative_padding (hw : Padding w) : alternative engine nested w = .ok none := by
  by_contra hne
  obtain ⟨r, rfl⟩ := alternative_ne_none hne
  cases hw ',' List.mem_cons_self

lemma alternative_stepSheds {P : Selector → Prop} (h : ShedsBut P nested) (hn : Keeps nested) :
    StepSheds (EndsBare engine) (alternative engine nested) := by
  intro text w hne ht hw
  obtain ⟨c, t, rfl⟩ := List.exists_cons_of_ne_nil hne
  by_cases hc : c = ','
  · subst hc
    refine ⟨fun hnone => ?_, fun s rest hr => ?_⟩
    · obtain ⟨_, _, heq⟩ := map_eq_ok.1 hnone
      cases heq
    · exact (complexWith_shedsBut h hn).found ht.of_cons hw hr
  · refine ⟨fun _ => alternative_of_ne hc t, fun s rest hr => ?_⟩
    rw [List.cons_append, alternative_of_ne hc] at hr
    cases hr

lemma listWith_shedsBut {P : Selector → Prop} (h : ShedsBut P nested) (hn : Keeps nested) :
    ShedsBut (EndsBare engine) (listWith engine nested) :=
  (complexWith_shedsBut h hn).grown (complexWith_takes engine hn).keeps (alternative_stepSheds h hn)
    (alternative_shrinks engine hn) (fun _ => alternative_padding) Selector.patterns_union

/-! ### Lists inside lists -/

/-- A rule that reads texts of less than `n` characters alone. -/
def below (n : ℕ) (rule : Rule α) : Rule α := fun text =>
  if text.length < n then rule text else failAt .unexpectedToken text

lemma below_eq {n : ℕ} {rule : Rule α} (h : text.length < n) : below n rule text = rule text :=
  if_pos h

lemma below_eq_ok {n : ℕ} {rule : Rule α} {a : α} :
    below n rule text = .ok (a, rest) ↔ text.length < n ∧ rule text = .ok (a, rest) := by
  rw [below]
  split
  · next h => exact ⟨fun hr => ⟨h, hr⟩, fun hr => hr.2⟩
  · next h => exact ⟨fun hr => absurd hr failAt_ne_ok, fun hr => absurd hr.1 h⟩

lemma selectorList_eq_below {n : ℕ} (h : text.length ≤ n) :
    selectorList engine text = listWith engine (below n (selectorList engine)) text := by
  have hn := (selectorList_takes engine).keeps
  rw [selectorList_eq]
  exact listWith_congr hn (fun t s rest hr => hn t s rest (below_eq_ok.1 hr).2)
    fun t ht => (below_eq (ht.length_lt.trans_le h)).symm

/-- The lists inside a list are shorter, so this is an induction on a bound for the length. -/
lemma selectorList_below_shedsBut (engine : Engine) (n : ℕ) :
    ShedsBut (EndsBare engine) (below n (selectorList engine)) := by
  induction n with
  | zero =>
      intro text w s rest _ _ hr
      exact absurd (below_eq_ok.1 hr).1 (Nat.not_lt_zero _)
  | succ n ih =>
      intro text w s rest ht hw hr
      have hkeeps : Keeps (below n (selectorList engine)) := fun t s' rest' hr' =>
        (selectorList_takes engine).keeps t s' rest' (below_eq_ok.1 hr').2
      obtain ⟨hlt, hlist⟩ := below_eq_ok.1 hr
      have hle : text.length ≤ n := by
        rw [List.length_append] at hlt
        omega
      rw [below_eq (Nat.lt_succ_of_le hle), selectorList_eq_below hle]
      rw [selectorList_eq_below (Nat.le_of_lt_succ hlt)] at hlist
      exact listWith_shedsBut ih hkeeps text w s rest ht hw hlist

/-- **What a list reads with blanks behind the text it reads without them**, and the blanks are left
over, unless its last pattern is empty and one character too few stands behind it. -/
theorem selectorList_shedsBut (engine : Engine) :
    ShedsBut (EndsBare engine) (selectorList engine) := by
  intro text w s rest ht hw hr
  have hlt : text.length < (text ++ w).length + 1 := by
    rw [List.length_append]
    omega
  have hbelow := selectorList_below_shedsBut engine ((text ++ w).length + 1) text w s rest ht hw
  rw [below_eq (Nat.lt_succ_self _), below_eq hlt] at hbelow
  exact hbelow hr

/-! ### Whole queries -/

/-- **Blanks behind a closing bracket.** Let a query end in a closing bracket. What it compiles to
it also compiles to with blanks behind it. And what it compiles to with blanks it compiles to
without them, or else it ends too early for the source of a pattern, at its last bracket; but only
where the last pattern is what the engine makes of the empty source. -/
theorem compileWith_behind_bracket (E : Engine) (q w : String)
    (hq : ∃ c ∈ q.toList.getLast?, closesBracket c = true)
    (hw : ∀ c ∈ w.toList, isBlank c = true) (s : Selector) :
    (compileWith E q = .ok s → compileWith E (q ++ w) = .ok s) ∧
    (compileWith E (q ++ w) = .ok s →
      compileWith E q = .ok s ∨
        (compileWith E q = .error ⟨.unexpectedEnd, q.length - 1, none⟩ ∧
          ∃ p, s.patterns.getLast? = some p ∧ E.compile "" = .ok p)) := by
  constructor
  · intro h
    rw [compileWith_eq_ok, String.toList_append]
    exact selectorList_blanks (Padding.blanks hw) (compileWith_eq_ok.1 h)
      (.inl (inert_of_isBlank hw))
  · intro h
    have hclosed : Closed q.toList := by
      obtain ⟨c, hc, hclose⟩ := hq
      intro d hd
      rw [← Option.mem_unique hc hd]
      exact hclose
    rw [compileWith_eq_ok, String.toList_append] at h
    rcases selectorList_shedsBut E _ _ s [] hclosed hw h with
      ⟨r, w', _, hnil, hread⟩ | ⟨hbare, _, herr⟩
    · obtain ⟨rfl, _⟩ := List.append_eq_nil_iff.1 hnil.symm
      exact .inl (compileWith_eq_ok.2 hread)
    · exact .inr ⟨compileWith_of_error herr, hbare⟩

/-- An empty source inside of other brackets, and one that the last bracket closes. -/
theorem compileWith_behind_empty_source :
    (∃ c ∈ "p:not(:matches())[a]".toList.getLast?, closesBracket c = true) ∧
    (∃ c ∈ "p:matches()".toList.getLast?, closesBracket c = true) ∧
    (∀ c ∈ " \n".toList, isBlank c = true) ∧
    (∃ s, compileWith .literal "p:not(:matches())[a]" = .ok s ∧
      compileWith .literal ("p:not(:matches())[a]" ++ " \n") = .ok s) ∧
    compileWith .literal "p:matches()" = .error ⟨.unexpectedEnd, 10, none⟩ ∧
    ∃ s, compileWith .literal ("p:matches()" ++ " \n") = .ok s ∧
      ∃ p, s.patterns.getLast? = some p ∧ Engine.literal.compile "" = .ok p := by
  have hinside : ∃ c ∈ "p:not(:matches())[a]".toList.getLast?, closesBracket c = true :=
    ⟨']', by cbv, rfl⟩
  have hlast : ∃ c ∈ "p:matches()".toList.getLast?, closesBracket c = true := ⟨')', by cbv, rfl⟩
  have hw : ∀ c ∈ " \n".toList, isBlank c = true := List.all_eq_true.mp (by cbv)
  have hs : compileWith .literal "p:not(:matches())[a]" =
      .ok (.all [.tagged "p", .not (.textMatching ⟨"", fun text => occursIn [] text.toList⟩ false),
        .withAttribute "a" .present]) := by
    cbv
  have hs' : compileWith .literal ("p:matches()" ++ " \n") =
      .ok (.all [.tagged "p", .textMatching ⟨"", fun text => occursIn [] text.toList⟩ false]) := by
    cbv
  have hearly : compileWith .literal "p:matches()" = .error ⟨.unexpectedEnd, 10, none⟩ := by cbv
  refine ⟨hinside, hlast, hw,
    ⟨_, hs, (compileWith_behind_bracket .literal _ _ hinside hw _).1 hs⟩, hearly, _, hs', ?_⟩
  rcases (compileWith_behind_bracket .literal _ _ hlast hw _).2 hs' with hok | ⟨_, hbare⟩
  · rw [hearly] at hok
    cases hok
  · exact hbare

/-- The same query is wrong as it stands and compiles with one blank behind it. -/
theorem compile_matches_nothing :
    (∃ c ∈ ":matches()".toList.getLast?, closesBracket c = true) ∧
    (∀ c ∈ " ".toList, isBlank c = true) ∧
    (∃ s, compile (":matches()" ++ " ") = .ok s) ∧
    compile ":matches()" = .error ⟨.unexpectedEnd, 9, none⟩ := by
  have hok : (compile (":matches()" ++ " ")).isOk = true := by decide +kernel
  have hs : ∃ s, compile (":matches()" ++ " ") = .ok s := by
    cases h : compile (":matches()" ++ " ") with
    | ok s => exact ⟨s, rfl⟩
    | error e =>
        rw [h] at hok
        cases hok
  exact ⟨⟨')', by cbv, rfl⟩, List.all_eq_true.mp (by cbv), hs, by cbv⟩

end MarkupQuery.Query
