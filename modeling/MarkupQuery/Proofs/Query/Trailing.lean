import MarkupQuery.Proofs.Query.PatternSource

/-!
Blanks and comments behind a query.

Behind a query that compiles, blanks and comments go on with nothing: a name ends before them, a
numeric escape may take one blank, and what is left drops away at the end of the last complex. But a
comment is closed by the first end of one, wherever it was opened. A pattern that begins with a
slash and a star stands for itself as long as nothing closes it, and turns into a comment when the
text behind the query does.

* `Blanks.apart`: blanks and comments are apart from what stands before them;
* `complexWith_blanks`, `alternatives_blanks`, `selectorList_blanks`: what ends the text ends it
  with blanks behind it too, provided that they spare its patterns;
* `exists_request`: the patterns of a selector were asked for, and no blank and no comment stood
  before them;
* `compileWith_before_blanks`: a query compiles to the same selector with blanks and comments behind
  it, unless one of these is a comment and a pattern of the selector begins as a comment does.
-/

namespace MarkupQuery.Query

variable {engine : Engine} {text w : List Char} {s : Selector}

/-! ### Blanks behind a text -/

lemma Separator.of_isBlank {c : Char} (hc : isBlank c = true) : Separator c := by
  rcases (isBlank_iff c).1 hc with rfl | rfl | rfl | rfl | rfl <;> exact ⟨by decide, by simp, rfl⟩

lemma Blanks.separates (h : Blanks w) : Separates w := by
  cases h with
  | nil => trivial
  | blank hc _ => exact .of_isBlank hc
  | comment _ _ => exact ⟨rfl, by simp, rfl⟩

lemma skipBlank_dropTerminator (text : List Char) :
    skipBlank (dropTerminator text) = skipBlank text := by
  rw [dropTerminator.eq_def]
  split
  · rw [skipBlank_blank rfl, skipBlank_blank rfl]
  · split
    · next hc => rw [skipBlank_blank hc]
    · rfl
  · rfl

lemma Blanks.dropTerminator (h : Blanks w) : Blanks (dropTerminator w) :=
  skipBlank_eq_nil_iff.mp ((skipBlank_dropTerminator w).trans (skipBlank_eq_nil_iff.mpr h))

/-- Blanks and comments are apart from what stands before them, also without the blank that an
escape takes. -/
lemma Blanks.apart (h : Blanks w) : Apart w :=
  ⟨h.separates, h.dropTerminator.separates⟩

lemma Blanks.of_leaves {rest tail' : List Char} (h : Blanks w) (hl : Leaves rest w tail') :
    Blanks tail' := by
  rcases hl with rfl | ⟨_, rfl⟩
  · exact h
  · exact h.dropTerminator

/-! ### Queries with blanks behind them -/

/-- A complex that ends the text ends it with blanks behind it too. -/
lemma complexWith_blanks (hw : Blanks w)
    (h : complexWith engine (selectorList engine) text = .ok (s, [])) (hs : Spares engine w s) :
    complexWith engine (selectorList engine) (text ++ w) = .ok (s, []) := by
  have hshrinks := link_shrinks engine (selectorList_takes engine).keeps
  obtain ⟨r, tail', hr, hleaves, _, hresume⟩ :=
    complexWith_resume (lasts engine w text) h (fun _ => hw.apart) hs
  have hnil : skipBlank (r ++ tail') = [] :=
    (skipBlank_append_of_nil hr tail').trans (skipBlank_eq_nil_iff.mpr (hw.of_leaves hleaves))
  have hstop := many_of_stop hshrinks (link_eq_none.2 (combinator?_nil hnil))
  rw [hresume _ _ hstop, hnil]
  rfl

/-- So do alternatives, the last of which ends the text. This is an induction on the length of the
text: behind every other alternative comes a comma. -/
lemma alternatives_blanks (hw : Blanks w) {as : List Selector}
    (h : many (alternative engine (selectorList engine)) text = .ok (as, [])) (hne : text ≠ [])
    (hs : ∀ a ∈ as, Spares engine w a) :
    many (alternative engine (selectorList engine)) (text ++ w) = .ok (as, []) := by
  have hshrinks := alternative_shrinks engine (selectorList_takes engine).keeps
  induction hn : text.length using Nat.strongRecOn generalizing text as with
  | ind n ih =>
      rw [many_eq hshrinks] at h
      split at h
      · cases h
      · cases h
        exact absurd rfl hne
      · next a r hstep =>
        have hlt := hn ▸ (hshrinks _ _ _ hstep).length_lt
        obtain ⟨⟨as', rest⟩, hm, heq⟩ := map_eq_ok.1 h
        cases heq
        obtain ⟨u, rfl, hc⟩ := alternative_eq_some hstep
        have ha := hs a List.mem_cons_self
        by_cases hr : r = []
        · subst hr
          rw [many_empty hshrinks rfl] at hm
          cases hm
          have hlast := complexWith_blanks hw hc ha
          rw [List.cons_append, many_of_found hshrinks (alternative_of_complexWith hlast),
            many_empty hshrinks rfl]
          rfl
        · have hgoes : alternative engine (selectorList engine) r ≠ .ok none := by
            intro hnone
            rw [many_of_stop hshrinks hnone] at hm
            cases hm
            exact hr rfl
          obtain ⟨v, rfl⟩ := alternative_ne_none hgoes
          have hnext := complexWith_append (lasts engine w u) hc (settled_comma v w) ha
          rw [List.cons_append, many_of_found hshrinks (alternative_of_complexWith hnext),
            ih _ hlt hm hr (fun b hb => hs b (List.mem_cons_of_mem _ hb)) rfl]
          rfl

/-- A list is read as its alternatives are behind a comma. -/
lemma selectorList_eq_ok_comma {rest : List Char} :
    selectorList engine text = .ok (s, rest) ↔
      ∃ first others, many (alternative engine (selectorList engine)) (',' :: text) =
        .ok (first :: others, rest) ∧ others.foldl .union first = s := by
  have hshrinks := alternative_shrinks engine (selectorList_takes engine).keeps
  rw [selectorList_eq_ok]
  constructor
  · rintro ⟨first, r, others, hf, ho, hfold⟩
    refine ⟨first, others, ?_, hfold⟩
    rw [many_of_found hshrinks (alternative_of_complexWith hf), ho]
    rfl
  · rintro ⟨first, others, hm, hfold⟩
    rw [many_eq hshrinks] at hm
    split at hm
    · cases hm
    · cases hm
    · next a r hstep =>
      obtain ⟨_, ho, heq⟩ := map_eq_ok.1 hm
      cases heq
      exact ⟨_, r, _, found_eq_ok.1 hstep, ho, hfold⟩

/-- A list that ends the text ends it with blanks behind it too. -/
theorem selectorList_blanks (hw : Blanks w) (h : selectorList engine text = .ok (s, []))
    (hs : Spares engine w s) : selectorList engine (text ++ w) = .ok (s, []) := by
  obtain ⟨first, others, hm, rfl⟩ := selectorList_eq_ok_comma.1 h
  obtain ⟨hfirst, hothers⟩ := spares_foldl Selector.patterns_union hs
  exact selectorList_eq_ok_comma.2 ⟨first, others, alternatives_blanks hw hm (List.cons_ne_nil _ _)
    (List.forall_mem_cons.2 ⟨hfirst, hothers⟩), rfl⟩

/-! ### Patterns that begin as a comment does -/

/-- Whether the pattern begins as a comment does. -/
def BeginsComment (p : Pattern) : Prop :=
  ['/', '*'] <+: p.source.toList

lemma opensNoComment_of_faithful (hE : engine.Faithful) {p : Pattern} (hp : ¬ BeginsComment p) :
    OpensNoComment engine p := by
  intro source hsource
  rw [← hE source p hsource]
  exact hp

/-- Blanks alone close no comment. -/
lemma inert_of_isBlank (hw : ∀ c ∈ w, isBlank c = true) : Inert w :=
  ⟨fun h => absurd (hw _ h) (by decide), fun h => absurd (hw _ h) (by decide)⟩

/-- A text of blanks and comments is blank from the end of its last comment on. -/
lemma Blanks.last_comment (h : Blanks w) :
    (∀ c ∈ w, isBlank c = true) ∨
      ∃ before after, w = before ++ '*' :: '/' :: after ∧ ∀ c ∈ after, isBlank c = true := by
  induction h with
  | nil => exact .inl (by simp)
  | @blank c r hc _ ih =>
      rcases ih with hr | ⟨before, after, rfl, hafter⟩
      · exact .inl (List.forall_mem_cons.2 ⟨hc, hr⟩)
      · exact .inr ⟨c :: before, after, rfl, hafter⟩
  | @comment body r _ _ ih =>
      rcases ih with hr | ⟨before, after, rfl, hafter⟩
      · exact .inr ⟨'/' :: '*' :: body, r, rfl, hr⟩
      · exact .inr ⟨'/' :: '*' :: (body ++ '*' :: '/' :: before), after, by simp, hafter⟩

/-- What stands at the front of a text as an open comment is never closed in it. -/
lemma not_closed_of_skipBlank (h : skipBlank ('/' :: '*' :: text) = '/' :: '*' :: text) :
    ¬ ['*', '/'] <:+: text := by
  rw [skipBlank_comment] at h
  rcases skipComment_cases ('/' :: '*' :: text) text with ⟨body, r, rfl, _, hskip⟩ | ⟨hnone, _⟩
  · have hle := length_skipBlank_le r
    rw [← hskip, h] at hle
    simp only [List.length_cons, List.length_append] at hle
    omega
  · exact hnone

/-- The patterns of a selector were asked for. -/
lemma exists_request {q : String} (hE : engine.Faithful) (h : compileWith engine q = .ok s)
    {p : Pattern} (hp : p ∈ s.patterns) :
    ∃ r : Request, r.text <:+ q.toList ∧ r.source = p.source.toList := by
  obtain ⟨requests, hrequests⟩ := wholeList_transcribed q.toList
  have hheld := (hasPatterns hrequests).held engine s hE h
  have hmem : p.source ∈ (requests.map (·.within q.length)).map (·.source) := by
    rw [← hheld]
    exact List.mem_map_of_mem hp
  rw [List.map_map, List.mem_map] at hmem
  obtain ⟨r, hr, hsource⟩ := hmem
  refine ⟨r, hrequests.stands r hr, ?_⟩
  rw [← hsource]
  exact String.toList_ofList.symm

/-- A pattern that begins as a comment does is never closed like one. -/
lemma not_closed_of_source {r : Request} (h : ['/', '*'] <+: r.source) :
    ∃ u, r.text = '/' :: '*' :: u ∧ ¬ ['*', '/'] <:+: u := by
  obtain ⟨source, hsource⟩ := h
  have htext : r.text = '/' :: '*' :: (source ++ r.behind) := by
    rw [Request.text, ← hsource]
    rfl
  refine ⟨_, htext, not_closed_of_skipBlank ?_⟩
  rw [← htext]
  exact r.front

/-- From a pattern on there is a bracket to come, which is part of no end of a comment and no
blank. -/
lemma exists_bracket (r : Request) : ∃ c ∈ r.text, c ≠ '*' ∧ c ≠ '/' ∧ isBlank c = false := by
  obtain ⟨c, behind, hbehind, hc⟩ := r.closed
  refine ⟨c, by simp [Request.text, hbehind], ?_⟩
  rw [closesBracket, Bool.or_eq_true, beq_iff_eq, beq_iff_eq] at hc
  rcases hc with rfl | rfl <;> exact ⟨by simp, by simp, rfl⟩

/-- Where a pattern begins as a comment does, the text does not go on to the end of a comment and
blanks alone behind it: the end would close the pattern, or else the bracket behind the pattern
would stand in the end or among the blanks. -/
lemma not_before_end {r : Request} (hsource : ['/', '*'] <+: r.source) {before after : List Char}
    (hafter : ∀ c ∈ after, isBlank c = true) : ¬ r.text <:+ before ++ '*' :: '/' :: after := by
  obtain ⟨u, htext, hopen⟩ := not_closed_of_source hsource
  obtain ⟨c, hc, hstar, hslash, hblank⟩ := exists_bracket r
  have hmem : c ∉ after := by
    intro hmem
    rw [hafter c hmem] at hblank
    cases hblank
  intro hsuf
  rcases List.suffix_or_suffix_of_suffix hsuf (List.suffix_append before _) with hin | ⟨front, hfront⟩
  · have hend := hin.subset hc
    simp [hstar, hslash, hmem] at hend
  · rw [htext] at hfront hc
    rcases front with _ | ⟨_, _ | ⟨_, front⟩⟩
    · cases (List.cons.inj hfront).1
    · obtain ⟨_, hfront⟩ := List.cons.inj hfront
      rw [← hfront] at hc
      simp [hstar, hslash, hmem] at hc
    · obtain ⟨_, hfront⟩ := List.cons.inj hfront
      obtain ⟨_, hfront⟩ := List.cons.inj hfront
      exact hopen ⟨front, after, by rw [← hfront]; simp⟩

/-! ### Whole queries -/

/-- **Blanks and comments behind a query are dropped**, but for a comment that a pattern of the
query opens. The patterns are made by any engine, provided that they keep their sources. A query
that compiles compiles to the same selector with blanks alone behind it, and also with comments if
no pattern of the selector begins as a comment does; and with a comment behind a pattern that does,
it no longer compiles to this selector. -/
theorem compileWith_before_blanks (hE : engine.Faithful) {q w : String}
    (h : compileWith engine q = .ok s) (hw : Blanks w.toList) :
    compileWith engine (q ++ w) = .ok s ↔
      (∀ c ∈ w.toList, isBlank c = true) ∨ ∀ p ∈ s.patterns, ¬ BeginsComment p := by
  constructor
  · intro hqw
    refine hw.last_comment.imp_right ?_
    rintro ⟨before, after, hafter, hblank⟩ p hp hcomment
    obtain ⟨r, hsuf, hsource⟩ := exists_request hE hqw hp
    rw [String.toList_append, hafter, ← List.append_assoc] at hsuf
    exact not_before_end (hsource ▸ hcomment) hblank hsuf
  · intro hspares
    have hs : Spares engine w.toList s :=
      hspares.imp inert_of_isBlank fun hp p hmem => opensNoComment_of_faithful hE (hp p hmem)
    rw [compileWith_eq_ok, String.toList_append]
    exact selectorList_blanks hw (compileWith_eq_ok.1 h) hs

/-- With any engine that accepts a slash and a star for a pattern, the query of this pattern
compiles. With a comment behind it no query of this text compiles: the pattern has become a comment,
and the query ends at the parenthesis. -/
lemma compileWith_slash_star {p : Pattern} (hp : engine.compile "/*" = .ok p) :
    compileWith engine ":matches(/*)" = .ok (.textMatching p false) ∧
      compileWith engine (":matches(/*)" ++ "/**/") = .error ⟨.unexpectedEnd, 16, none⟩ := by
  have hoperand : patternOperand engine "/*)".toList = .ok (p, [')']) :=
    patternOperand_eq_ok.2 ⟨by decide, ['/', '*'], by decide, hp⟩
  have hlist := (PatternPlace.text false).selectorList_opening (by cbv) hoperand
  exact ⟨compileWith_eq_ok.2 hlist, by cbv⟩

/-- So comments are not always dropped. -/
theorem compileWith_before_comment :
    Engine.literal.Faithful ∧ Blanks "/**/".toList ∧
    (∃ s, compileWith .literal ":matches(/*)" = .ok s) ∧
    compileWith .literal (":matches(/*)" ++ "/**/") = .error ⟨.unexpectedEnd, 16, none⟩ := by
  have hw : Blanks "/**/".toList := skipBlank_eq_nil_iff.mp (by cbv)
  have hp : Engine.literal.compile "/*" = .ok _ := rfl
  obtain ⟨hok, herror⟩ := compileWith_slash_star hp
  exact ⟨Engine.literal_faithful, hw, ⟨_, hok⟩, herror⟩

/-- A pattern with a slash and a star in it that begins otherwise. -/
def innerComment : Pattern :=
  ⟨"a/*", fun text => occursIn ['a', '/', '*'] text.toList⟩

/-- Blanks alone behind the same pattern, and a comment behind a pattern that begins otherwise. -/
theorem compileWith_before_line_feed :
    Engine.literal.Faithful ∧
    (∃ s, compileWith .literal ":matches(/*)" = .ok s ∧ Blanks " \n".toList ∧
      (∀ c ∈ " \n".toList, isBlank c = true) ∧
      compileWith .literal (":matches(/*)" ++ " \n") = .ok s) ∧
    ∃ s, compileWith .literal "p:matches(a/*)" = .ok s ∧ Blanks " /**/".toList ∧
      (∀ p ∈ s.patterns, ¬ BeginsComment p) ∧
      compileWith .literal ("p:matches(a/*)" ++ " /**/") = .ok s := by
  have hblank : Blanks " \n".toList := skipBlank_eq_nil_iff.mp (by cbv)
  have hall : ∀ c ∈ " \n".toList, isBlank c = true := List.all_eq_true.mp (by cbv)
  have hcomment : Blanks " /**/".toList := skipBlank_eq_nil_iff.mp (by cbv)
  have hp : Engine.literal.compile "/*" = .ok _ := rfl
  have hbegins := (compileWith_slash_star hp).1
  have hinner : compileWith .literal "p:matches(a/*)" =
      .ok (.all [.tagged "p", .textMatching innerComment false]) := by
    cbv
  have hnone : ∀ p ∈ (Selector.all [.tagged "p", .textMatching innerComment false]).patterns,
      ¬ BeginsComment p := by
    intro p hp
    obtain rfl := List.mem_singleton.1 hp
    rw [BeginsComment]
    decide
  exact ⟨Engine.literal_faithful, ⟨_, hbegins, hblank, hall,
      (compileWith_before_blanks Engine.literal_faithful hbegins hblank).mpr (.inl hall)⟩,
    _, hinner, hcomment, hnone,
    (compileWith_before_blanks Engine.literal_faithful hinner hcomment).mpr (.inr hnone)⟩

end MarkupQuery.Query
