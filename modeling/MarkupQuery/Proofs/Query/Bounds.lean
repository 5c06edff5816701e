import Mathlib
import MarkupQuery.Proofs.Query.Blank
import MarkupQuery.Query.Compile
import MarkupQuery.Query.Progress

/-!
Places in a query, before and after a rule.

A rule that succeeds leaves an end of its text and has taken something (`Takes`, in the lemmas about
progress). A rule that fails reports a mistake in its text, and reports that the text ends only
where at most one character is left (`Reports`). Together: from a place in a query a rule goes on to
a later place in it or reports a mistake between the place and the end (`StaysInside`).

* `many_reports`: a loop reports what its step reports;
* `formula_reports`, `attributeSelector_reports`, `compoundWith_reports`, `listWith_reports`, …: one
  lemma per production, each citing the ones below it, down to `selectorList_reports`;
* `stays_inside`: a rule that takes something and reports its mistakes stays inside its query;
* `read_formulaNumber`, `read_escape`, `read_patternOperand`, `skipBlank_place`: what these rules
  cut out of a query, and where they end;
* `rules_stayInside`: all of this for the rules by which a query can be read.
-/

namespace MarkupQuery.Query

variable {α β : Type} {text rest : List Char} {f : Failure}

/-! ### Mistakes in a text -/

/-- The mistake is in the text or right behind it. That the text ends too early is reported at its
end, or at the last character. -/
structure Failure.Within (f : Failure) (text : List Char) : Prop where
  left_le : f.left ≤ text.length
  left_le_one : f.kind = .unexpectedEnd → f.left ≤ 1

/-- A rule, or a step, whose mistakes are in its text. -/
def Reports (rule : List Char → Except Failure β) : Prop :=
  ∀ text f, rule text = .error f → f.Within text

lemma Failure.Within.mono (h : f.Within rest) (hs : rest <:+ text) : f.Within text :=
  ⟨h.left_le.trans hs.length_le, h.left_le_one⟩

lemma bind_eq_error {x : Except Failure α} {g : α → Except Failure β} :
    (x >>= g) = .error f ↔ x = .error f ∨ ∃ a, x = .ok a ∧ g a = .error f := by
  cases x with
  | error e =>
      constructor
      · rintro ⟨⟩
        exact .inl rfl
      · rintro (⟨⟨⟩⟩ | ⟨_, ⟨⟩, _⟩)
        rfl
  | ok a =>
      constructor
      · exact fun h => .inr ⟨a, rfl, h⟩
      · rintro (⟨⟨⟩⟩ | ⟨_, ⟨⟩, h⟩)
        exact h

lemma map_eq_error {x : Except Failure α} {g : α → β} : x.map g = .error f ↔ x = .error f := by
  cases x with
  | error e =>
      constructor <;>
      · rintro ⟨⟩
        rfl
  | ok a => exact ⟨nofun, nofun⟩

lemma within_failAt {kind : ErrorKind} (hk : kind ≠ .unexpectedEnd)
    (h : (failAt kind text : Except Failure β) = .error f) : f.Within text := by
  cases h
  exact ⟨Nat.le_refl _, fun heq => absurd heq hk⟩

lemma within_end (hl : text.length ≤ 1)
    (h : (failAt .unexpectedEnd text : Except Failure β) = .error f) : f.Within text := by
  cases h
  exact ⟨Nat.le_refl _, fun _ => hl⟩

lemma within_unexpected (h : (unexpected text : Except Failure β) = .error f) : f.Within text := by
  rw [unexpected] at h
  cases text with
  | nil => exact within_end (Nat.zero_le _) h
  | cons c r => exact within_failAt (by simp) h

lemma Reports.map {rule : Rule α} (h : Reports rule) (g : α × List Char → β) :
    Reports fun text => (rule text).map g :=
  fun text f hf => h text f (map_eq_error.1 hf)

lemma Reports.found {rule : Rule α} (h : Reports rule) : Reports (Rule.found rule) :=
  h.map _

/-- A rule may be applied further on. -/
lemma Reports.of_suffix {rule : List Char → Except Failure β} (h : Reports rule)
    (hf : rule rest = .error f) (hs : rest <:+ text) : f.Within text :=
  (h rest f hf).mono hs

/-! ### Loops -/

/-- A loop fails where its step does, at some end of the text. -/
lemma many_eq_error {step : Step α} (hs : Shrinks step) (hf : many step text = .error f) :
    ∃ rest, rest <:+ text ∧ step rest = .error f := by
  induction hn : text.length using Nat.strongRecOn generalizing text with
  | ind n ih =>
      rw [many_eq hs] at hf
      split at hf
      · next hstep =>
        cases hf
        exact ⟨text, List.suffix_rfl, hstep⟩
      · cases hf
      · next a r hstep =>
        have hb := hs _ _ _ hstep
        obtain ⟨rest, hsuf, hrest⟩ := ih r.length (hn ▸ hb.length_lt) (map_eq_error.1 hf) rfl
        exact ⟨rest, hsuf.trans hb.suffix, hrest⟩

/-- A loop reports what its step reports. -/
lemma many_reports {step : Step α} (hs : Shrinks step) (h : Reports step) :
    Reports (many step) := by
  intro text f hf
  obtain ⟨rest, hsuf, hstep⟩ := many_eq_error hs hf
  exact h.of_suffix hstep hsuf

/-! ### Names and strings -/

lemma escape_reports : Reports escape := by
  intro text f h
  rw [escape.eq_def] at h
  split at h
  · split at h
    · exact within_failAt (by simp) h
    · split at h <;> cases h
  · exact within_end (by simp) h
  · exact within_failAt (by simp) h

lemma nameChar_reports : Reports nameChar := by
  intro text f h
  rw [nameChar.eq_def] at h
  split at h
  · cases h
  · split at h
    · cases h
    · split at h
      · exact escape_reports.found _ _ h
      · cases h

lemma name_reports : Reports name := by
  intro text f h
  rcases bind_eq_error.1 h with h | ⟨⟨chars, r⟩, _, h⟩
  · exact many_reports nameChar_shrinks nameChar_reports _ _ h
  · dsimp only at h
    split at h
    · exact within_failAt (by simp) h
    · cases h

lemma identifier_reports : Reports identifier := by
  intro text f h
  rw [identifier.eq_def] at h
  split at h
  · split at h
    · exact name_reports.of_suffix (map_eq_error.1 h) (List.suffix_cons _ _)
    · exact (within_failAt (by simp) h).mono (List.suffix_cons _ _)
  · split at h
    · exact name_reports _ _ h
    · exact within_failAt (by simp) h

lemma stringPart_reports (quote : Char) : Reports (stringPart quote) := by
  intro text f h
  rw [stringPart.eq_def] at h
  split at h
  · cases h
  · split at h
    · cases h
    · split at h
      · split at h
        · cases h
        · split at h
          · cases h
          · exact escape_reports _ _ (map_eq_error.1 h)
        · exact escape_reports _ _ (map_eq_error.1 h)
      · split at h
        · exact within_failAt (by simp) h
        · cases h

lemma quotedString_reports : Reports quotedString := by
  intro text f h
  rw [quotedString.eq_def] at h
  split at h
  · split at h
    · rcases bind_eq_error.1 h with h | ⟨⟨parts, r⟩, hm, h⟩
      · exact (many_reports (stringPart_shrinks _) (stringPart_reports _)).of_suffix h
          (List.suffix_cons _ _)
      · dsimp only at h
        split at h
        · exact (within_end (Nat.zero_le _) h).mono (List.nil_suffix)
        · cases h
    · exact within_failAt (by simp) h
  · exact within_failAt (by simp) h

lemma stringOrIdentifier_reports : Reports stringOrIdentifier := by
  intro text f h
  rw [stringOrIdentifier.eq_def] at h
  split at h
  · exact within_end (Nat.zero_le _) h
  · split at h
    · exact quotedString_reports _ _ h
    · exact identifier_reports _ _ h

/-! ### Formulas -/

lemma formulaNumber_reports : Reports formulaNumber := by
  intro text f h
  rw [formulaNumber.eq_def] at h
  dsimp only at h
  split at h
  · exact within_failAt (by simp) h
  · cases h

lemma formulaOffset_reports : Reports formulaOffset := by
  intro text f h
  rw [formulaOffset.eq_def] at h
  have hs := skipBlank_suffix text
  split at h
  · exact (within_end (Nat.zero_le _) h).mono List.nil_suffix
  · next r heq =>
    exact formulaNumber_reports.of_suffix (map_eq_error.1 h)
      ((skipBlank_suffix r).trans ((List.suffix_cons _ _).trans (heq ▸ hs)))
  · next r heq =>
    exact formulaNumber_reports.of_suffix (map_eq_error.1 h)
      ((skipBlank_suffix r).trans ((List.suffix_cons _ _).trans (heq ▸ hs)))
  · cases h

lemma formulaOfStep_reports (step : Int64) : Reports (formulaOfStep step) :=
  formulaOffset_reports.map _

lemma unsignedFormula_reports (negative : Bool) : Reports (unsignedFormula negative) := by
  intro text f h
  rw [unsignedFormula.eq_def] at h
  split at h
  · exact within_end (Nat.zero_le _) h
  · split at h
    · rcases bind_eq_error.1 h with h | ⟨⟨n, r⟩, hn, h⟩
      · exact formulaNumber_reports _ _ h
      · have hs := (formulaNumber_takes _ _ _ hn).suffix
        dsimp only at h
        split at h
        · exact (within_end (Nat.zero_le _) h).mono List.nil_suffix
        · split at h
          · exact (formulaOfStep_reports _).of_suffix h ((List.suffix_cons _ _).trans hs)
          · cases h
    · split at h
      · exact (formulaOfStep_reports _).of_suffix h (List.suffix_cons _ _)
      · exact within_failAt (by simp) h

lemma formulaWord_reports : Reports formulaWord := by
  intro text f h
  rcases bind_eq_error.1 h with h | ⟨⟨word, r⟩, _, h⟩
  · exact name_reports _ _ h
  · dsimp only at h
    split at h
    · cases h
    · exact within_failAt (by simp) h

lemma formula_reports : Reports formula := by
  intro text f h
  rw [formula.eq_def] at h
  split at h
  · exact within_end (Nat.zero_le _) h
  · exact (unsignedFormula_reports _).of_suffix h (List.suffix_cons _ _)
  · exact (unsignedFormula_reports _).of_suffix h (List.suffix_cons _ _)
  · split at h
    · exact unsignedFormula_reports _ _ _ h
    · split at h
      · exact formulaWord_reports _ _ h
      · exact within_failAt (by simp) h

/-! ### Patterns and attributes -/

lemma patternOperand_reports (engine : Engine) : Reports (patternOperand engine) := by
  intro text f h
  rw [patternOperand.eq_def] at h
  split at h
  · exact within_end (by omega) h
  · split at h
    · exact (within_end (Nat.zero_le _) h).mono List.nil_suffix
    · split at h
      · cases h
      · cases h
        exact ⟨Nat.le_refl _, nofun⟩

/-- An operator whose equals sign is missing at the end of the query is a mistake at its first
character, one before the end. -/
lemma operator_reports : Reports operator := by
  intro text f h
  rw [operator.eq_def] at h
  split at h
  · exact within_end (Nat.zero_le _) h
  · cases h
  · split at h
    · cases h
    · exact within_end (by simp) h
    · exact within_failAt (by simp) h

lemma operand_reports (engine : Engine) (op : Operator) : Reports (operand engine op) := by
  cases op with
  | text op => exact stringOrIdentifier_reports.map _
  | pattern => exact (patternOperand_reports engine).map _

lemma closeBracket_reports : Reports closeBracket := by
  intro text f h
  rw [closeBracket.eq_def] at h
  split at h
  · cases h
  · exact (within_unexpected h).mono (skipBlank_suffix text)

lemma attributeSelector_reports (engine : Engine) : Reports (attributeSelector engine) := by
  intro text f h
  have hs := skipBlank_suffix text
  rcases bind_eq_error.1 h with h | ⟨⟨key, r⟩, hk, h⟩
  · exact identifier_reports.of_suffix h hs
  have hr := (identifier_takes _ _ _ hk).suffix.trans hs
  dsimp only at h
  split at h
  · exact (within_end (Nat.zero_le _) h).mono List.nil_suffix
  · cases h
  have hr' := (skipBlank_suffix r).trans hr
  rcases bind_eq_error.1 h with h | ⟨⟨op, r₁⟩, ho, h⟩
  · exact operator_reports.of_suffix h hr'
  have hr₁ := (skipBlank_suffix r₁).trans ((operator_takes _ _ _ ho).suffix.trans hr')
  rcases bind_eq_error.1 h with h | ⟨⟨value, r₂⟩, hv, h⟩
  · exact (operand_reports engine op).of_suffix h hr₁
  rcases bind_eq_error.1 h with h | ⟨r₃, _, h⟩
  · exact closeBracket_reports.of_suffix h ((operand_keeps _ _ _ _ _ hv).trans hr₁)
  · cases h

/-! ### Pseudo-classes -/

lemma parenthesized_reports {rule : Rule α} (h : Reports rule) (hk : Keeps rule) :
    Reports (parenthesized rule) := by
  intro text f hf
  rw [parenthesized.eq_def] at hf
  split at hf
  · next u =>
    have hs := (skipBlank_suffix u).trans (List.suffix_cons '(' u)
    rcases bind_eq_error.1 hf with hf | ⟨⟨value, r⟩, hv, hf⟩
    · exact h.of_suffix hf hs
    · dsimp only at hf
      split at hf
      · cases hf
      · exact (within_unexpected hf).mono ((skipBlank_suffix r).trans ((hk _ _ _ hv).trans hs))
  · exact within_unexpected hf

section

variable (engine : Engine) {nested : Rule Selector} (hn : Keeps nested) (h : Reports nested)
include hn h

lemma argument_reports (p : PseudoClass) : Reports (p.argument engine nested) := by
  cases p with
  | wrapper w => exact (parenthesized_reports h hn).map _
  | contains own =>
      exact (parenthesized_reports stringOrIdentifier_reports stringOrIdentifier_takes.keeps).map _
  | textMatches own =>
      have hpattern := patternOperand_reports engine
      exact (parenthesized_reports hpattern (patternOperand_keeps engine)).map _
  | nthChild last ofType =>
      exact (parenthesized_reports formula_reports formula_takes.keeps).map _
  | plain test => exact fun _ _ => nofun

lemma pseudoClass_reports : Reports (pseudoClass engine nested) := by
  intro text f hf
  rcases bind_eq_error.1 hf with hf | ⟨⟨name, r⟩, hi, hf⟩
  · exact identifier_reports _ _ hf
  · dsimp only at hf
    split at hf
    · exact (argument_reports engine hn h _).of_suffix hf (identifier_takes _ _ _ hi).suffix
    · exact within_failAt (by simp) hf

/-! ### Compounds, complexes and lists -/

lemma qualifier_reports : Reports (qualifier engine nested) := by
  intro text f hf
  rw [qualifier.eq_def] at hf
  split at hf
  · exact name_reports.of_suffix (map_eq_error.1 hf) (List.suffix_cons _ _)
  · exact name_reports.of_suffix (map_eq_error.1 hf) (List.suffix_cons _ _)
  · exact (attributeSelector_reports engine).found.of_suffix hf (List.suffix_cons _ _)
  · exact (pseudoClass_reports engine hn h).found.of_suffix hf (List.suffix_cons _ _)
  · cases hf

omit hn h in
lemma compoundHead_reports : Reports compoundHead := by
  intro text f hf
  rw [compoundHead.eq_def] at hf
  split at hf
  · exact within_end (Nat.zero_le _) hf
  · split at hf
    · cases hf
    · split at hf
      · cases hf
      · exact identifier_reports _ _ (map_eq_error.1 hf)

lemma compoundWith_reports : Reports (compoundWith engine nested) := by
  intro text f hf
  have hqualifiers := many_reports (qualifier_shrinks engine hn) (qualifier_reports engine hn h)
  rcases bind_eq_error.1 hf with hf | ⟨⟨head, r⟩, hh, hf⟩
  · exact compoundHead_reports _ _ hf
  · rcases bind_eq_error.1 hf with hf | ⟨⟨qualifiers, r'⟩, _, hf⟩
    · exact hqualifiers.of_suffix hf (compoundHead_keeps _ _ _ hh)
    · cases hf

lemma link_reports : Reports (link engine nested) := by
  intro text f hf
  rw [link.eq_def] at hf
  split at hf
  · cases hf
  · next hc =>
    exact (compoundWith_reports engine hn h).of_suffix (map_eq_error.1 hf) (combinator?_suffix hc)

lemma complexWith_reports : Reports (complexWith engine nested) := by
  intro text f hf
  have hs := skipBlank_suffix text
  have hlinks := many_reports (link_shrinks engine hn) (link_reports engine hn h)
  rcases bind_eq_error.1 hf with hf | ⟨⟨first, r⟩, hc, hf⟩
  · exact (compoundWith_reports engine hn h).of_suffix hf hs
  · rcases bind_eq_error.1 hf with hf | ⟨⟨links, r'⟩, _, hf⟩
    · exact hlinks.of_suffix hf ((compoundWith_takes engine hn _ _ _ hc).suffix.trans hs)
    · cases hf

lemma alternative_reports : Reports (alternative engine nested) := by
  intro text f hf
  rw [alternative.eq_def] at hf
  split at hf
  · exact (complexWith_reports engine hn h).found.of_suffix hf (List.suffix_cons _ _)
  · cases hf

lemma listWith_reports : Reports (listWith engine nested) := by
  intro text f hf
  have hothers := many_reports (alternative_shrinks engine hn) (alternative_reports engine hn h)
  rcases bind_eq_error.1 hf with hf | ⟨⟨first, r⟩, hc, hf⟩
  · exact complexWith_reports engine hn h _ _ hf
  · rcases bind_eq_error.1 hf with hf | ⟨⟨others, r'⟩, _, hf⟩
    · exact hothers.of_suffix hf (complexWith_takes engine hn _ _ _ hc).suffix
    · cases hf

end

/-- A list reports its mistakes in its text. The lists inside it stand behind its start, so this is
an induction on the length of the text. -/
lemma selectorList_reports (engine : Engine) : Reports (selectorList engine) := by
  intro text
  induction hn : text.length using Nat.strongRecOn generalizing text with
  | ind n ih =>
      intro f h
      rw [selectorList] at h
      refine listWith_reports engine (fun inner a r hi => ?_) (fun inner f hi => ?_) text f h
      · split at hi
        · exact (selectorList_takes engine).keeps _ _ _ hi
        · exact absurd hi failAt_ne_ok
      · split at hi
        · next hlt => exact ih inner.length (hn ▸ hlt) inner rfl f hi
        · exact within_failAt (by simp) hi

lemma compound_reports (engine : Engine) : Reports (compound engine) :=
  compoundWith_reports engine (selectorList_takes engine).keeps (selectorList_reports engine)

lemma complex_reports (engine : Engine) : Reports (complex engine) :=
  complexWith_reports engine (selectorList_takes engine).keeps (selectorList_reports engine)

/-! ### Places in a query -/

/-- The place in a query behind its first `p` characters. -/
def place (query : String) (p : ℕ) : Cursor :=
  ⟨p, query.toList.drop p⟩

/-- From any place in a query the rule goes on to a later place in it, or it reports a mistake that
is not before the place and not behind the end. That the query ends too early is reported at its end
or one character before that. -/
def StaysInside (rule : Rule α) : Prop :=
  ∀ (query : String) (p : ℕ), p ≤ query.length →
    (∃ a p', (place query p).read rule = .ok (a, place query p') ∧ p < p' ∧ p' ≤ query.length) ∨
    (∃ e, (place query p).read rule = .error e ∧ p ≤ e.position ∧ e.position ≤ query.length ∧
      (e.kind = .unexpectedEnd → e.position = query.length ∨ e.position + 1 = query.length))

section

variable {query : String} {p : ℕ}

/-- What stands in front of the rest of a query takes as many places as it has characters. -/
lemma drop_eq_of_append {taken : List Char} (hp : p ≤ query.length)
    (h : query.toList.drop p = taken ++ rest) :
    p + taken.length ≤ query.length ∧ query.toList.drop (p + taken.length) = rest := by
  have hlength := congrArg List.length h
  rw [List.length_drop, String.length_toList, List.length_append] at hlength
  refine ⟨by omega, ?_⟩
  rw [← List.drop_drop, h, List.drop_left]

lemma read_of_ok {rule : Rule α} {a : α} (hrule : rule (query.toList.drop p) = .ok (a, rest))
    {p' : ℕ} (hp' : p' ≤ query.length) (hpp' : p ≤ p') (hrest : query.toList.drop p' = rest) :
    (place query p).read rule = .ok (a, place query p') := by
  have hleft := congrArg List.length hrest
  rw [List.length_drop, String.length_toList] at hleft
  have hplace : p + (query.length - p) - rest.length = p' := by omega
  rw [Cursor.read, place, place, hrest]
  dsimp only
  rw [hrule]
  dsimp only [Cursor.length]
  rw [List.length_drop, String.length_toList, hplace]

lemma read_of_error {rule : Rule α} (hp : p ≤ query.length)
    (hrule : rule (query.toList.drop p) = .error f) :
    (place query p).read rule = .error (f.within query.length) := by
  rw [Cursor.read, place]
  dsimp only
  rw [hrule]
  dsimp only [Cursor.length]
  rw [List.length_drop, String.length_toList, Nat.add_sub_cancel' hp]

end

lemma stays_inside {rule : Rule α} (ht : Takes rule) (hr : Reports rule) : StaysInside rule := by
  intro query p hp
  cases hrule : rule (query.toList.drop p) with
  | ok found =>
      obtain ⟨a, rest⟩ := found
      obtain ⟨taken, hne, htext⟩ := ht _ _ _ hrule
      have hpos := List.length_pos_iff.2 hne
      obtain ⟨hle, hrest⟩ := drop_eq_of_append hp htext
      exact .inl ⟨a, p + taken.length, read_of_ok hrule hle (by omega) hrest, by omega, hle⟩
  | error f =>
      obtain ⟨hleft, hend⟩ := hr _ _ hrule
      rw [List.length_drop, String.length_toList] at hleft
      refine .inr ⟨f.within query.length, read_of_error hp hrule, ?_, ?_, fun hk => ?_⟩
      · show p ≤ query.length - f.left
        omega
      · exact Nat.sub_le _ _
      · have hone := hend hk
        show query.length - f.left = query.length ∨ query.length - f.left + 1 = query.length
        omega

/-! ### What is cut out of a query -/

/-- The text is what stands in the query between the place `p` and a place that is not before it. -/
def IsSlice (query : String) (p : ℕ) (cut : List Char) : Prop :=
  ∃ p', p ≤ p' ∧ p' ≤ query.length ∧ cut = (query.toList.take p').drop p

lemma isSlice_of_isPrefix {query : String} {p : ℕ} {cut : List Char} (hp : p ≤ query.length)
    (h : cut <+: query.toList.drop p) : IsSlice query p cut := by
  obtain ⟨rest, h⟩ := h
  have hlength : cut.length + rest.length = query.length - p := by
    rw [← List.length_append, h, List.length_drop, String.length_toList]
  refine ⟨p + cut.length, by omega, by omega, ?_⟩
  rw [List.drop_take, ← h, Nat.add_sub_cancel_left, List.take_left]

lemma escapeDigits_isPrefix (text : List Char) : escapeDigits text <+: text :=
  (List.takeWhile_prefix isHexDigit).trans (List.take_prefix 6 text)

/-- The text of a query from the place `p` to the place `p'`. -/
def slice (query : String) (p p' : ℕ) : List Char :=
  (query.toList.take p').drop p

section

variable {engine : Engine} {query : String} {p : ℕ} {c : Char} {r : List Char}

lemma slice_of_append {cut : List Char} (h : query.toList.drop p = cut ++ rest) :
    slice query p (p + cut.length) = cut := by
  rw [slice, List.drop_take, h, Nat.add_sub_cancel_left, List.take_left]

/-- A number cuts out the digits from its place on, and ends behind them. -/
lemma read_formulaNumber (hp : p ≤ query.length) :
    ∃ p', p ≤ p' ∧ p' ≤ query.length ∧
      slice query p p' = (query.toList.drop p).takeWhile Char.isDigit ∧
      (place query p).read formulaNumber =
        if (slice query p p').isEmpty || maxFormulaNumber < decimalNumber (slice query p p') then
          .error ⟨.expectedNumber, p, none⟩
        else .ok (decimalNumber (slice query p p'), place query p') := by
  have htext := (List.takeWhile_append_dropWhile
    (p := Char.isDigit) (l := query.toList.drop p)).symm
  obtain ⟨hle, hrest⟩ := drop_eq_of_append hp htext
  have hcut := slice_of_append htext
  refine ⟨_, Nat.le_add_right _ _, hle, hcut, ?_⟩
  rw [hcut]
  split
  · next hwrong =>
    have hrule : formulaNumber (query.toList.drop p) =
        failAt .expectedNumber (query.toList.drop p) := by
      rw [formulaNumber, if_pos hwrong]
    rw [read_of_error hp hrule, Failure.within, List.length_drop, String.length_toList,
      Nat.sub_sub_self hp]
  · next hnumber =>
    have hrule : formulaNumber (query.toList.drop p) = .ok (decimalNumber
        ((query.toList.drop p).takeWhile Char.isDigit),
        (query.toList.drop p).dropWhile Char.isDigit) := by
      rw [formulaNumber, if_neg hnumber]
    exact read_of_ok hrule hle (Nat.le_add_right _ _) hrest

lemma isNewline_eq_false_of_isHexDigit (hc : isHexDigit c = true) : isNewline c = false := by
  by_contra h
  simp only [isNewline, Bool.not_eq_false, Bool.or_eq_true, beq_iff_eq] at h
  rcases h with (rfl | rfl) | rfl <;> exact absurd hc (by decide)

/-- What belongs to an escape behind its digits is a blank, or a line break of two characters. -/
lemma dropTerminator_cases (text : List Char) :
    ∃ blank, blank.length ≤ 2 ∧ text = blank ++ dropTerminator text := by
  rw [dropTerminator.eq_def]
  split
  · exact ⟨['\r', '\n'], by simp, rfl⟩
  · next c r _ =>
    split
    · exact ⟨[c], by simp, rfl⟩
    · exact ⟨[], by simp, rfl⟩
  · exact ⟨[], by simp, rfl⟩

/-- A numeric escape cuts out the digits behind its backslash, six at most, and ends behind them or
behind the blank that belongs to it. -/
lemma read_escape (hp : p ≤ query.length) (h : query.toList.drop p = '\\' :: c :: r)
    (hc : isHexDigit c = true) :
    ∃ p' e, p + 1 < p' ∧ p' ≤ p + 7 ∧ p' ≤ e ∧ e ≤ p' + 2 ∧ e ≤ query.length ∧
      slice query (p + 1) p' = escapeDigits (c :: r) ∧
      (place query p).read escape =
        .ok (charOfNumber (hexNumber (slice query (p + 1) p')), place query e) := by
  obtain ⟨digits, hdigits⟩ : ∃ digits, escapeDigits (c :: r) = digits := ⟨_, rfl⟩
  obtain ⟨left, hleft⟩ := escapeDigits_isPrefix (c :: r)
  obtain ⟨blank, hblank, hterm⟩ := dropTerminator_cases left
  have hone : 1 ≤ digits.length := by
    rw [← hdigits, escapeDigits, List.take_succ_cons, List.takeWhile_cons_of_pos hc,
      List.length_cons]
    exact Nat.le_add_left 1 _
  have hsix : digits.length ≤ 6 := by
    rw [← hdigits]
    exact (List.takeWhile_prefix _).length_le.trans (List.length_take_le 6 _)
  rw [hdigits] at hleft
  -- from the backslash to the digits, to what is behind them, to what is behind the blank
  have htext : query.toList.drop p = ['\\'] ++ c :: r := h
  obtain ⟨hle₁, hdrop₁⟩ := drop_eq_of_append hp htext
  obtain ⟨hle₂, hdrop₂⟩ := drop_eq_of_append hle₁ (hdrop₁.trans hleft.symm)
  obtain ⟨hle₃, hdrop₃⟩ := drop_eq_of_append hle₂ (hdrop₂.trans hterm)
  have hcut := slice_of_append (hdrop₁.trans hleft.symm)
  have hrule : escape (query.toList.drop p) =
      .ok (charOfNumber (hexNumber digits), dropTerminator left) := by
    rw [h, escape, if_neg (by simp [isNewline_eq_false_of_isHexDigit hc]), if_pos hc]
    dsimp only
    rw [hdigits, ← hleft, List.drop_left]
  simp only [List.length_singleton] at hle₁ hle₂ hle₃ hdrop₃ hcut
  refine ⟨p + 1 + digits.length, p + 1 + digits.length + blank.length, by omega, by omega,
    by omega, by omega, hle₃, hcut.trans hdigits.symm, ?_⟩
  rw [hcut]
  exact read_of_ok hrule hle₃ (by omega) hdrop₃

/-- A pattern is not found, or what the engine says of a source that a character stands behind
decides. -/
lemma patternOperand_cases (engine : Engine) (text : List Char) :
    (∃ f, patternOperand engine text = .error f ∧ f.cause = none) ∨
    ∃ source d rest, text = source ++ d :: rest ∧ patternOperand engine text =
      match engine.compile (.ofList source) with
      | .ok pattern => .ok (pattern, d :: rest)
      | .error refusal => .error ⟨.unexpectedToken, text.length, some refusal⟩ := by
  rw [patternOperand]
  split
  · exact .inl ⟨_, rfl, rfl⟩
  · split
    · exact .inl ⟨_, rfl, rfl⟩
    · next source rest hspan =>
      obtain ⟨htext, d, r, rfl, _⟩ := append_of_balancedSpan hspan
      exact .inr ⟨source, d, r, htext, rfl⟩

/-- A pattern cuts out its source, up to a bracket in the query. It ends before the bracket if
the engine accepts the source, and if the engine is the cause of a mistake, it has refused the
source. -/
lemma read_patternOperand (engine : Engine) (hp : p ≤ query.length) :
    (∀ pattern cursor, (place query p).read (patternOperand engine) = .ok (pattern, cursor) →
      ∃ p', p ≤ p' ∧ p' < query.length ∧ cursor = place query p' ∧
        engine.compile (.ofList (slice query p p')) = .ok pattern) ∧
    (∀ e refusal, (place query p).read (patternOperand engine) = .error e →
      e.cause = some refusal → ∃ p', p ≤ p' ∧ p' < query.length ∧
        engine.compile (.ofList (slice query p p')) = .error refusal) := by
  rcases patternOperand_cases engine (query.toList.drop p) with
    ⟨f, hrule, hcause⟩ | ⟨source, d, rest, htext, hrule⟩
  · rw [read_of_error hp hrule]
    refine ⟨fun pattern cursor h => ?_, fun e refusal h hrefusal => ?_⟩
    · cases h
    · cases h
      rw [Failure.within, hcause] at hrefusal
      cases hrefusal
  · obtain ⟨hle, hrest⟩ := drop_eq_of_append hp htext
    have hlt : p + source.length < query.length := by
      have hlength := congrArg List.length hrest
      rw [List.length_drop, String.length_toList, List.length_cons] at hlength
      omega
    have hcut := slice_of_append htext
    cases hE : engine.compile (.ofList source) with
    | ok pattern =>
        rw [hE] at hrule
        rw [read_of_ok hrule hle (Nat.le_add_right _ _) hrest]
        refine ⟨fun _ _ h => ?_, fun _ _ h => ?_⟩
        · cases h
          exact ⟨_, Nat.le_add_right _ _, hlt, rfl, by rw [hcut, hE]⟩
        · cases h
    | error refusal =>
        rw [hE] at hrule
        rw [read_of_error hp hrule]
        refine ⟨fun _ _ h => ?_, fun _ _ h hrefusal => ?_⟩
        · cases h
        · cases h
          cases hrefusal
          exact ⟨_, Nat.le_add_right _ _, hlt, by rw [hcut, hE]⟩

/-- What is dropped as a comment is cut out of the query up to the first end of a comment. What has
no end is not dropped. -/
lemma skipBlank_place (hp : p ≤ query.length) (h : query.toList.drop p = '/' :: '*' :: r) :
    p + 2 ≤ query.length ∧
      (skipBlank (query.toList.drop p) = query.toList.drop p ∨
        ∃ p' body, p + 4 ≤ p' ∧ p' ≤ query.length ∧ ¬ ['*', '/'] <:+: body ∧
          slice query p p' = '/' :: '*' :: (body ++ ['*', '/']) ∧
          skipBlank (query.toList.drop p) = skipBlank (query.toList.drop p')) := by
  have hopening : query.toList.drop p = ['/', '*'] ++ r := h
  refine ⟨(drop_eq_of_append hp hopening).1, ?_⟩
  rw [h, skipBlank_comment]
  rcases skipComment_cases ('/' :: '*' :: r) r with ⟨body, rest, rfl, hbody, hskip⟩ | ⟨_, hskip⟩
  · have htext : query.toList.drop p = '/' :: '*' :: (body ++ ['*', '/']) ++ rest := by simp [h]
    obtain ⟨hend, hrest⟩ := drop_eq_of_append hp htext
    refine .inr ⟨_, body, ?_, hend, hbody, slice_of_append htext, by rw [hskip, hrest]⟩
    simp only [List.length_cons, List.length_append, List.length_nil]
    omega
  · exact .inl hskip

end

/-- What the rules cut out of a query from a place on, with the ends of it in the query: the digits
of a number, those of an escape, the source of a pattern, and a comment. -/
structure Cuts (engine : Engine) (query : String) (p : ℕ) : Prop where
  number : ∃ p', p ≤ p' ∧ p' ≤ query.length ∧
    slice query p p' = (query.toList.drop p).takeWhile Char.isDigit ∧
    (place query p).read formulaNumber =
      if (slice query p p').isEmpty || maxFormulaNumber < decimalNumber (slice query p p') then
        .error ⟨.expectedNumber, p, none⟩
      else .ok (decimalNumber (slice query p p'), place query p')
  escape : ∀ c r, query.toList.drop p = '\\' :: c :: r → isHexDigit c = true →
    ∃ p' e, p + 1 < p' ∧ p' ≤ p + 7 ∧ p' ≤ e ∧ e ≤ p' + 2 ∧ e ≤ query.length ∧
      slice query (p + 1) p' = escapeDigits (c :: r) ∧
      (place query p).read escape =
        .ok (charOfNumber (hexNumber (slice query (p + 1) p')), place query e)
  source : ∀ pattern cursor,
    (place query p).read (patternOperand engine) = .ok (pattern, cursor) →
      ∃ p', p ≤ p' ∧ p' < query.length ∧ cursor = place query p' ∧
        engine.compile (.ofList (slice query p p')) = .ok pattern
  refused : ∀ e refusal, (place query p).read (patternOperand engine) = .error e →
    e.cause = some refusal → ∃ p', p ≤ p' ∧ p' < query.length ∧
      engine.compile (.ofList (slice query p p')) = .error refusal
  comment : ∀ r, query.toList.drop p = '/' :: '*' :: r → p + 2 ≤ query.length ∧
    (skipBlank (query.toList.drop p) = query.toList.drop p ∨
      ∃ p' body, p + 4 ≤ p' ∧ p' ≤ query.length ∧ ¬ ['*', '/'] <:+: body ∧
        slice query p p' = '/' :: '*' :: (body ++ ['*', '/']) ∧
        skipBlank (query.toList.drop p) = skipBlank (query.toList.drop p'))

lemma cuts (engine : Engine) {query : String} {p : ℕ} (hp : p ≤ query.length) :
    Cuts engine query p :=
  ⟨read_formulaNumber hp, fun _ _ => read_escape hp, (read_patternOperand engine hp).1,
    (read_patternOperand engine hp).2, fun _ => skipBlank_place hp⟩

/-- A list inside another begins behind the start of the outer one, and every round of every loop
takes a character, so no guard ends a recursion before its time. -/
structure Proceeds (engine : Engine) : Prop where
  nameChar : Shrinks nameChar
  stringPart : ∀ quote, Shrinks (stringPart quote)
  qualifier : Shrinks (qualifier engine (selectorList engine))
  link : Shrinks (link engine (selectorList engine))
  alternative : Shrinks (alternative engine (selectorList engine))
  selectorList : ∀ text, selectorList engine text = listWith engine (selectorList engine) text

lemma proceeds (engine : Engine) : Proceeds engine :=
  have hn := (selectorList_takes engine).keeps
  ⟨nameChar_shrinks, stringPart_shrinks, qualifier_shrinks engine hn, link_shrinks engine hn,
    alternative_shrinks engine hn, selectorList_eq engine⟩

/-- **Every rule stays inside its query.** The recursions come to an end because they take
something; what the rules cut out of a query, the digits of numbers and escapes and the sources of
patterns, lies between two places in it, and so does a comment that is looked for its end, and each
such rule ends behind what it cuts out; and from any place each rule goes on to a later place in the
query or reports a mistake between the place and the end. -/
theorem rules_stayInside (engine : Engine) :
    (StaysInside identifier ∧ StaysInside name ∧ StaysInside quotedString ∧ StaysInside escape ∧
      StaysInside formula ∧ StaysInside (compound engine) ∧ StaysInside (complex engine) ∧
      StaysInside (selectorList engine)) ∧
    Proceeds engine ∧
    (∀ (query : String) (p : ℕ), p ≤ query.length →
      IsSlice query p ((query.toList.drop p).takeWhile Char.isDigit) ∧
      IsSlice query p (escapeDigits (query.toList.drop p)) ∧
      (∀ source rest, balancedSpan 0 (query.toList.drop p) = some (source, rest) →
        IsSlice query p source) ∧
      (∀ r, query.toList.drop p = '/' :: '*' :: r → p + 2 ≤ query.length)) ∧
    (∀ (query : String) (p : ℕ), p ≤ query.length → Cuts engine query p) := by
  refine ⟨⟨stays_inside identifier_takes identifier_reports,
      stays_inside name_takes name_reports,
      stays_inside quotedString_takes quotedString_reports,
      stays_inside escape_takes escape_reports,
      stays_inside formula_takes formula_reports,
      stays_inside (compound_takes engine) (compound_reports engine),
      stays_inside (complex_takes engine) (complex_reports engine),
      stays_inside (selectorList_takes engine) (selectorList_reports engine)⟩,
    proceeds engine, fun query p hp => ⟨?_, ?_, fun source rest h => ?_, fun r h => ?_⟩,
    fun query p hp => cuts engine hp⟩
  · exact isSlice_of_isPrefix hp (List.takeWhile_prefix _)
  · exact isSlice_of_isPrefix hp (escapeDigits_isPrefix _)
  · exact isSlice_of_isPrefix hp ⟨rest, (append_of_balancedSpan h).1.symm⟩
  · exact (skipBlank_place hp h).1

/-- An operator without its equals sign is reported one character before the end of the query. -/
theorem stayInside_before_end :
    (place "[a~" 0).read (compound .literal) = .error ⟨.unexpectedEnd, 2, none⟩ ∧
    (∃ e, (place "[a~" 0).read (compound .literal) = .error e ∧ 0 ≤ e.position ∧
      e.position ≤ 3 ∧ (e.kind = .unexpectedEnd → e.position = 3 ∨ e.position + 1 = 3)) := by
  have herror : (place "[a~" 0).read (compound .literal) = .error ⟨.unexpectedEnd, 2, none⟩ := by
    cbv
  refine ⟨herror, ?_⟩
  rcases (rules_stayInside .literal).1.2.2.2.2.2.1 "[a~" 0 (by decide) with ⟨_, _, hok, _⟩ | h
  · rw [herror] at hok
    cases hok
  · exact h

end MarkupQuery.Query
