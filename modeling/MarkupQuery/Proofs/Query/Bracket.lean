import MarkupQuery.Proofs.Query.Blank
import MarkupQuery.Proofs.Query.Word
import MarkupQuery.Proofs.Selector.Patterns

/-!
What stands between brackets, with a tail behind it.

A bracket ends what stands before it, so here a tail changes nothing. The one danger is a comment
that the tail closes. Most rules read nothing that begins with a slash (`Solid`); only patterns do,
and in front of one that begins as a comment does the tail must close nothing (`Spares`).

* `formula_append`: a formula before a closing parenthesis;
* `patternOperand_append`: a pattern, which goes up to its bracket;
* `attributeSelector_append`: an attribute selector;
* `parenthesized_append`: the argument of a pseudo-class, given the rule for its inside.
-/

namespace MarkupQuery.Query

variable {α : Type} {text rest tail : List Char}

/-! ### Slashes -/

/-- A rule that reads nothing that begins with a slash, and nothing where there is nothing. -/
def Solid (rule : Rule α) : Prop :=
  ∀ text a rest, rule text = .ok (a, rest) → ∃ c r, text = c :: r ∧ c ≠ '/'

lemma Solid.skipBlank_append {rule : Rule α} (h : Solid rule) {a : α}
    (hr : rule (skipBlank text) = .ok (a, rest)) (tail : List Char) :
    skipBlank (text ++ tail) = skipBlank text ++ tail := by
  obtain ⟨c, r, hc, hs⟩ := h _ _ _ hr
  rw [hc]
  exact skipBlank_append_eq hc hs tail

lemma ne_nil_of_skipBlank {c : Char} {r : List Char} (h : skipBlank text = c :: r) : text ≠ [] := by
  rintro rfl
  cases h

lemma skipBlank_append_close {r : List Char} (h : skipBlank text = ')' :: r) (tail : List Char) :
    skipBlank (text ++ tail) = ')' :: (r ++ tail) :=
  skipBlank_append_eq h (by simp) tail

/-- Whether an identifier may begin with the character. -/
def beginsIdentifier (c : Char) : Bool :=
  c == '-' || isNameStart c || c == '\\'

lemma identifier_first {s : String} (h : identifier text = .ok (s, rest)) :
    ∃ c r, text = c :: r ∧ beginsIdentifier c = true := by
  match text with
  | [] => exact absurd h failAt_ne_ok
  | c :: r =>
      refine ⟨c, r, rfl, ?_⟩
      by_cases hy : c = '-'
      · subst hy
        rfl
      · rw [identifier_word fun r' heq => hy (List.cons.inj heq).1] at h
        by_cases hw : startsWord (c :: r) = true
        · rw [startsWord, Bool.or_eq_true] at hw
          rw [beginsIdentifier, Bool.or_assoc, Bool.or_eq_true, Bool.or_eq_true]
          exact .inr hw
        · rw [if_neg hw] at h
          exact absurd h failAt_ne_ok

lemma identifier_solid : Solid identifier := by
  intro text s rest h
  obtain ⟨c, r, rfl, hc⟩ := identifier_first h
  refine ⟨c, r, rfl, ?_⟩
  rintro rfl
  exact absurd hc (by decide)

lemma stringOrIdentifier_solid : Solid stringOrIdentifier := by
  intro text s rest h
  match text with
  | [] => exact absurd h failAt_ne_ok
  | c :: r =>
      rw [stringOrIdentifier] at h
      by_cases hq : isQuote c = true
      · refine ⟨c, r, rfl, ?_⟩
        rintro rfl
        exact absurd hq (by decide)
      · rw [if_neg hq] at h
        exact identifier_solid _ _ _ h

/-! ### Formulas -/

lemma takeWhile_append_of_dropWhile {p : Char → Bool} (tail : List Char)
    (h : text.dropWhile p ≠ []) :
    (text ++ tail).takeWhile p = text.takeWhile p ∧
      (text ++ tail).dropWhile p = text.dropWhile p ++ tail := by
  induction text with
  | nil => exact absurd rfl h
  | cons c r ih =>
      rw [List.cons_append, List.takeWhile_cons, List.takeWhile_cons, List.dropWhile_cons,
        List.dropWhile_cons]
      by_cases hc : p c = true
      · rw [List.dropWhile_cons, if_pos hc] at h
        rw [if_pos hc, if_pos hc, if_pos hc, if_pos hc, (ih h).1, (ih h).2]
        exact ⟨rfl, rfl⟩
      · rw [if_neg hc, if_neg hc, if_neg hc, if_neg hc]
        exact ⟨rfl, rfl⟩

lemma formulaNumber_append {n : ℕ} (h : formulaNumber text = .ok (n, rest)) (hr : rest ≠ []) :
    formulaNumber (text ++ tail) = .ok (n, rest ++ tail) := by
  rw [formulaNumber] at h ⊢
  split at h
  · exact absurd h failAt_ne_ok
  · next hd =>
    cases h
    obtain ⟨ht, hw⟩ := takeWhile_append_of_dropWhile tail hr
    rw [ht, hw, if_neg hd]

lemma formulaNumber_solid : Solid formulaNumber := by
  intro text n rest h
  obtain ⟨taken, hne, htext⟩ := formulaNumber_takes _ _ _ h
  match text with
  | [] =>
      rw [List.nil_eq, List.append_eq_nil_iff] at htext
      exact absurd htext.1 hne
  | c :: r =>
      refine ⟨c, r, rfl, ?_⟩
      rintro rfl
      exact absurd h failAt_ne_ok

lemma blankNumber_append {n : ℕ} (h : formulaNumber (skipBlank text) = .ok (n, rest))
    (hr : rest ≠ []) : formulaNumber (skipBlank (text ++ tail)) = .ok (n, rest ++ tail) := by
  rw [formulaNumber_solid.skipBlank_append h, formulaNumber_append h hr]

/-- The offset of a formula before a closing parenthesis. -/
lemma formulaOffset_append {n : Int64} {r : List Char} (h : formulaOffset text = .ok (n, rest))
    (hr : skipBlank rest = ')' :: r) : formulaOffset (text ++ tail) = .ok (n, rest ++ tail) := by
  have hne := ne_nil_of_skipBlank hr
  rw [formulaOffset.eq_def] at h
  dsimp only at h
  split at h
  · exact absurd h failAt_ne_ok
  · next u heq =>
    obtain ⟨⟨m, v⟩, hm, hp⟩ := map_eq_ok.1 h
    cases hp
    rw [formulaOffset, skipBlank_append_eq heq (by simp) tail]
    exact map_eq_ok.2 ⟨_, blankNumber_append hm hne, rfl⟩
  · next u heq =>
    obtain ⟨⟨m, v⟩, hm, hp⟩ := map_eq_ok.1 h
    cases hp
    rw [formulaOffset, skipBlank_append_eq heq (by simp) tail]
    exact map_eq_ok.2 ⟨_, blankNumber_append hm hne, rfl⟩
  · cases h
    rw [skipBlank_skipBlank] at hr
    rw [formulaOffset, skipBlank_append_close hr tail, hr]
    rfl

lemma formulaOfStep_append {step : Int64} {f : Formula} {r : List Char}
    (h : formulaOfStep step text = .ok (f, rest)) (hr : skipBlank rest = ')' :: r) :
    formulaOfStep step (text ++ tail) = .ok (f, rest ++ tail) := by
  obtain ⟨⟨n, u⟩, hn, hp⟩ := map_eq_ok.1 h
  cases hp
  rw [formulaOfStep, formulaOffset_append hn hr]
  rfl

lemma unsignedFormula_append {negative : Bool} {f : Formula} {r : List Char}
    (h : unsignedFormula negative text = .ok (f, rest)) (hr : skipBlank rest = ')' :: r) :
    unsignedFormula negative (text ++ tail) = .ok (f, rest ++ tail) := by
  cases text with
  | nil => exact absurd h failAt_ne_ok
  | cons c u =>
      rw [unsignedFormula] at h
      rw [List.cons_append, unsignedFormula]
      by_cases hd : c.isDigit = true
      · rw [if_pos hd] at h ⊢
        obtain ⟨⟨n, v⟩, hn, h⟩ := bind_eq_ok.1 h
        cases v with
        | nil => exact absurd h failAt_ne_ok
        | cons d v =>
            rw [← List.cons_append, formulaNumber_append hn (List.cons_ne_nil _ _)]
            refine bind_eq_ok.2 ⟨_, rfl, ?_⟩
            dsimp only [List.cons_append] at h ⊢
            by_cases hm : isStepMark d = true
            · rw [if_pos hm] at h ⊢
              exact formulaOfStep_append h hr
            · rw [if_neg hm] at h ⊢
              cases h
              rfl
      · rw [if_neg hd] at h ⊢
        by_cases hm : isStepMark c = true
        · rw [if_pos hm] at h ⊢
          exact formulaOfStep_append h hr
        · rw [if_neg hm] at h
          exact absurd h failAt_ne_ok

lemma formulaWord_append {f : Formula} (h : formulaWord text = .ok (f, rest)) (hr : rest ≠ []) :
    formulaWord (text ++ tail) = .ok (f, rest ++ tail) := by
  obtain ⟨⟨word, r⟩, hn, h⟩ := bind_eq_ok.1 h
  dsimp only at h
  split at h
  · next f' hf =>
    cases h
    have hname := eq_of_extends tail hr (name_extends hn)
    refine bind_eq_ok.2 ⟨_, hname, ?_⟩
    dsimp only
    rw [hf]
  · exact absurd h failAt_ne_ok

/-- A formula before a closing parenthesis does not look behind it. -/
theorem formula_append {f : Formula} {r : List Char} (h : formula text = .ok (f, rest))
    (hr : skipBlank rest = ')' :: r) : formula (text ++ tail) = .ok (f, rest ++ tail) := by
  rw [formula.eq_def] at h
  split at h
  · exact absurd h failAt_ne_ok
  · exact unsignedFormula_append h hr
  · exact unsignedFormula_append h hr
  · next c u hminus hplus =>
    rw [List.cons_append, formula]
    · by_cases hd : (c.isDigit || isStepMark c) = true
      · rw [if_pos hd] at h ⊢
        exact unsignedFormula_append h hr
      · rw [if_neg hd] at h ⊢
        by_cases hw : "oOeE".toList.contains c = true
        · rw [if_pos hw] at h ⊢
          exact formulaWord_append h (ne_nil_of_skipBlank hr)
        · rw [if_neg hw] at h
          exact absurd h failAt_ne_ok
    · exact hminus
    · exact hplus

lemma formula_solid : Solid formula := by
  intro text f rest h
  match text with
  | [] => exact absurd h failAt_ne_ok
  | c :: r =>
      refine ⟨c, r, rfl, ?_⟩
      rintro rfl
      exact absurd h failAt_ne_ok

/-! ### Patterns -/

/-- Brackets are counted up to the one that ends the span, whatever stands behind that. -/
lemma balancedSpan_of_bracket {depth : Int32} {span r : List Char} {c : Char}
    (h : balancedSpan depth (span ++ c :: r) = some (span, c :: r)) (r' : List Char) :
    balancedSpan depth (span ++ c :: r') = some (span, c :: r') := by
  induction span generalizing depth with
  | nil =>
      rcases balancedSpan_cons depth c with ⟨_, heq⟩ | ⟨d, heq⟩
      · exact heq r'
      · rw [List.nil_append, heq] at h
        obtain ⟨_, _, hspan⟩ := Option.map_eq_some_iff.1 h
        cases (Prod.mk.inj hspan).1
  | cons b span ih =>
      rcases balancedSpan_cons depth b with ⟨_, heq⟩ | ⟨d, heq⟩
      · rw [List.cons_append, heq] at h
        cases h
      · rw [List.cons_append, heq] at h
        obtain ⟨⟨_, _⟩, h', hspan⟩ := Option.map_eq_some_iff.1 h
        cases hspan
        rw [List.cons_append, heq, ih h', Option.map_some]

lemma balancedSpan_append {depth : Int32} {span : List Char}
    (h : balancedSpan depth text = some (span, rest)) :
    balancedSpan depth (text ++ tail) = some (span, rest ++ tail) := by
  obtain ⟨rfl, c, r, rfl, _⟩ := append_of_balancedSpan h
  rw [List.append_assoc]
  exact balancedSpan_of_bracket h (r ++ tail)

/-- What is read of a pattern: its source, up to a bracket, and what the engine makes of it. -/
lemma patternOperand_eq_ok {engine : Engine} {p : Pattern} :
    patternOperand engine text = .ok (p, rest) ↔
      2 ≤ text.length ∧ ∃ source, balancedSpan 0 text = some (source, rest) ∧
        engine.compile (String.ofList source) = .ok p := by
  rw [patternOperand]
  by_cases hl : text.length < 2
  · rw [if_pos hl]
    exact iff_of_false failAt_ne_ok fun h => absurd h.1 (by omega)
  · rw [if_neg hl]
    cases hb : balancedSpan 0 text with
    | none => exact iff_of_false failAt_ne_ok (by simp)
    | some span =>
        obtain ⟨source, r⟩ := span
        dsimp only
        cases hp : engine.compile (String.ofList source) with
        | error e =>
            refine iff_of_false nofun ?_
            rintro ⟨_, _, ⟨⟩, hp'⟩
            rw [hp] at hp'
            cases hp'
        | ok p' =>
            constructor
            · rintro ⟨⟩
              exact ⟨by omega, source, rfl, hp⟩
            · rintro ⟨_, _, ⟨⟩, hp'⟩
              rw [hp] at hp'
              cases hp'
              rfl

/-- A pattern goes up to its bracket, whatever stands behind that. -/
theorem patternOperand_append {engine : Engine} {p : Pattern}
    (h : patternOperand engine text = .ok (p, rest)) :
    patternOperand engine (text ++ tail) = .ok (p, rest ++ tail) := by
  obtain ⟨hlen, source, hb, hp⟩ := patternOperand_eq_ok.1 h
  refine patternOperand_eq_ok.2 ⟨?_, source, balancedSpan_append hb, hp⟩
  rw [List.length_append]
  omega

/-- A pattern that begins with a slash and a star has both in its source, since a bracket comes
behind that. -/
lemma source_of_patternOperand {engine : Engine} {p : Pattern} {r : List Char}
    (h : patternOperand engine ('/' :: '*' :: r) = .ok (p, rest)) :
    ∃ source, engine.compile source = .ok p ∧ ['/', '*'] <+: source.toList := by
  obtain ⟨_, source, hb, hp⟩ := patternOperand_eq_ok.1 h
  obtain ⟨htext, c, r', rfl, hc⟩ := append_of_balancedSpan hb
  refine ⟨_, hp, ?_⟩
  rw [String.toList_ofList]
  match source with
  | [] =>
      rw [← (List.cons.inj htext).1] at hc
      exact absurd hc (by decide)
  | [a] =>
      rw [← (List.cons.inj (List.cons.inj htext).2).1] at hc
      exact absurd hc (by decide)
  | a :: b :: source =>
      rw [← (List.cons.inj htext).1, ← (List.cons.inj (List.cons.inj htext).2).1]
      exact List.prefix_append ['/', '*'] source

/-- The engine makes the pattern of no source that begins as a comment does. -/
def OpensNoComment (engine : Engine) (p : Pattern) : Prop :=
  ∀ source, engine.compile source = .ok p → ¬ ['/', '*'] <+: source.toList

/-- The tail does not change how the text of the value is read: it closes no comment, or no pattern
of the value begins with one. -/
def Spares [Patterned α] (engine : Engine) (tail : List Char) (a : α) : Prop :=
  Inert tail ∨ ∀ p ∈ Patterned.patterns a, OpensNoComment engine p

/-- In front of a pattern a tail that spares it leaves the blanks as they are. -/
lemma skipBlank_append_pattern {engine : Engine} {p : Pattern} (hp : Spares engine tail p)
    (h : patternOperand engine (skipBlank text) = .ok (p, rest)) :
    skipBlank (text ++ tail) = skipBlank text ++ tail := by
  obtain ⟨hlen, _⟩ := patternOperand_eq_ok.1 h
  match hfront : skipBlank text with
  | [] => rw [hfront] at hlen; cases hlen
  | [c] => rw [hfront] at hlen; exact absurd hlen (by simp)
  | c :: d :: r =>
      rcases hp with hi | hp
      · exact skipBlank_append_of_inert hi hfront
      · by_cases hc : c = '/'
        · subst hc
          refine skipBlank_append_slash hfront ?_ tail
          rintro rfl
          rw [hfront] at h
          obtain ⟨source, hsource, hprefix⟩ := source_of_patternOperand h
          exact hp p List.mem_cons_self source hsource hprefix
        · exact skipBlank_append_eq hfront hc tail

/-! ### Attributes -/

lemma Spares.imp {β : Type} [Patterned α] [Patterned β] {engine : Engine} {a : α} {b : β}
    (h : Spares engine tail a) (hsub : Patterned.patterns b ⊆ Patterned.patterns a) :
    Spares engine tail b :=
  Or.imp_right (fun hp p hpb => hp p (hsub hpb)) h

lemma spares_of_patternFree {s : Selector} (engine : Engine) (tail : List Char)
    (h : s.patternFree = true) : Spares engine tail s := by
  have hnone : Patterned.patterns s = [] := s.patterns_eq_nil_iff.mpr h
  exact .inr fun p hp => absurd (hnone ▸ hp) List.not_mem_nil

/-- A tail spares a selector that has grown by parts if it spares the parts, and what it grew
from. -/
lemma spares_foldl {β : Type} [Patterned β] {grow : Selector → β → Selector} {engine : Engine}
    (hgrow : ∀ a b, (grow a b).patterns = a.patterns ++ Patterned.patterns b) {first : Selector}
    {parts : List β} (h : Spares engine tail (parts.foldl grow first)) :
    Spares engine tail first ∧ ∀ b ∈ parts, Spares engine tail b := by
  have hpatterns : Patterned.patterns (parts.foldl grow first)
      = Patterned.patterns first ++ Patterned.patterns parts :=
    Selector.patterns_foldl hgrow parts first
  refine ⟨h.imp fun p hp => ?_, fun b hb => h.imp fun p hp => ?_⟩
  · rw [hpatterns]
    exact List.mem_append_left _ hp
  · rw [hpatterns]
    exact List.mem_append_right _ (List.mem_flatMap.mpr ⟨b, hb, hp⟩)

lemma operator_append {op : Operator} (h : operator text = .ok (op, rest)) :
    operator (text ++ tail) = .ok (op, rest ++ tail) := by
  rw [operator.eq_def] at h
  split at h
  · exact absurd h failAt_ne_ok
  · cases h
    rfl
  · next c r hne =>
    split at h
    · next op' r' hop =>
      cases h
      rw [List.cons_append, List.cons_append, operator]
      · exact hne
      · exact hop
    · exact absurd h failAt_ne_ok
    · exact absurd h failAt_ne_ok

lemma operator_solid : Solid operator := by
  intro text op rest h
  match text with
  | [] => exact absurd h failAt_ne_ok
  | c :: r =>
      refine ⟨c, r, rfl, ?_⟩
      rintro rfl
      exact absurd h failAt_ne_ok

lemma operand_append {engine : Engine} {op : Operator} {v : ValueTest}
    (h : operand engine op text = .ok (v, rest)) (hr : rest ≠ []) :
    operand engine op (text ++ tail) = .ok (v, rest ++ tail) := by
  cases op with
  | text op =>
      obtain ⟨⟨s, r⟩, hs, hp⟩ := map_eq_ok.1 h
      cases hp
      have hword := eq_of_extends tail hr (stringOrIdentifier_extends hs)
      exact map_eq_ok.2 ⟨_, hword, rfl⟩
  | pattern =>
      obtain ⟨⟨p, r⟩, hs, hp⟩ := map_eq_ok.1 h
      cases hp
      exact map_eq_ok.2 ⟨_, patternOperand_append hs, rfl⟩

lemma skipBlank_append_operand {engine : Engine} {op : Operator} {v : ValueTest}
    (hv : Spares engine tail v)
    (h : operand engine op (skipBlank text) = .ok (v, rest)) :
    skipBlank (text ++ tail) = skipBlank text ++ tail := by
  cases op with
  | text op =>
      obtain ⟨⟨s, r⟩, hs, _⟩ := map_eq_ok.1 h
      exact stringOrIdentifier_solid.skipBlank_append hs tail
  | pattern =>
      obtain ⟨⟨p, r⟩, hs, hp⟩ := map_eq_ok.1 h
      cases hp
      exact skipBlank_append_pattern hv hs

lemma closeBracket_eq_ok : closeBracket text = .ok rest ↔ skipBlank text = ']' :: rest := by
  rw [closeBracket.eq_def]
  constructor
  · intro h
    split at h
    · next hr =>
      cases h
      exact hr
    · exact absurd h unexpected_ne_ok
  · intro h
    rw [h]
    rfl

lemma closeBracket_append (tail : List Char) (h : closeBracket text = .ok rest) :
    closeBracket (text ++ tail) = .ok (rest ++ tail) :=
  closeBracket_eq_ok.2 (skipBlank_append_eq (closeBracket_eq_ok.1 h) (by simp) tail)

/-- What stands behind the operator of an attribute. -/
lemma attributeSelector_of_operator {engine : Engine} {key : String} {op : Operator}
    {r : List Char} (hkey : identifier (skipBlank text) = .ok (key, r))
    (hop : operator (skipBlank r) = .ok (op, rest)) :
    attributeSelector engine text =
      (operand engine op (skipBlank rest) >>= fun p => closeBracket p.2 >>= fun u =>
        .ok (.withAttribute key p.1, u)) := by
  rw [attributeSelector, hkey]
  dsimp only [bind, Except.bind]
  split
  · next heq => exact absurd (heq ▸ hop) failAt_ne_ok
  · next heq => exact absurd (heq ▸ hop) failAt_ne_ok
  · rw [hop]

/-- An attribute selector goes up to its bracket, whatever stands behind that. -/
theorem attributeSelector_append {engine : Engine} {s : Selector}
    (h : attributeSelector engine text = .ok (s, rest)) (hs : Spares engine tail s) :
    attributeSelector engine (text ++ tail) = .ok (s, rest ++ tail) := by
  obtain ⟨⟨key, r⟩, hk, h⟩ := bind_eq_ok.1 h
  dsimp only at h
  have hr : r ≠ [] := by
    rintro rfl
    exact absurd h failAt_ne_ok
  have hkey : identifier (skipBlank (text ++ tail)) = .ok (key, r ++ tail) := by
    rw [identifier_solid.skipBlank_append hk]
    exact eq_of_extends tail hr (identifier_extends hk)
  split at h
  · exact absurd h failAt_ne_ok
  · next r' heq =>
    cases h
    refine bind_eq_ok.2 ⟨_, hkey, ?_⟩
    dsimp only
    rw [skipBlank_append_eq heq (by simp) tail]
    rfl
  · obtain ⟨⟨op, r₁⟩, ho, h⟩ := bind_eq_ok.1 h
    obtain ⟨⟨v, r₂⟩, hv, h⟩ := bind_eq_ok.1 h
    obtain ⟨r₃, hc, h⟩ := bind_eq_ok.1 h
    cases h
    dsimp only at hv hc
    have hr₂ : r₂ ≠ [] := by
      rintro rfl
      exact absurd hc unexpected_ne_ok
    have hop : operator (skipBlank (r ++ tail)) = .ok (op, r₁ ++ tail) := by
      rw [operator_solid.skipBlank_append ho]
      exact operator_append ho
    have hval : operand engine op (skipBlank (r₁ ++ tail)) = .ok (v, r₂ ++ tail) := by
      rw [skipBlank_append_operand hs hv]
      exact operand_append hv hr₂
    rw [attributeSelector_of_operator hkey hop]
    exact bind_eq_ok.2 ⟨_, hval, bind_eq_ok.2 ⟨_, closeBracket_append tail hc, rfl⟩⟩

/-! ### Parentheses -/

/-- What is read between parentheses, and the blanks around it. -/
lemma parenthesized_eq_ok {rule : Rule α} {a : α} :
    parenthesized rule text = .ok (a, rest) ↔
      ∃ u r, text = '(' :: u ∧ rule (skipBlank u) = .ok (a, r) ∧ skipBlank r = ')' :: rest := by
  rw [parenthesized.eq_def]
  constructor
  · intro h
    split at h
    · next u =>
      obtain ⟨⟨b, r⟩, hb, h⟩ := bind_eq_ok.1 h
      dsimp only at h
      split at h
      · next hr =>
        cases h
        exact ⟨u, r, rfl, hb, hr⟩
      · exact absurd h unexpected_ne_ok
    · exact absurd h unexpected_ne_ok
  · rintro ⟨u, r, rfl, hb, hr⟩
    refine bind_eq_ok.2 ⟨_, hb, ?_⟩
    dsimp only
    rw [hr]
    rfl

/-- What stands between parentheses is read up to the closing one, if the rule for it does not mind
the tail before such a parenthesis. -/
theorem parenthesized_append {rule : Rule α} {a : α} (tail : List Char)
    (hblank : ∀ u r, rule (skipBlank u) = .ok (a, r) →
      skipBlank (u ++ tail) = skipBlank u ++ tail)
    (hrule : ∀ u r r', Behind u text → rule u = .ok (a, r) → skipBlank r = ')' :: r' →
      rule (u ++ tail) = .ok (a, r ++ tail))
    (h : parenthesized rule text = .ok (a, rest)) :
    parenthesized rule (text ++ tail) = .ok (a, rest ++ tail) := by
  obtain ⟨u, r, rfl, hb, hr⟩ := parenthesized_eq_ok.1 h
  have hinner := hrule _ _ _ (behind_cons (skipBlank_suffix u) '(') hb hr
  rw [← hblank u r hb] at hinner
  exact parenthesized_eq_ok.2 ⟨u ++ tail, r ++ tail, rfl, hinner, skipBlank_append_close hr tail⟩

end MarkupQuery.Query
