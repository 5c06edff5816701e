import MarkupQuery.Query.Grammar

/-!
Every rule of the grammar takes something.

* `Takes`: whenever the rule succeeds it has taken at least one character. Each rule that reads a
  whole construction does (`name_takes`, `formula_takes`, `compoundWith_takes`, …), down to
  `selectorList_takes`.
* `listWith_congr`: a list asks for the lists inside it at places behind its start alone.
* `selectorList_eq`: so the guard in `selectorList` never stops anything, and the rule for lists is
  the one that is its own argument.
-/

namespace MarkupQuery.Query

variable {α β : Type}

/-- A rule that takes at least one character whenever it succeeds. -/
def Takes (rule : Rule α) : Prop :=
  ∀ text a rest, rule text = .ok (a, rest) → Behind rest text

/-- A rule that leaves an end of the text whenever it succeeds. -/
def Keeps (rule : Rule α) : Prop :=
  ∀ text a rest, rule text = .ok (a, rest) → rest <:+ text

theorem Takes.keeps {rule : Rule α} (h : Takes rule) : Keeps rule :=
  fun text a rest heq => (h text a rest heq).suffix

theorem bind_eq_ok {x : Except Failure α} {f : α → Except Failure β} {b : β} :
    (x >>= f) = .ok b ↔ ∃ a, x = .ok a ∧ f a = .ok b := by
  cases x with
  | error e => exact ⟨nofun, fun ⟨_, h, _⟩ => nomatch h⟩
  | ok a =>
    constructor
    · exact fun h => ⟨a, rfl, h⟩
    · rintro ⟨_, ⟨⟩, h⟩
      exact h

theorem map_eq_ok {x : Except Failure α} {f : α → β} {b : β} :
    x.map f = .ok b ↔ ∃ a, x = .ok a ∧ f a = b := by
  cases x with
  | error e => exact ⟨nofun, fun ⟨_, h, _⟩ => nomatch h⟩
  | ok a =>
    constructor
    · exact fun h => ⟨a, rfl, Except.ok.inj h⟩
    · rintro ⟨_, ⟨⟩, rfl⟩
      rfl

/-- Two continuations of a reading are compared at what was read alone. -/
theorem bind_congr_ok {x : Except Failure α} {f g : α → Except Failure β}
    (h : ∀ a, x = .ok a → f a = g a) : (x >>= f) = (x >>= g) := by
  cases x with
  | error e => rfl
  | ok a => exact h a rfl

@[simp] theorem failAt_ne_ok {kind : ErrorKind} {text : List Char} {a : α} :
    failAt kind text ≠ .ok a := nofun

@[simp] theorem unexpected_ne_ok {text : List Char} {a : α} : unexpected text ≠ .ok a := nofun

/-! ### Repetition -/

/-- What `many` leaves is an end of the text; if it found anything, it took something. -/
theorem many_rest {step : Step α} (h : Shrinks step) {text rest : List Char} {as : List α}
    (hm : many step text = .ok (as, rest)) : rest <:+ text ∧ (as ≠ [] → Behind rest text) := by
  induction hn : text.length using Nat.strongRecOn generalizing text as with
  | ind n ih =>
    rw [many_eq h] at hm
    split at hm
    · cases hm
    · cases hm
      exact ⟨List.suffix_refl _, fun hne => absurd rfl hne⟩
    · rename_i a r hs
      have hb := h _ _ _ hs
      obtain ⟨⟨as', rest'⟩, hm', heq⟩ := map_eq_ok.1 hm
      cases heq
      have hr := (ih r.length (hn ▸ hb.length_lt) hm' rfl).1
      exact ⟨hr.trans hb.suffix, fun _ => suffix_trans_behind hr hb⟩

/-- Where the step finds something at once, `many` takes something. -/
theorem many_takes {step : Step α} (h : Shrinks step) {text rest : List Char} {as : List α}
    (hs : step text ≠ .ok none) (hm : many step text = .ok (as, rest)) : Behind rest text := by
  refine (many_rest h hm).2 fun hnil => ?_
  subst hnil
  rw [many_eq h] at hm
  split at hm
  · cases hm
  · exact hs ‹_›
  · obtain ⟨p, _, heq⟩ := map_eq_ok.1 hm
    cases heq

/-- Two steps that agree from a place on give the same when they are repeated from there. -/
theorem many_congr {step step' : Step α} (h : Shrinks step) (h' : Shrinks step')
    {text : List Char} (heq : ∀ t, t <:+ text → step t = step' t) :
    many step text = many step' text := by
  induction hn : text.length using Nat.strongRecOn generalizing text with
  | ind n ih =>
    rw [many_eq h, many_eq h', heq text (List.suffix_refl _)]
    split
    · rfl
    · rfl
    · rename_i a r hs
      have hb := h' _ _ _ hs
      rw [ih r.length (hn ▸ hb.length_lt) (fun t ht => heq t (ht.trans hb.suffix)) rfl]

/-! ### Names -/

theorem dropTerminator_suffix (text : List Char) : dropTerminator text <:+ text := by
  unfold dropTerminator
  split
  · exact ⟨['\r', '\n'], rfl⟩
  · split
    · exact List.suffix_cons _ _
    · exact List.suffix_refl _
  · exact List.suffix_refl _

theorem escape_takes : Takes escape := by
  intro text a rest h
  unfold escape at h
  split at h
  · split at h
    · exact absurd h failAt_ne_ok
    · split at h
      · cases h
        exact behind_cons ((dropTerminator_suffix _).trans (List.drop_suffix _ _)) _
      · cases h
        exact behind_cons (List.suffix_cons _ _) _
  · exact absurd h failAt_ne_ok
  · exact absurd h failAt_ne_ok

theorem found_eq_ok {rule : Rule α} {text rest : List Char} {a : α} :
    Rule.found rule text = .ok (some (a, rest)) ↔ rule text = .ok (a, rest) := by
  rw [Rule.found, map_eq_ok]
  exact ⟨fun ⟨p, h, hp⟩ => by cases hp; exact h, fun h => ⟨_, h, rfl⟩⟩

theorem nameChar_shrinks : Shrinks nameChar := by
  intro text a rest h
  unfold nameChar at h
  split at h
  · cases h
  · split at h
    · cases h
      exact behind_cons (List.suffix_refl _) _
    · split at h
      · exact escape_takes _ _ _ (found_eq_ok.1 h)
      · cases h

theorem name_takes : Takes name := by
  intro text a rest h
  obtain ⟨⟨chars, r⟩, hm, h⟩ := bind_eq_ok.1 h
  dsimp only at h
  split at h
  · exact absurd h failAt_ne_ok
  · next hne =>
    cases h
    exact (many_rest nameChar_shrinks hm).2 (by simpa using hne)

theorem identifier_takes : Takes identifier := by
  intro text a rest h
  unfold identifier at h
  split at h
  · split at h
    · obtain ⟨⟨word, r⟩, hn, heq⟩ := map_eq_ok.1 h
      cases heq
      exact behind_cons (name_takes _ _ _ hn).suffix _
    · exact absurd h failAt_ne_ok
  · split at h
    · exact name_takes _ _ _ h
    · exact absurd h failAt_ne_ok

theorem stringPart_shrinks (quote : Char) : Shrinks (stringPart quote) := by
  intro text a rest h
  unfold stringPart at h
  split at h
  · cases h
  · split at h
    · cases h
    · split at h
      · split at h
        · cases h
          exact behind_cons ⟨['\r', '\n'], rfl⟩ _
        · split at h
          · cases h
            exact behind_cons (List.suffix_cons _ _) _
          · obtain ⟨⟨e, r⟩, he, heq⟩ := map_eq_ok.1 h
            cases heq
            exact escape_takes _ _ _ he
        · obtain ⟨⟨e, r⟩, he, heq⟩ := map_eq_ok.1 h
          cases heq
          exact escape_takes _ _ _ he
      · split at h
        · exact absurd h failAt_ne_ok
        · cases h
          exact behind_cons (List.suffix_refl _) _

theorem quotedString_takes : Takes quotedString := by
  intro text a rest h
  unfold quotedString at h
  split at h
  · split at h
    · obtain ⟨⟨parts, r⟩, hm, h⟩ := bind_eq_ok.1 h
      have hr := (many_rest (stringPart_shrinks _) hm).1
      dsimp only at h
      split at h
      · exact absurd h failAt_ne_ok
      · cases h
        exact behind_cons ((List.suffix_cons _ _).trans hr) _
    · exact absurd h failAt_ne_ok
  · exact absurd h failAt_ne_ok

theorem stringOrIdentifier_takes : Takes stringOrIdentifier := by
  intro text a rest h
  unfold stringOrIdentifier at h
  split at h
  · exact absurd h failAt_ne_ok
  · split at h
    · exact quotedString_takes _ _ _ h
    · exact identifier_takes _ _ _ h

/-! ### Formulas -/

theorem formulaNumber_takes : Takes formulaNumber := by
  intro text a rest h
  unfold formulaNumber at h
  dsimp only at h
  split at h
  · exact absurd h failAt_ne_ok
  · next hne =>
    cases h
    refine ⟨text.takeWhile Char.isDigit, fun hnil => hne ?_, (List.takeWhile_append_dropWhile).symm⟩
    rw [hnil]
    rfl

theorem formulaOffset_keeps : Keeps formulaOffset := by
  intro text a rest h
  unfold formulaOffset at h
  have hs := skipBlank_suffix text
  split at h
  · exact absurd h failAt_ne_ok
  · next r heq =>
    obtain ⟨⟨n, r'⟩, hn, hp⟩ := map_eq_ok.1 h
    cases hp
    exact (((formulaNumber_takes _ _ _ hn).suffix.trans (skipBlank_suffix r)).trans
      (List.suffix_cons _ _)).trans (heq ▸ hs)
  · next r heq =>
    obtain ⟨⟨n, r'⟩, hn, hp⟩ := map_eq_ok.1 h
    cases hp
    exact (((formulaNumber_takes _ _ _ hn).suffix.trans (skipBlank_suffix r)).trans
      (List.suffix_cons _ _)).trans (heq ▸ hs)
  · cases h
    exact hs

theorem formulaOfStep_keeps (step : Int64) : Keeps (formulaOfStep step) := by
  intro text a rest h
  obtain ⟨⟨offset, r⟩, ho, hp⟩ := map_eq_ok.1 h
  cases hp
  exact formulaOffset_keeps _ _ _ ho

theorem unsignedFormula_takes (negative : Bool) : Takes (unsignedFormula negative) := by
  intro text a rest h
  unfold unsignedFormula at h
  split at h
  · exact absurd h failAt_ne_ok
  · split at h
    · obtain ⟨⟨n, r⟩, hn, h⟩ := bind_eq_ok.1 h
      have hb := formulaNumber_takes _ _ _ hn
      dsimp only at h
      split at h
      · exact absurd h failAt_ne_ok
      · split at h
        · exact suffix_trans_behind
            ((formulaOfStep_keeps _ _ _ _ h).trans (List.suffix_cons _ _)) hb
        · cases h
          exact hb
    · split at h
      · exact behind_cons (formulaOfStep_keeps _ _ _ _ h) _
      · exact absurd h failAt_ne_ok

theorem formula_takes : Takes formula := by
  intro text a rest h
  unfold formula at h
  split at h
  · exact absurd h failAt_ne_ok
  · exact behind_cons (unsignedFormula_takes _ _ _ _ h).suffix _
  · exact behind_cons (unsignedFormula_takes _ _ _ _ h).suffix _
  · split at h
    · exact unsignedFormula_takes _ _ _ _ h
    · split at h
      · obtain ⟨⟨word, r⟩, hn, h⟩ := bind_eq_ok.1 h
        dsimp only at h
        split at h
        · cases h
          exact name_takes _ _ _ hn
        · exact absurd h failAt_ne_ok
      · exact absurd h failAt_ne_ok

/-! ### Patterns and attributes -/

theorem patternOperand_keeps (engine : Engine) : Keeps (patternOperand engine) := by
  intro text a rest h
  unfold patternOperand at h
  split at h
  · exact absurd h failAt_ne_ok
  · split at h
    · exact absurd h failAt_ne_ok
    · next source r hb =>
      split at h
      · cases h
        exact ⟨source, (append_of_balancedSpan hb).1.symm⟩
      · cases h

theorem operator_takes : Takes operator := by
  intro text a rest h
  unfold operator at h
  split at h
  · exact absurd h failAt_ne_ok
  · cases h
    exact behind_cons (List.suffix_refl _) _
  · split at h
    · cases h
      exact behind_cons (List.suffix_cons _ _) _
    · exact absurd h failAt_ne_ok
    · exact absurd h failAt_ne_ok

theorem operand_keeps (engine : Engine) (op : Operator) : Keeps (operand engine op) := by
  intro text a rest h
  unfold operand at h
  split at h
  · obtain ⟨⟨s, r⟩, hs, hp⟩ := map_eq_ok.1 h
    cases hp
    exact (stringOrIdentifier_takes _ _ _ hs).suffix
  · obtain ⟨⟨p, r⟩, hs, hp⟩ := map_eq_ok.1 h
    cases hp
    exact patternOperand_keeps _ _ _ _ hs

theorem closeBracket_behind {text rest : List Char} (h : closeBracket text = .ok rest) :
    Behind rest text := by
  unfold closeBracket at h
  split at h
  · next r heq =>
    cases h
    exact (behind_cons (List.suffix_refl _) _).trans_suffix (heq ▸ skipBlank_suffix text)
  · exact absurd h unexpected_ne_ok

theorem attributeSelector_takes (engine : Engine) : Takes (attributeSelector engine) := by
  intro text a rest h
  obtain ⟨⟨key, r⟩, hk, h⟩ := bind_eq_ok.1 h
  have hb := (identifier_takes _ _ _ hk).trans_suffix (skipBlank_suffix text)
  dsimp only at h
  split at h
  · exact absurd h failAt_ne_ok
  · next r' heq =>
    cases h
    exact suffix_trans_behind
      ((List.suffix_cons _ _).trans (heq ▸ skipBlank_suffix r)) hb
  · obtain ⟨⟨op, r₁⟩, ho, h⟩ := bind_eq_ok.1 h
    obtain ⟨⟨value, r₂⟩, hv, h⟩ := bind_eq_ok.1 h
    obtain ⟨r₃, hc, h⟩ := bind_eq_ok.1 h
    cases h
    have h₃ := (closeBracket_behind hc).suffix
    have h₂ := (operand_keeps _ _ _ _ _ hv).trans (skipBlank_suffix _)
    have h₁ := (operator_takes _ _ _ ho).suffix.trans (skipBlank_suffix _)
    exact suffix_trans_behind (h₃.trans (h₂.trans h₁)) hb

/-! ### Pseudo-classes -/

theorem parenthesized_takes {rule : Rule α} (hr : Keeps rule) : Takes (parenthesized rule) := by
  intro text a rest h
  unfold parenthesized at h
  split at h
  · obtain ⟨⟨value, r⟩, hv, h⟩ := bind_eq_ok.1 h
    dsimp only at h
    split at h
    · next r' heq =>
      cases h
      exact behind_cons ((((List.suffix_cons _ _).trans (heq ▸ skipBlank_suffix r)).trans
        (hr _ _ _ hv)).trans (skipBlank_suffix _)) _
    · exact absurd h unexpected_ne_ok
  · exact absurd h unexpected_ne_ok

theorem argument_keeps (engine : Engine) {nested : Rule Selector} (hn : Keeps nested)
    (p : PseudoClass) : Keeps (p.argument engine nested) := by
  intro text a rest h
  unfold PseudoClass.argument at h
  split at h
  · obtain ⟨⟨s, r⟩, hs, hp⟩ := map_eq_ok.1 h
    cases hp
    exact (parenthesized_takes hn _ _ _ hs).suffix
  · obtain ⟨⟨s, r⟩, hs, hp⟩ := map_eq_ok.1 h
    cases hp
    exact (parenthesized_takes stringOrIdentifier_takes.keeps _ _ _ hs).suffix
  · obtain ⟨⟨s, r⟩, hs, hp⟩ := map_eq_ok.1 h
    cases hp
    exact (parenthesized_takes (patternOperand_keeps engine) _ _ _ hs).suffix
  · obtain ⟨⟨s, r⟩, hs, hp⟩ := map_eq_ok.1 h
    cases hp
    exact (parenthesized_takes formula_takes.keeps _ _ _ hs).suffix
  · cases h
    exact List.suffix_refl _

theorem pseudoClass_takes (engine : Engine) {nested : Rule Selector} (hn : Keeps nested) :
    Takes (pseudoClass engine nested) := by
  intro text a rest h
  obtain ⟨⟨name, r⟩, hi, h⟩ := bind_eq_ok.1 h
  dsimp only at h
  split at h
  · exact suffix_trans_behind (argument_keeps engine hn _ _ _ _ h) (identifier_takes _ _ _ hi)
  · exact absurd h failAt_ne_ok

/-! ### Compounds, complexes and lists -/

theorem qualifier_shrinks (engine : Engine) {nested : Rule Selector} (hn : Keeps nested) :
    Shrinks (qualifier engine nested) := by
  intro text a rest h
  unfold qualifier at h
  split at h
  · obtain ⟨⟨id, r⟩, hi, hp⟩ := map_eq_ok.1 h
    cases hp
    exact behind_cons (name_takes _ _ _ hi).suffix _
  · obtain ⟨⟨id, r⟩, hi, hp⟩ := map_eq_ok.1 h
    cases hp
    exact behind_cons (name_takes _ _ _ hi).suffix _
  · exact behind_cons (attributeSelector_takes engine _ _ _ (found_eq_ok.1 h)).suffix _
  · exact behind_cons (pseudoClass_takes engine hn _ _ _ (found_eq_ok.1 h)).suffix _
  · cases h

/-- Where a qualifier begins, the step for qualifiers does not pass. -/
theorem qualifier_ne_none (engine : Engine) (nested : Rule Selector) {c : Char} {r : List Char}
    (hc : beginsQualifier c) : qualifier engine nested (c :: r) ≠ .ok none := by
  simp only [beginsQualifier, Bool.or_eq_true, beq_iff_eq, or_assoc] at hc
  rcases hc with rfl | rfl | rfl | rfl
  · cases hx : name r <;> simp [qualifier, hx, Except.map]
  · cases hx : name r <;> simp [qualifier, hx, Except.map]
  · cases hx : attributeSelector engine r <;> simp [qualifier, Rule.found, hx, Except.map]
  · cases hx : pseudoClass engine nested r <;> simp [qualifier, Rule.found, hx, Except.map]

theorem compoundWith_takes (engine : Engine) {nested : Rule Selector} (hn : Keeps nested) :
    Takes (compoundWith engine nested) := by
  intro text a rest h
  obtain ⟨⟨head, r⟩, hh, h⟩ := bind_eq_ok.1 h
  obtain ⟨⟨qualifiers, r'⟩, hq, h⟩ := bind_eq_ok.1 h
  cases h
  have hq' := (many_rest (qualifier_shrinks engine hn) hq).1
  unfold compoundHead at hh
  split at hh
  · exact absurd hh failAt_ne_ok
  · split at hh
    · cases hh
      exact behind_cons hq' _
    · split at hh
      · next hc =>
        cases hh
        exact many_takes (qualifier_shrinks engine hn) (qualifier_ne_none engine nested hc) hq
      · obtain ⟨⟨name, r''⟩, hi, hp⟩ := map_eq_ok.1 hh
        cases hp
        exact suffix_trans_behind hq' (identifier_takes _ _ _ hi)

theorem combinator?_suffix {text rest : List Char} {relation : Combinator}
    (h : combinator? text = some (relation, rest)) : rest <:+ text := by
  have hs := skipBlank_suffix text
  unfold combinator? at h
  split at h
  · cases h
  · cases h
  · cases h
  · next r heq =>
    cases h
    exact ((skipBlank_suffix r).trans (List.suffix_cons _ _)).trans (heq ▸ hs)
  · next r heq =>
    cases h
    exact ((skipBlank_suffix r).trans (List.suffix_cons _ _)).trans (heq ▸ hs)
  · next r heq =>
    cases h
    exact ((skipBlank_suffix r).trans (List.suffix_cons _ _)).trans (heq ▸ hs)
  · split at h
    · cases h
      exact hs
    · cases h

theorem link_shrinks (engine : Engine) {nested : Rule Selector} (hn : Keeps nested) :
    Shrinks (link engine nested) := by
  intro text a rest h
  unfold link at h
  split at h
  · cases h
  · next relation r hc =>
    obtain ⟨⟨right, r'⟩, hr, hp⟩ := map_eq_ok.1 h
    cases hp
    exact (compoundWith_takes engine hn _ _ _ hr).trans_suffix (combinator?_suffix hc)

theorem complexWith_takes (engine : Engine) {nested : Rule Selector} (hn : Keeps nested) :
    Takes (complexWith engine nested) := by
  intro text a rest h
  obtain ⟨⟨first, r⟩, hf, h⟩ := bind_eq_ok.1 h
  obtain ⟨⟨links, r'⟩, hl, h⟩ := bind_eq_ok.1 h
  cases h
  have hf' := (compoundWith_takes engine hn _ _ _ hf).trans_suffix (skipBlank_suffix text)
  have hl' := (many_rest (link_shrinks engine hn) hl).1
  exact suffix_trans_behind ((skipBlank_suffix _).trans hl') hf'

theorem alternative_shrinks (engine : Engine) {nested : Rule Selector} (hn : Keeps nested) :
    Shrinks (alternative engine nested) := by
  intro text a rest h
  unfold alternative at h
  split at h
  · exact behind_cons (complexWith_takes engine hn _ _ _ (found_eq_ok.1 h)).suffix _
  · cases h

theorem listWith_takes (engine : Engine) {nested : Rule Selector} (hn : Keeps nested) :
    Takes (listWith engine nested) := by
  intro text a rest h
  obtain ⟨⟨first, r⟩, hf, h⟩ := bind_eq_ok.1 h
  obtain ⟨⟨others, r'⟩, ho, h⟩ := bind_eq_ok.1 h
  cases h
  exact suffix_trans_behind (many_rest (alternative_shrinks engine hn) ho).1
    (complexWith_takes engine hn _ _ _ hf)

/-! ### Lists inside lists -/

section

variable {engine : Engine} {nested nested' : Rule Selector} {text : List Char}

theorem parenthesized_congr {rule rule' : Rule α}
    (h : ∀ t, Behind t text → rule t = rule' t) :
    parenthesized rule text = parenthesized rule' text := by
  unfold parenthesized
  split
  · next r => rw [h (skipBlank r) (behind_cons (skipBlank_suffix r) _)]
  · rfl

theorem argument_congr (h : ∀ t, Behind t text → nested t = nested' t) (p : PseudoClass) :
    p.argument engine nested text = p.argument engine nested' text := by
  cases p with
  | wrapper w =>
    rw [PseudoClass.argument, PseudoClass.argument, parenthesized_congr h]
  | _ => rfl

theorem pseudoClass_congr (h : ∀ t, Behind t text → nested t = nested' t) :
    pseudoClass engine nested text = pseudoClass engine nested' text := by
  rw [pseudoClass, pseudoClass]
  refine bind_congr_ok fun ⟨name, r⟩ hi => ?_
  have hs := (identifier_takes _ _ _ hi).suffix
  dsimp only
  split
  · exact argument_congr (fun t ht => h t (ht.trans_suffix hs)) _
  · rfl

theorem qualifier_congr (h : ∀ t, Behind t text → nested t = nested' t) :
    qualifier engine nested text = qualifier engine nested' text := by
  unfold qualifier
  split
  · rfl
  · rfl
  · rfl
  · next r =>
    rw [Rule.found, Rule.found,
      pseudoClass_congr fun t ht => h t (ht.trans_suffix (List.suffix_cons _ _))]
  · rfl

theorem compoundHead_keeps : Keeps compoundHead := by
  intro text a rest h
  unfold compoundHead at h
  split at h
  · exact absurd h failAt_ne_ok
  · split at h
    · cases h
      exact List.suffix_cons _ _
    · split at h
      · cases h
        exact List.suffix_refl _
      · obtain ⟨⟨name, r⟩, hi, hp⟩ := map_eq_ok.1 h
        cases hp
        exact (identifier_takes _ _ _ hi).suffix

theorem compoundWith_congr (hn : Keeps nested) (hn' : Keeps nested')
    (h : ∀ t, Behind t text → nested t = nested' t) :
    compoundWith engine nested text = compoundWith engine nested' text := by
  rw [compoundWith, compoundWith]
  refine bind_congr_ok fun ⟨head, r⟩ hh => ?_
  have hs := compoundHead_keeps _ _ _ hh
  dsimp only
  rw [many_congr (qualifier_shrinks engine hn) (qualifier_shrinks engine hn')
    fun t ht => qualifier_congr fun u hu => h u (hu.trans_suffix (ht.trans hs))]

theorem link_congr (hn : Keeps nested) (hn' : Keeps nested')
    (h : ∀ t, Behind t text → nested t = nested' t) :
    link engine nested text = link engine nested' text := by
  rw [link, link]
  split
  · rfl
  · next relation r hc =>
    rw [compoundWith_congr hn hn' fun t ht => h t (ht.trans_suffix (combinator?_suffix hc))]

theorem complexWith_congr (hn : Keeps nested) (hn' : Keeps nested')
    (h : ∀ t, Behind t text → nested t = nested' t) :
    complexWith engine nested text = complexWith engine nested' text := by
  rw [complexWith, complexWith,
    compoundWith_congr hn hn' fun t ht => h t (ht.trans_suffix (skipBlank_suffix text))]
  refine bind_congr_ok fun ⟨first, r⟩ hc => ?_
  have hs := (compoundWith_takes engine hn' _ _ _ hc).suffix.trans (skipBlank_suffix text)
  dsimp only
  rw [many_congr (link_shrinks engine hn) (link_shrinks engine hn')
    fun t ht => link_congr hn hn' fun u hu => h u (hu.trans_suffix (ht.trans hs))]

theorem alternative_congr (hn : Keeps nested) (hn' : Keeps nested')
    (h : ∀ t, Behind t text → nested t = nested' t) :
    alternative engine nested text = alternative engine nested' text := by
  unfold alternative
  split
  · next r =>
    rw [Rule.found, Rule.found, complexWith_congr hn hn' fun t ht =>
      h t (ht.trans_suffix (List.suffix_cons _ _))]
  · rfl

/-- A list asks for the lists inside it at places behind its start alone. -/
theorem listWith_congr (hn : Keeps nested) (hn' : Keeps nested')
    (h : ∀ t, Behind t text → nested t = nested' t) :
    listWith engine nested text = listWith engine nested' text := by
  rw [listWith, listWith, complexWith_congr hn hn' h]
  refine bind_congr_ok fun ⟨first, r⟩ hc => ?_
  have hs := (complexWith_takes engine hn' _ _ _ hc).suffix
  dsimp only
  rw [many_congr (alternative_shrinks engine hn) (alternative_shrinks engine hn')
    fun t ht => alternative_congr hn hn' fun u hu => h u (hu.trans_suffix (ht.trans hs))]

end

theorem selectorList_takes (engine : Engine) : Takes (selectorList engine) := by
  intro text
  induction hn : text.length using Nat.strongRecOn generalizing text with
  | ind n ih =>
    intro a rest h
    rw [selectorList] at h
    refine listWith_takes engine (fun inner b r hi => ?_) text a rest h
    split at hi
    · next hlt => exact (ih inner.length (hn ▸ hlt) inner rfl b r hi).suffix
    · exact absurd hi failAt_ne_ok

/-- The rule for lists is the one whose lists inside are read by itself. -/
theorem selectorList_eq (engine : Engine) (text : List Char) :
    selectorList engine text = listWith engine (selectorList engine) text := by
  have hn := (selectorList_takes engine).keeps
  rw [selectorList]
  refine listWith_congr (fun inner a rest h => ?_) hn fun t ht => if_pos ht.length_lt
  split at h
  · exact hn _ _ _ h
  · exact absurd h failAt_ne_ok

theorem compound_takes (engine : Engine) : Takes (compound engine) :=
  compoundWith_takes engine (selectorList_takes engine).keeps

theorem complex_takes (engine : Engine) : Takes (complex engine) :=
  complexWith_takes engine (selectorList_takes engine).keeps

end MarkupQuery.Query
