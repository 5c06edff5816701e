import MarkupQuery.Proofs.Query.Trailing

/-!
Blanks behind a closing bracket.

A bracket that closes something, standing last in a text, ends whatever was read up to it. A rule
that reads the text with blanks behind it (`Padding`) therefore reads the text alone in the same
way, and leaves the blanks over (`Sheds`). This goes from the longer text to the shorter one, where
a rule could also fail for want of a character that the blanks make up for (`ShedsBut`); names,
strings and formulas never do.

* `many_shed`: a step that is repeated, unless it takes the blanks themselves;
* `escape_sheds`, `name_sheds`, `identifier_sheds`, `quotedString_sheds`: names and strings. Inside
  a string blanks are taken, but then the string has no end;
* `formula_sheds`: formulas, the digits of which end before the bracket.
-/

namespace MarkupQuery.Query

variable {α β : Type} {text rest w : List Char} {c : Char}

/-! ### Blanks, and texts that end in a bracket -/

/-- A text of blanks alone. -/
def Padding (w : List Char) : Prop :=
  ∀ c ∈ w, isBlank c = true

/-- The last character of the text, if there is any, is a closing bracket. -/
def Closed (text : List Char) : Prop :=
  ∀ c ∈ text.getLast?, closesBracket c = true

lemma Padding.of_suffix (hw : Padding w) (hs : rest <:+ w) : Padding rest :=
  fun c hc => hw c (hs.subset hc)

lemma Padding.blanks (hw : Padding w) : Blanks w := by
  induction w with
  | nil => exact .nil
  | cons c r ih => exact .blank (hw c List.mem_cons_self) (ih (hw.of_suffix (List.suffix_cons c r)))

lemma Padding.of_leaves {tail' : List Char} (hw : Padding w) (hl : Leaves rest w tail') :
    Padding tail' := by
  rcases hl with rfl | ⟨_, rfl⟩
  · exact hw
  · exact hw.of_suffix (dropTerminator_suffix w)

lemma Padding.skipBlank (hw : Padding w) : skipBlank w = [] :=
  skipBlank_eq_nil_iff.mpr hw.blanks

/-- What holds of no blank holds of other characters alone. -/
lemma isBlank_eq_false_of {p : Char → Bool}
    (hp : [' ', '\t', '\n', '\r', '\x0c'].any p = false) (hc : p c = true) :
    isBlank c = false := by
  by_contra hb
  have hmem : c ∈ [' ', '\t', '\n', '\r', '\x0c'] := by
    simpa using (isBlank_iff c).1 (Bool.of_not_eq_false hb)
  rw [List.any_eq_true.2 ⟨c, hmem, hc⟩] at hp
  cases hp

/-- What begins otherwise than with a blank begins in the text already. -/
lemma Padding.cons_of_append (hw : Padding w) {u : List Char} (h : text ++ w = c :: u)
    (hc : isBlank c = false) : ∃ t, text = c :: t ∧ u = t ++ w := by
  cases text with
  | nil =>
      rw [List.nil_append] at h
      rw [hw c (h ▸ List.mem_cons_self)] at hc
      cases hc
  | cons d t =>
      obtain ⟨rfl, rfl⟩ := List.cons.inj h
      exact ⟨t, rfl, rfl⟩

/-- What a rule reads that refuses blanks begins in the text already. -/
lemma Padding.exists_cons (hw : Padding w) (rule : Rule α) (hnil : ∀ p, rule [] ≠ .ok p)
    (hblank : ∀ c r p, isBlank c = true → rule (c :: r) ≠ .ok p) {p : α × List Char}
    (h : rule (text ++ w) = .ok p) : ∃ c t, text = c :: t := by
  cases text with
  | nil =>
      cases w with
      | nil => exact absurd h (hnil p)
      | cons c r => exact absurd h (hblank c r p (hw c List.mem_cons_self))
  | cons c t => exact ⟨c, t, rfl⟩

lemma Closed.of_suffix (ht : Closed text) (hs : rest <:+ text) : Closed rest := by
  obtain ⟨front, rfl⟩ := hs
  intro c hc
  exact ht c (by rw [List.getLast?_append, Option.mem_def.1 hc]; rfl)

lemma Closed.of_cons (ht : Closed (c :: text)) : Closed text :=
  ht.of_suffix (List.suffix_cons c text)

lemma Closed.skipBlank (ht : Closed text) : Closed (skipBlank text) :=
  ht.of_suffix (skipBlank_suffix text)

/-- What is no closing bracket is not all of such a text. -/
lemma Closed.ne_nil (ht : Closed (c :: text)) (hc : closesBracket c = false) : text ≠ [] := by
  rintro rfl
  rw [ht c rfl] at hc
  cases hc

/-- Blanks behind a text are dropped with it, or stay. -/
lemma skipBlank_append_padding (hw : Padding w) (text : List Char) :
    ∃ w', Padding w' ∧ skipBlank (text ++ w) = skipBlank text ++ w' ∧
      (skipBlank text = [] → w' = []) := by
  cases hfront : skipBlank text with
  | nil =>
      refine ⟨[], fun _ hc => absurd hc List.not_mem_nil, ?_, fun _ => rfl⟩
      rw [skipBlank_append_of_nil hfront, hw.skipBlank]
      rfl
  | cons c r => exact ⟨w, hw, skipBlank_append_of_inert (inert_of_isBlank hw) hfront, nofun⟩

/-! ### Rules -/

/-- What a rule reads of a text that ends in a bracket, with blanks behind it, it reads of the text
alone, and the blanks are left over. -/
def Sheds (rule : Rule α) : Prop :=
  ∀ text w a rest, Closed text → Padding w → rule (text ++ w) = .ok (a, rest) →
    ∃ r w', Padding w' ∧ rest = r ++ w' ∧ rule text = .ok (a, r)

/-- What is wrong with a pattern that has one character left. -/
def starved : Failure := ⟨.unexpectedEnd, 1, none⟩

/-- The same, except that the text alone may lack a character where with the blanks there is
enough. Then `P` holds of what was read, and only blanks are left. -/
def ShedsBut (P : α → Prop) (rule : Rule α) : Prop :=
  ∀ text w a rest, Closed text → Padding w → rule (text ++ w) = .ok (a, rest) →
    (∃ r w', Padding w' ∧ rest = r ++ w' ∧ rule text = .ok (a, r)) ∨
      (P a ∧ Padding rest ∧ rule text = .error starved)

/-- The same of a step, where the text is not empty. -/
def StepSheds (P : α → Prop) (step : Step α) : Prop :=
  ∀ text w, text ≠ [] → Closed text → Padding w →
    (step (text ++ w) = .ok none → step text = .ok none) ∧
    ∀ a rest, step (text ++ w) = .ok (some (a, rest)) →
      (∃ r w', Padding w' ∧ rest = r ++ w' ∧ step text = .ok (some (a, r))) ∨
        (P a ∧ Padding rest ∧ step text = .error starved)

/-- Behind blanks and comments too. -/
lemma ShedsBut.skip {rule : Rule α} {P : α → Prop} (h : ShedsBut P rule) :
    ShedsBut P fun text => rule (skipBlank text) := by
  intro text w a rest ht hw hr
  obtain ⟨w', hw', hskip, _⟩ := skipBlank_append_padding hw text
  dsimp only at hr
  rw [hskip] at hr
  exact h _ w' a rest ht.skipBlank hw' hr

lemma ShedsBut.map {rule : Rule α} {P : α → Prop} {Q : β → Prop} (h : ShedsBut P rule) (f : α → β)
    (hPQ : ∀ a, P a → Q (f a)) : ShedsBut Q fun text => (rule text).map fun p => (f p.1, p.2) := by
  intro text w b rest ht hw hb
  obtain ⟨⟨a, r'⟩, ha, heq⟩ := map_eq_ok.1 hb
  cases heq
  rcases h text w a _ ht hw ha with ⟨r, w', hw', rfl, hr⟩ | ⟨hP, hrest, herr⟩
  · exact .inl ⟨r, w', hw', rfl, map_eq_ok.2 ⟨_, hr, rfl⟩⟩
  · exact .inr ⟨hPQ a hP, hrest, map_eq_error.2 herr⟩

/-- Blanks and comments that are dropped behind what was read. -/
lemma ShedsBut.dropBlank {rule : Rule α} {P : α → Prop} (h : ShedsBut P rule) :
    ShedsBut P fun text => (rule text).map fun p => (p.1, skipBlank p.2) := by
  intro text w a rest ht hw hr
  obtain ⟨⟨a', r'⟩, ha, heq⟩ := map_eq_ok.1 hr
  cases heq
  rcases h text w a' _ ht hw ha with ⟨r, w₁, hw₁, rfl, hread⟩ | ⟨hP, hrest, herr⟩
  · obtain ⟨w₂, hw₂, hskip, _⟩ := skipBlank_append_padding hw₁ r
    exact .inl ⟨_, w₂, hw₂, hskip, map_eq_ok.2 ⟨_, hread, rfl⟩⟩
  · exact .inr ⟨hP, hrest.of_suffix (skipBlank_suffix r'), map_eq_error.2 herr⟩

/-- A step that runs a rule sheds the blanks as the rule does. -/
lemma ShedsBut.found {rule : Rule α} {P : α → Prop} (h : ShedsBut P rule) {a : α}
    (ht : Closed text) (hw : Padding w) (hr : rule.found (text ++ w) = .ok (some (a, rest))) :
    (∃ r w', Padding w' ∧ rest = r ++ w' ∧ rule.found text = .ok (some (a, r))) ∨
      (P a ∧ Padding rest ∧ rule.found text = .error starved) := by
  rcases h text w a rest ht hw (found_eq_ok.1 hr) with ⟨r, w', hw', rfl, hread⟩ | ⟨hP, hrest, herr⟩
  · exact .inl ⟨r, w', hw', rfl, found_eq_ok.2 hread⟩
  · exact .inr ⟨hP, hrest, map_eq_error.2 herr⟩

lemma Sheds.but {rule : Rule α} (h : Sheds rule) {P : α → Prop} : ShedsBut P rule :=
  fun text w a rest ht hw hr => .inl (h text w a rest ht hw hr)

lemma ShedsBut.sheds {rule : Rule α} {P : α → Prop} (h : ShedsBut P rule) (hP : ∀ a, ¬ P a) :
    Sheds rule :=
  fun text w a rest ht hw hr => (h text w a rest ht hw hr).resolve_right fun hx => hP a hx.1

lemma Sheds.skip {rule : Rule α} (h : Sheds rule) : Sheds fun text => rule (skipBlank text) :=
  (h.but (P := fun _ => False)).skip.sheds fun _ hx => hx

lemma Sheds.map {rule : Rule α} (h : Sheds rule) (f : α → β) :
    Sheds fun text => (rule text).map fun p => (f p.1, p.2) :=
  ((h.but (P := fun _ => False)).map (Q := fun _ => False) f fun _ hx => hx).sheds fun _ hx => hx

/-- A step that sheds the blanks does so when it is repeated, if it does not take the blanks
themselves. -/
lemma many_shed {step : Step α} {P : α → Prop} {Q : List α → Prop} {as : List α}
    (hs : Shrinks step) (h₀ : step [] = .ok none) (h : StepSheds P step)
    (hone : ∀ a, P a → Q [a]) (hcons : ∀ a as, Q as → Q (a :: as))
    (hidle : ∀ w as, Padding w → many step w = .ok (as, rest) → as = [] ∧ rest = w)
    (ht : Closed text) (hw : Padding w) (hm : many step (text ++ w) = .ok (as, rest)) :
    (∃ r w', Padding w' ∧ rest = r ++ w' ∧ many step text = .ok (as, r)) ∨
      (Q as ∧ Padding rest ∧ many step text = .error starved) := by
  induction hn : text.length using Nat.strongRecOn generalizing text w as with
  | ind n ih =>
      by_cases hne : text = []
      · subst hne
        obtain ⟨rfl, rfl⟩ := hidle w as hw hm
        exact .inl ⟨[], rest, hw, rfl, many_empty hs h₀⟩
      obtain ⟨hstop, hfind⟩ := h text w hne ht hw
      rw [many_eq hs] at hm
      split at hm
      · cases hm
      · next hstep =>
        cases hm
        exact .inl ⟨text, w, hw, rfl, many_of_stop hs (hstop hstep)⟩
      · next a rest' hstep =>
        obtain ⟨⟨as', rest''⟩, hm', heq⟩ := map_eq_ok.1 hm
        cases heq
        rcases hfind a rest' hstep with ⟨r, w', hw', rfl, hr⟩ | ⟨hP, hrest, herr⟩
        · have hb := hs _ _ _ hr
          rcases ih r.length (hn ▸ hb.length_lt) (ht.of_suffix hb.suffix) hw' hm' rfl with
            ⟨r', w'', hw'', rfl, hr'⟩ | ⟨hQ, hrest, herr⟩
          · refine .inl ⟨r', w'', hw'', rfl, ?_⟩
            rw [many_of_found hs hr, hr']
            rfl
          · refine .inr ⟨hcons a _ hQ, hrest, ?_⟩
            rw [many_of_found hs hr, herr]
            rfl
        · obtain ⟨rfl, rfl⟩ := hidle rest' as' hrest hm'
          refine .inr ⟨hone a hP, hrest, ?_⟩
          rw [many_eq hs, herr]

/-- A step that finds nothing in blanks does not take them. -/
lemma StepSheds.many {step : Step α} {P : α → Prop} {Q : List α → Prop} (h : StepSheds P step)
    (hs : Shrinks step) (hidle : ∀ w, Padding w → step w = .ok none) (hone : ∀ a, P a → Q [a])
    (hcons : ∀ a as, Q as → Q (a :: as)) : ShedsBut Q (many step) := by
  intro text w as rest ht hw hm
  refine many_shed hs (hidle [] nofun) h hone hcons (fun w as hw hm => ?_) ht hw hm
  rw [many_of_stop hs (hidle w hw)] at hm
  cases hm
  exact ⟨rfl, rfl⟩

/-! ### Names -/

lemma escape_sheds : Sheds escape := by
  intro text w a rest ht hw h
  obtain ⟨c, u, htext, hc⟩ := escape_eq_ok h
  obtain ⟨t, rfl, hu⟩ := hw.cons_of_append htext rfl
  obtain ⟨d, t, rfl⟩ := List.exists_cons_of_ne_nil (ht.ne_nil rfl)
  obtain ⟨rfl, rfl⟩ := List.cons.inj hu
  -- the text alone is an escape, and with blanks behind it no other
  obtain ⟨⟨a', r⟩, hr⟩ : ∃ x, escape ('\\' :: c :: t) = .ok x := by
    rw [escape_cons hc]
    split <;> exact ⟨_, rfl⟩
  obtain ⟨w', hleaves, heq⟩ : Extends escape (fun y => .ok (a', y)) w _ r :=
    escape_extends hr fun _ => hw.blanks.apart
  rw [heq] at h
  cases h
  exact ⟨r, w', hw.of_leaves hleaves, rfl, hr⟩

lemma nameChar_stepSheds : StepSheds (fun _ => False) nameChar := by
  intro text w hne ht hw
  obtain ⟨c, t, rfl⟩ := List.exists_cons_of_ne_nil hne
  rw [List.cons_append]
  refine ⟨fun h => nameChar_cons_eq_none.2 (nameChar_cons_eq_none.1 h), fun a rest h => .inl ?_⟩
  rw [nameChar] at h ⊢
  by_cases hc : isNameChar c = true
  · rw [if_pos hc] at h ⊢
    cases h
    exact ⟨t, w, hw, rfl, rfl⟩
  · rw [if_neg hc] at h ⊢
    by_cases hb : c = '\\'
    · rw [if_pos hb] at h ⊢
      obtain ⟨r, w', hw', rfl, hr⟩ := escape_sheds _ w a rest ht hw (found_eq_ok.1 h)
      exact ⟨r, w', hw', rfl, found_eq_ok.2 hr⟩
    · rw [if_neg hb] at h
      cases h

lemma nameChar_padding (hw : Padding w) : nameChar w = .ok none := by
  cases w with
  | nil => rfl
  | cons c r =>
      have hs := Separator.of_isBlank (hw c List.mem_cons_self)
      exact nameChar_cons_eq_none.2 ⟨hs.not_nameChar, hs.ne_backslash⟩

lemma nameChars_shed : Sheds (many nameChar) :=
  (nameChar_stepSheds.many (Q := fun _ => False) nameChar_shrinks (fun _ => nameChar_padding)
    (fun _ h => h) (fun _ _ h => h)).sheds fun _ h => h

lemma name_sheds : Sheds name := by
  intro text w a rest ht hw h
  obtain ⟨⟨chars, r'⟩, hm, h⟩ := bind_eq_ok.1 h
  obtain ⟨r, w', hw', rfl, hr⟩ := nameChars_shed text w chars _ ht hw hm
  dsimp only at h
  by_cases hc : chars.isEmpty = true
  · rw [if_pos hc] at h
    exact absurd h failAt_ne_ok
  · rw [if_neg hc] at h
    cases h
    exact ⟨r, w', hw', rfl, bind_eq_ok.2 ⟨_, hr, if_neg hc⟩⟩

lemma isBlank_of_beginsIdentifier (hc : beginsIdentifier c = true) : isBlank c = false :=
  isBlank_eq_false_of rfl hc

lemma startsWord_of_append (hw : Padding w) (h : startsWord (text ++ w) = true) :
    startsWord text = true := by
  cases hcons : text ++ w with
  | nil =>
      rw [hcons] at h
      cases h
  | cons c u =>
      have hc : startsWord (c :: u) = true := hcons ▸ h
      have hb : isBlank c = false := isBlank_of_beginsIdentifier (by
        rw [beginsIdentifier, Bool.or_assoc, Bool.or_eq_true]
        exact .inr hc)
      obtain ⟨t, rfl, _⟩ := hw.cons_of_append hcons hb
      exact hc

lemma identifier_sheds : Sheds identifier := by
  intro text w a rest ht hw h
  obtain ⟨c, u, htext, hc⟩ := identifier_first h
  obtain ⟨t, rfl, rfl⟩ := hw.cons_of_append htext (isBlank_of_beginsIdentifier hc)
  by_cases hy : c = '-'
  · subst hy
    rw [List.cons_append, identifier_hyphen] at h
    by_cases hs : startsWord (t ++ w) = true
    · rw [if_pos hs] at h
      obtain ⟨r, w', hw', rfl, hr⟩ := name_sheds.map ("-" ++ ·) t w a rest ht.of_cons hw h
      refine ⟨r, w', hw', rfl, ?_⟩
      rw [identifier_hyphen, if_pos (startsWord_of_append hw hs)]
      exact hr
    · rw [if_neg hs] at h
      exact absurd h failAt_ne_ok
  · have hword : ∀ s r, c :: s ≠ '-' :: r := fun s r heq => hy (List.cons.inj heq).1
    rw [List.cons_append, identifier_word (hword _)] at h
    rw [identifier_word (hword _)]
    by_cases hs : startsWord (c :: t) = true
    · rw [if_pos (show startsWord (c :: (t ++ w)) = true from hs)] at h
      rw [if_pos hs]
      exact name_sheds _ w a rest ht hw h
    · rw [if_neg (show ¬ startsWord (c :: (t ++ w)) = true from hs)] at h
      exact absurd h failAt_ne_ok

/-! ### Strings -/

lemma closesBracket_of_isNewline (hc : isNewline c = true) : closesBracket c = false := by
  rcases (isBlank_iff c).1 (isBlank_of_isNewline hc) with rfl | rfl | rfl | rfl | rfl <;> rfl

/-- Behind a backslash stands a whole line end, or a whole escape. -/
lemma stringPart_backslash_sheds {quote : Char} (hq : '\\' ≠ quote) {part : List Char}
    (ht : Closed ('\\' :: text)) (hw : Padding w)
    (h : stringPart quote ('\\' :: text ++ w) = .ok (some (part, rest))) :
    ∃ r w', Padding w' ∧ rest = r ++ w' ∧
      stringPart quote ('\\' :: text) = .ok (some (part, r)) := by
  obtain ⟨d, t, rfl⟩ := List.exists_cons_of_ne_nil (ht.ne_nil rfl)
  rw [List.cons_append, List.cons_append] at h
  by_cases hd : isNewline d = true
  · obtain ⟨e, t, rfl⟩ :=
      List.exists_cons_of_ne_nil (ht.of_cons.ne_nil (closesBracket_of_isNewline hd))
    by_cases hcr : d = '\r' ∧ e = '\n'
    · obtain ⟨rfl, rfl⟩ := hcr
      rw [List.cons_append, stringPart, if_neg hq, if_pos rfl] at h
      cases h
      refine ⟨t, w, hw, rfl, ?_⟩
      rw [stringPart, if_neg hq, if_pos rfl]
    · have hne : ∀ u r, d :: e :: u ≠ '\r' :: '\n' :: r := by
        rintro u r ⟨⟩
        exact hcr ⟨rfl, rfl⟩
      rw [List.cons_append, stringPart_newline hq hd (hne _)] at h
      cases h
      exact ⟨e :: t, w, hw, rfl, stringPart_newline hq hd (hne _)⟩
  · rw [stringPart_escape hq (Bool.of_not_eq_true hd)] at h
    obtain ⟨⟨a, rest'⟩, ha, heq⟩ := map_eq_ok.1 h
    cases heq
    obtain ⟨r, w', hw', rfl, hr⟩ := escape_sheds _ w a _ ht hw ha
    refine ⟨r, w', hw', rfl, ?_⟩
    rw [stringPart_escape hq (Bool.of_not_eq_true hd), hr]
    rfl

lemma stringPart_stepSheds (quote : Char) : StepSheds (fun _ => False) (stringPart quote) := by
  intro text w hne ht hw
  obtain ⟨c, t, rfl⟩ := List.exists_cons_of_ne_nil hne
  by_cases hq : c = quote
  · subst hq
    refine ⟨fun _ => stringPart_quote t, fun a rest h => ?_⟩
    rw [List.cons_append, stringPart_quote] at h
    cases h
  refine ⟨fun h => absurd (stringPart_eq_none h) hq, fun part rest h => .inl ?_⟩
  by_cases hb : c = '\\'
  · subst hb
    exact stringPart_backslash_sheds hq ht hw h
  · rw [List.cons_append, stringPart.eq_def] at h
    rw [stringPart.eq_def]
    dsimp only at h ⊢
    rw [if_neg hq, if_neg hb] at h ⊢
    by_cases hn : isNewline c = true
    · rw [if_pos hn] at h
      exact absurd h failAt_ne_ok
    · rw [if_neg hn] at h ⊢
      cases h
      exact ⟨t, w, hw, rfl, rfl⟩

lemma isBlank_of_isQuote (hc : isQuote c = true) : isBlank c = false :=
  isBlank_eq_false_of rfl hc

/-- The parts of a string that is closed. A string that goes on into the blanks behind the text has
no end. -/
lemma stringParts_shed {quote : Char} (hquote : isQuote quote = true) {parts : List (List Char)}
    (ht : Closed text) (hw : Padding w)
    (h : many (stringPart quote) (text ++ w) = .ok (parts, c :: rest)) :
    ∃ r w', Padding w' ∧ c :: rest = r ++ w' ∧ many (stringPart quote) text = .ok (parts, r) := by
  have hs := stringPart_shrinks quote
  refine (many_shed (Q := fun _ => False) hs rfl (stringPart_stepSheds quote) (fun _ h => h)
    (fun _ _ h => h) (fun w as hw hm => ?_) ht hw h).resolve_right fun hx => hx.1
  have hend : c = quote := stringPart_eq_none (many_stop hs hm)
  have hblank := hw c ((many_rest hs hm).1.subset List.mem_cons_self)
  rw [hend, isBlank_of_isQuote hquote] at hblank
  cases hblank

lemma quotedString_sheds : Sheds quotedString := by
  intro text w s rest ht hw h
  rw [quotedString.eq_def] at h
  split at h
  · next quote c u htext =>
    by_cases hq : isQuote quote = true
    · rw [if_pos hq] at h
      obtain ⟨t, rfl, hu⟩ := hw.cons_of_append htext (isBlank_of_isQuote hq)
      have hclose : closesBracket quote = false := by
        rw [isQuote, Bool.or_eq_true, beq_iff_eq, beq_iff_eq] at hq
        rcases hq with rfl | rfl <;> rfl
      obtain ⟨d, t, rfl⟩ := List.exists_cons_of_ne_nil (ht.ne_nil hclose)
      obtain ⟨rfl, rfl⟩ := List.cons.inj hu
      obtain ⟨⟨parts, rest'⟩, hm, h⟩ := bind_eq_ok.1 h
      cases rest' with
      | nil => exact absurd h failAt_ne_ok
      | cons q rest' =>
          cases h
          have hend : q = quote :=
            stringPart_eq_none (many_stop (stringPart_shrinks quote) hm)
          obtain ⟨r, w', hw', heq, hr⟩ := stringParts_shed hq ht.of_cons hw hm
          obtain ⟨r, rfl, rfl⟩ := hw'.cons_of_append heq.symm (hend ▸ isBlank_of_isQuote hq)
          refine ⟨r, w', hw', rfl, ?_⟩
          rw [quotedString, if_pos hq]
          exact bind_eq_ok.2 ⟨_, hr, rfl⟩
    · rw [if_neg hq] at h
      exact absurd h failAt_ne_ok
  · exact absurd h failAt_ne_ok

lemma stringOrIdentifier_blank (hc : isBlank c = true) (p : String × List Char) :
    stringOrIdentifier (c :: rest) ≠ .ok p := by
  intro h
  have hq : ¬ isQuote c = true := by
    intro hq
    rw [isBlank_of_isQuote hq] at hc
    cases hc
  rw [stringOrIdentifier, if_neg hq] at h
  obtain ⟨d, u, hcons, hd⟩ := identifier_first h
  obtain rfl := (List.cons.inj hcons).1
  rw [isBlank_of_beginsIdentifier hd] at hc
  cases hc

lemma stringOrIdentifier_sheds : Sheds stringOrIdentifier := by
  intro text w s rest ht hw h
  obtain ⟨c, t, rfl⟩ := hw.exists_cons stringOrIdentifier (fun _ => failAt_ne_ok)
    (fun _ _ p hc => stringOrIdentifier_blank hc p) h
  rw [List.cons_append, stringOrIdentifier] at h
  rw [stringOrIdentifier]
  by_cases hq : isQuote c = true
  · rw [if_pos hq] at h ⊢
    exact quotedString_sheds _ w s rest ht hw h
  · rw [if_neg hq] at h ⊢
    exact identifier_sheds _ w s rest ht hw h

/-! ### Formulas -/

lemma isDigit_of_isBlank (hc : isBlank c = true) : c.isDigit = false := by
  rcases (isBlank_iff c).1 hc with rfl | rfl | rfl | rfl | rfl <;> rfl

/-- The digits of a text do not go on in the blanks behind it. -/
lemma digits_append_padding (hw : Padding w) (text : List Char) :
    (text ++ w).takeWhile Char.isDigit = text.takeWhile Char.isDigit ∧
      (text ++ w).dropWhile Char.isDigit = text.dropWhile Char.isDigit ++ w := by
  induction text with
  | nil =>
      cases w with
      | nil => exact ⟨rfl, rfl⟩
      | cons c r =>
          have hc := isDigit_of_isBlank (hw c List.mem_cons_self)
          simp [hc]
  | cons c t ih =>
      obtain ⟨htake, hdrop⟩ := ih
      by_cases hc : c.isDigit = true <;> simp [hc, htake, hdrop]

lemma formulaNumber_sheds : Sheds formulaNumber := by
  intro text w n rest ht hw h
  obtain ⟨htake, hdrop⟩ := digits_append_padding hw text
  rw [formulaNumber, htake, hdrop] at h
  rw [formulaNumber]
  split at h
  · exact absurd h failAt_ne_ok
  · next hd =>
    cases h
    exact ⟨_, w, hw, rfl, if_neg hd⟩

/-- A number ends before the bracket. -/
lemma formulaNumber_rest_ne_nil {n : ℕ} (ht : Closed text)
    (h : formulaNumber text = .ok (n, rest)) : rest ≠ [] := by
  rw [formulaNumber] at h
  split at h
  · exact absurd h failAt_ne_ok
  · next hd =>
    cases h
    intro hnil
    have hall := List.dropWhile_eq_nil_iff.1 hnil
    have hne : text ≠ [] := by
      rintro rfl
      exact hd rfl
    have hclose := ht _ (List.getLast?_eq_some_getLast hne)
    have hdigit := hall _ (List.getLast_mem hne)
    rw [closesBracket, Bool.or_eq_true, beq_iff_eq, beq_iff_eq] at hclose
    rcases hclose with hclose | hclose <;> rw [hclose] at hdigit <;> cases hdigit

lemma formulaOffset_none {r : List Char} (h : skipBlank text = c :: r) (hplus : c ≠ '+')
    (hminus : c ≠ '-') : formulaOffset text = .ok (0, c :: r) := by
  rw [formulaOffset.eq_def, h]
  dsimp only
  split
  · next heq => cases heq
  · next heq => exact absurd (List.cons.inj heq).1 hplus
  · next heq => exact absurd (List.cons.inj heq).1 hminus
  · rfl

lemma formulaOffset_sheds : Sheds formulaOffset := by
  intro text w n rest ht hw h
  obtain ⟨w', hw', hskip, hnil⟩ := skipBlank_append_padding hw text
  have hnumber := fun negative => formulaNumber_sheds.skip.map (signed negative)
  cases hfront : skipBlank text with
  | nil =>
      rw [formulaOffset, hskip, hfront, hnil hfront] at h
      exact absurd h failAt_ne_ok
  | cons c r =>
      have hr : Closed r := (hfront ▸ ht.skipBlank).of_cons
      rw [hfront, List.cons_append] at hskip
      by_cases hplus : c = '+'
      · subst hplus
        rw [formulaOffset, hskip] at h
        rw [formulaOffset, hfront]
        exact hnumber false r w' n rest hr hw' h
      by_cases hminus : c = '-'
      · subst hminus
        rw [formulaOffset, hskip] at h
        rw [formulaOffset, hfront]
        exact hnumber true r w' n rest hr hw' h
      · rw [formulaOffset_none hskip hplus hminus] at h
        cases h
        exact ⟨c :: r, w', hw', rfl, formulaOffset_none hfront hplus hminus⟩

lemma formulaOfStep_sheds (step : Int64) : Sheds (formulaOfStep step) :=
  formulaOffset_sheds.map (Formula.mk step)

lemma unsignedFormula_blank (negative : Bool) (hc : isBlank c = true) (p : Formula × List Char) :
    unsignedFormula negative (c :: rest) ≠ .ok p := by
  rcases (isBlank_iff c).1 hc with rfl | rfl | rfl | rfl | rfl <;> exact failAt_ne_ok

lemma unsignedFormula_sheds (negative : Bool) : Sheds (unsignedFormula negative) := by
  intro text w f rest ht hw h
  obtain ⟨c, t, rfl⟩ := hw.exists_cons (unsignedFormula negative) (fun _ => failAt_ne_ok)
    (fun _ _ p hc => unsignedFormula_blank negative hc p) h
  rw [List.cons_append, unsignedFormula] at h
  rw [unsignedFormula]
  by_cases hd : c.isDigit = true
  · rw [if_pos hd] at h ⊢
    obtain ⟨⟨n, rest'⟩, hn, h⟩ := bind_eq_ok.1 h
    obtain ⟨r, w', hw', rfl, hr⟩ := formulaNumber_sheds (c :: t) w n rest' ht hw hn
    have hclosed := ht.of_suffix (formulaNumber_takes _ _ _ hr).suffix
    obtain ⟨d, r, rfl⟩ := List.exists_cons_of_ne_nil (formulaNumber_rest_ne_nil ht hr)
    dsimp only [List.cons_append] at h
    by_cases hm : isStepMark d = true
    · rw [if_pos hm] at h
      obtain ⟨r', w'', hw'', rfl, hr'⟩ := formulaOfStep_sheds _ r w' f rest hclosed.of_cons hw' h
      refine ⟨r', w'', hw'', rfl, bind_eq_ok.2 ⟨_, hr, ?_⟩⟩
      dsimp only
      rw [if_pos hm, hr']
    · rw [if_neg hm] at h
      cases h
      exact ⟨d :: r, w', hw', rfl, bind_eq_ok.2 ⟨_, hr, if_neg hm⟩⟩
  · rw [if_neg hd] at h ⊢
    by_cases hm : isStepMark c = true
    · rw [if_pos hm] at h ⊢
      exact formulaOfStep_sheds _ t w f rest ht.of_cons hw h
    · rw [if_neg hm] at h
      exact absurd h failAt_ne_ok

lemma formulaWord_sheds : Sheds formulaWord := by
  intro text w f rest ht hw h
  obtain ⟨⟨word, r'⟩, hn, h⟩ := bind_eq_ok.1 h
  obtain ⟨r, w', hw', rfl, hr⟩ := name_sheds text w word _ ht hw hn
  dsimp only at h
  split at h
  · next f' hf =>
    cases h
    refine ⟨r, w', hw', rfl, bind_eq_ok.2 ⟨_, hr, ?_⟩⟩
    dsimp only
    rw [hf]
  · exact absurd h failAt_ne_ok

lemma formula_blank (hc : isBlank c = true) (p : Formula × List Char) :
    formula (c :: rest) ≠ .ok p := by
  rcases (isBlank_iff c).1 hc with rfl | rfl | rfl | rfl | rfl <;> exact failAt_ne_ok

lemma formula_sheds : Sheds formula := by
  intro text w f rest ht hw h
  obtain ⟨c, t, rfl⟩ := hw.exists_cons formula (fun _ => failAt_ne_ok)
    (fun _ _ p hc => formula_blank hc p) h
  by_cases hminus : c = '-'
  · subst hminus
    exact unsignedFormula_sheds true t w f rest ht.of_cons hw h
  by_cases hplus : c = '+'
  · subst hplus
    exact unsignedFormula_sheds false t w f rest ht.of_cons hw h
  have hfirst : ∀ u, formula (c :: u) =
      if c.isDigit || isStepMark c then unsignedFormula false (c :: u)
      else if "oOeE".toList.contains c then formulaWord (c :: u)
      else failAt .unexpectedToken (c :: u) := by
    intro u
    rw [formula]
    · exact hminus
    · exact hplus
  rw [List.cons_append, hfirst] at h
  rw [hfirst]
  by_cases hd : (c.isDigit || isStepMark c) = true
  · rw [if_pos hd] at h ⊢
    exact unsignedFormula_sheds false _ w f rest ht hw h
  rw [if_neg hd] at h ⊢
  by_cases hword : "oOeE".toList.contains c = true
  · rw [if_pos hword] at h ⊢
    exact formulaWord_sheds _ w f rest ht hw h
  · rw [if_neg hword] at h
    exact absurd h failAt_ne_ok

end MarkupQuery.Query
