import MarkupQuery.Proofs.Query.Continuation

/-!
Words with a tail behind them.

* `escape_extends`: a numeric escape that ends the text takes one blank of the tail at most.
* `name_extends`, `identifier_extends`: a name ends where it ended before if the tail is apart.
* `quotedString_append`: a closed string does not look at the tail at all.
-/

namespace MarkupQuery.Query

variable {text rest tail tail' : List Char}

/-! ### Escapes -/

lemma isNameChar_of_isHexDigit {c : Char} (h : isHexDigit c = true) : isNameChar c = true := by
  have hlower (h₁ : 'a' ≤ c) (h₂ : c ≤ 'f') : c.isAlpha = true := by
    have h₃ : c ≤ 'z' := Char.le_trans h₂ (by decide)
    have hc : c.isLower = true := Bool.and_eq_true_iff.2 ⟨decide_eq_true h₁, decide_eq_true h₃⟩
    exact Bool.or_eq_true_iff.2 (.inr hc)
  have hupper (h₁ : 'A' ≤ c) (h₂ : c ≤ 'F') : c.isAlpha = true := by
    have h₃ : c ≤ 'Z' := Char.le_trans h₂ (by decide)
    have hc : c.isUpper = true := decide_eq_true ⟨h₁, h₃⟩
    exact Bool.or_eq_true_iff.2 (.inl hc)
  rw [isHexDigit] at h
  simp only [Bool.or_eq_true, Bool.and_eq_true, decide_eq_true_eq] at h
  rw [isNameChar, isNameStart]
  rcases h with (h | ⟨h₁, h₂⟩) | ⟨h₁, h₂⟩
  · simp [h]
  · simp [hlower h₁ h₂]
  · simp [hupper h₁ h₂]

lemma Separator.not_isHexDigit {c : Char} (h : Separator c) : isHexDigit c = false := by
  by_contra hc
  have hn := isNameChar_of_isHexDigit (Bool.of_not_eq_false hc)
  rw [h.not_nameChar] at hn
  cases hn

/-- The first `n` characters, as far as they are digits, stay if the tail goes on with none. -/
lemma takeWhile_take_append {p : Char → Bool} {n : ℕ}
    (h : text.drop ((text.take n).takeWhile p).length = [] → ∀ c r, tail = c :: r → p c = false) :
    ((text ++ tail).take n).takeWhile p = (text.take n).takeWhile p := by
  induction text generalizing n with
  | nil =>
      rw [List.nil_append, List.take_nil, List.takeWhile_nil]
      cases n with
      | zero => rfl
      | succ n =>
          cases tail with
          | nil => rfl
          | cons c r =>
              have hc : p c = false := h (by simp) c r rfl
              rw [List.take_succ_cons, List.takeWhile_cons, if_neg (by simp [hc])]
  | cons c text ih =>
      cases n with
      | zero => rfl
      | succ n =>
          rw [List.cons_append, List.take_succ_cons, List.take_succ_cons, List.takeWhile_cons,
            List.takeWhile_cons]
          by_cases hc : p c = true
          · rw [if_pos hc, if_pos hc]
            rw [List.take_succ_cons, List.takeWhile_cons, if_pos hc, List.length_cons,
              List.drop_succ_cons] at h
            rw [ih h]
          · rw [if_neg hc, if_neg hc]

lemma length_escapeDigits_le (text : List Char) : (escapeDigits text).length ≤ text.length := by
  have h₁ := (List.takeWhile_prefix isHexDigit (l := text.take 6)).length_le
  have h₂ := List.length_take_le' 6 text
  rw [escapeDigits]
  omega

lemma dropTerminator_cons {c : Char} {r : List Char} (h : c ≠ '\r') :
    dropTerminator (c :: r) = if isBlank c then r else c :: r := by
  rw [dropTerminator.eq_def]
  split
  · rename_i heq
    exact absurd (List.cons.inj heq).1 h
  · rename_i heq
    obtain ⟨rfl, rfl⟩ := List.cons.inj heq
    rfl
  · contradiction

lemma dropTerminator_return {r : List Char} (h : ∀ r', r ≠ '\n' :: r') :
    dropTerminator ('\r' :: r) = r := by
  rw [dropTerminator.eq_def]
  split
  · rename_i heq
    exact absurd (List.cons.inj heq).2 (h _)
  · rename_i heq
    obtain ⟨rfl, rfl⟩ := List.cons.inj heq
    rw [if_pos (by decide)]
  · contradiction

lemma dropTerminator_extends (tail text : List Char) :
    Extends dropTerminator id tail text (dropTerminator text) := by
  rcases text with _ | ⟨c, _ | ⟨d, r⟩⟩
  · exact ⟨dropTerminator tail, .inr ⟨rfl, rfl⟩, rfl⟩
  · by_cases hc : c = '\r'
    · subst hc
      by_cases hlf : ∃ r, tail = '\n' :: r
      · -- the line feed goes with the carriage return before it, or else as a blank of its own
        obtain ⟨r, rfl⟩ := hlf
        exact ⟨r, .inr ⟨rfl, rfl⟩, rfl⟩
      · exact .exact (dropTerminator_return fun r heq => hlf ⟨r, heq⟩)
    · refine .exact ?_
      rw [List.singleton_append, dropTerminator_cons hc, dropTerminator_cons hc]
      split <;> rfl
  · refine .exact ?_
    by_cases hc : c = '\r'
    · subst hc
      by_cases hd : d = '\n'
      · subst hd
        rfl
      · have hne : ∀ s r', d :: s ≠ '\n' :: r' := fun s r' heq => hd (List.cons.inj heq).1
        rw [List.cons_append, List.cons_append, dropTerminator_return (hne _),
          dropTerminator_return (hne _)]
        rfl
    · rw [List.cons_append, dropTerminator_cons hc, dropTerminator_cons hc]
      split <;> rfl

lemma escape_cons {c : Char} {r : List Char} (h : isNewline c = false) :
    escape ('\\' :: c :: r) =
      if isHexDigit c then
        .ok (charOfNumber (hexNumber (escapeDigits (c :: r))),
          dropTerminator ((c :: r).drop (escapeDigits (c :: r)).length))
      else .ok (c, r) := by
  rw [escape, if_neg (by simp [h])]

lemma escape_eq_ok {a : Char} (h : escape text = .ok (a, rest)) :
    ∃ c r, text = '\\' :: c :: r ∧ isNewline c = false := by
  unfold escape at h
  split at h
  · next c r =>
    split at h
    · exact absurd h failAt_ne_ok
    · next hc => exact ⟨c, r, rfl, Bool.not_eq_true _ ▸ hc⟩
  · exact absurd h failAt_ne_ok
  · exact absurd h failAt_ne_ok

/-- A numeric escape that ends the text takes one blank of the tail at most, and no other escape
looks at the tail. -/
theorem escape_extends {a : Char} (h : escape text = .ok (a, rest)) (ht : rest = [] → Apart tail) :
    Extends escape (fun y => .ok (a, y)) tail text rest := by
  obtain ⟨c, r, rfl, hc⟩ := escape_eq_ok h
  rw [escape_cons hc] at h
  by_cases hx : isHexDigit c = true
  · rw [if_pos hx] at h
    cases h
    have hdigits : escapeDigits (c :: r ++ tail) = escapeDigits (c :: r) := by
      refine takeWhile_take_append fun hnil d r' heq => ?_
      have hs := (ht (by rw [escapeDigits, hnil]; rfl)).whole
      rw [heq] at hs
      exact hs.not_isHexDigit
    refine (dropTerminator_extends tail _).comp fun x hx' => ?_
    rw [List.cons_append, List.cons_append, escape_cons hc, if_pos hx, ← List.cons_append, hdigits,
      List.drop_append_of_le_length (length_escapeDigits_le _), hx']
    rfl
  · rw [if_neg hx] at h
    cases h
    refine .exact ?_
    rw [List.cons_append, List.cons_append, escape_cons hc, if_neg hx]

/-! ### Names -/

lemma nameChar_cons_eq_none {c : Char} {r : List Char} :
    nameChar (c :: r) = .ok none ↔ isNameChar c = false ∧ c ≠ '\\' := by
  rw [nameChar]
  by_cases hc : isNameChar c = true
  · rw [if_pos hc]
    simp [hc]
  · rw [if_neg hc]
    by_cases hb : c = '\\'
    · rw [if_pos hb, Rule.found]
      cases escape (c :: r) <;> simp [Except.map, hb]
    · rw [if_neg hb]
      simp [hc, hb]

lemma nameChar_extends {c : Char} (h : nameChar text = .ok (some (c, rest)))
    (ht : rest = [] → Apart tail) :
    Extends nameChar (fun y => .ok (some (c, y))) tail text rest := by
  match text with
  | [] => cases h
  | d :: r =>
      rw [nameChar] at h
      by_cases hd : isNameChar d = true
      · rw [if_pos hd] at h
        cases h
        refine .exact ?_
        rw [List.cons_append, nameChar, if_pos hd]
      · rw [if_neg hd] at h
        by_cases hb : d = '\\'
        · rw [if_pos hb] at h
          refine (escape_extends (found_eq_ok.1 h) ht).comp fun x hx => ?_
          rw [List.cons_append, nameChar, if_neg hd, if_pos hb, ← List.cons_append]
          exact found_eq_ok.2 hx
        · rw [if_neg hb] at h
          cases h

lemma nameChars_extends {chars : List Char} (h : many nameChar text = .ok (chars, rest))
    (ht : rest = [] → Apart tail) :
    Extends (many nameChar) (fun y => .ok (chars, y)) tail text rest := by
  refine many_extends nameChar_shrinks rfl h ?_ ?_
  · intro t c r _ _ hc hr
    exact nameChar_extends hc (of_next rfl ht hr)
  · refine stop_of_head ?_ ?_ (many_stop nameChar_shrinks h) ht
    · intro c r r' hc
      exact nameChar_cons_eq_none.2 (nameChar_cons_eq_none.1 hc)
    · intro c r hs
      exact nameChar_cons_eq_none.2 ⟨hs.not_nameChar, hs.ne_backslash⟩

/-- Name characters are read as they are, up to what is none. -/
lemma name_of_nameChars {c : Char} {chars : List Char}
    (hc : (c :: chars).all isNameChar = true) (hstop : nameChar rest = .ok none) :
    name (c :: chars ++ rest) = .ok (String.ofList (c :: chars), rest) := by
  have hmany : ∀ l : List Char, (∀ d ∈ l, isNameChar d = true) →
      many nameChar (l ++ rest) = .ok (l, rest) := by
    intro l hl
    induction l with
    | nil => exact many_of_stop nameChar_shrinks hstop
    | cons d l ih =>
        have hd : nameChar (d :: (l ++ rest)) = .ok (some (d, l ++ rest)) := by
          rw [nameChar, if_pos (hl d List.mem_cons_self)]
        rw [List.cons_append, many_of_found nameChar_shrinks hd,
          ih fun e he => hl e (List.mem_cons_of_mem _ he)]
        rfl
  exact bind_eq_ok.2 ⟨_, hmany _ (List.all_eq_true.1 hc), rfl⟩

/-- A name ends where it ended before. -/
theorem name_extends {s : String} (h : name text = .ok (s, rest)) (ht : rest = [] → Apart tail) :
    Extends name (fun y => .ok (s, y)) tail text rest := by
  obtain ⟨⟨chars, r⟩, hm, h⟩ := bind_eq_ok.1 h
  dsimp only at h
  by_cases hc : chars.isEmpty = true
  · rw [if_pos hc] at h
    exact absurd h failAt_ne_ok
  · rw [if_neg hc] at h
    cases h
    refine (nameChars_extends hm ht).comp fun x hx => bind_eq_ok.2 ⟨_, hx, ?_⟩
    exact if_neg hc

lemma startsWord_append (h : startsWord text = true) : startsWord (text ++ tail) = true := by
  cases text with
  | nil => cases h
  | cons c r => exact h

lemma identifier_hyphen (r : List Char) :
    identifier ('-' :: r) =
      if startsWord r then (name r).map fun p => ("-" ++ p.1, p.2)
      else failAt .expectedIdentifier r := by
  rw [identifier]

lemma identifier_word (h : ∀ r, text ≠ '-' :: r) :
    identifier text = if startsWord text then name text else failAt .expectedIdentifier text := by
  rw [identifier.eq_def]
  split
  · exact absurd rfl (h _)
  · rfl

/-- An identifier ends where it ended before. -/
theorem identifier_extends {s : String} (h : identifier text = .ok (s, rest))
    (ht : rest = [] → Apart tail) :
    Extends identifier (fun y => .ok (s, y)) tail text rest := by
  by_cases hy : ∃ r, text = '-' :: r
  · obtain ⟨r, rfl⟩ := hy
    rw [identifier_hyphen] at h
    by_cases hw : startsWord r = true
    · rw [if_pos hw] at h
      obtain ⟨⟨word, r'⟩, hn, heq⟩ := map_eq_ok.1 h
      cases heq
      refine (name_extends hn ht).comp fun x hx => ?_
      rw [List.cons_append, identifier_hyphen, if_pos (startsWord_append hw), hx]
      rfl
    · rw [if_neg hw] at h
      exact absurd h failAt_ne_ok
  · rw [identifier_word fun r heq => hy ⟨r, heq⟩] at h
    by_cases hw : startsWord text = true
    · rw [if_pos hw] at h
      refine (name_extends h ht).comp fun x hx => ?_
      have hne : ∀ r, text ++ tail ≠ '-' :: r := by
        intro r heq
        cases text with
        | nil => cases hw
        | cons c r' => exact hy ⟨r', by rw [(List.cons.inj heq).1]⟩
      rw [identifier_word hne, if_pos (startsWord_append hw), hx]
    · rw [if_neg hw] at h
      exact absurd h failAt_ne_ok

/-! ### Strings -/

section

variable {quote : Char}

lemma stringPart_eq_none {c : Char} {r : List Char} (h : stringPart quote (c :: r) = .ok none) :
    c = quote := by
  by_contra hq
  rw [stringPart.eq_def] at h
  dsimp only at h
  rw [if_neg hq] at h
  split at h
  · split at h
    · cases h
    · split at h
      · cases h
      · obtain ⟨p, _, hp⟩ := map_eq_ok.1 h
        cases hp
    · obtain ⟨p, _, hp⟩ := map_eq_ok.1 h
      cases hp
  · split at h
    · exact absurd h failAt_ne_ok
    · cases h

lemma stringPart_quote (r : List Char) : stringPart quote (quote :: r) = .ok none := by
  rw [stringPart.eq_def]
  exact if_pos rfl

/-- A line end behind a backslash counts as two characters only if both are there. -/
lemma stringPart_newline (hq : '\\' ≠ quote) {d : Char} {r : List Char} (hd : isNewline d = true)
    (hne : ∀ r', d :: r ≠ '\r' :: '\n' :: r') :
    stringPart quote ('\\' :: d :: r) = .ok (some ([], r)) := by
  rw [stringPart.eq_def]
  dsimp only
  rw [if_neg hq, if_pos rfl]
  split
  · rename_i heq
    exact absurd heq (hne _)
  · rename_i heq
    obtain ⟨rfl, rfl⟩ := List.cons.inj heq
    rw [if_pos hd]
  · contradiction

lemma stringPart_escape (hq : '\\' ≠ quote) {d : Char} {r : List Char}
    (hd : isNewline d = false) :
    stringPart quote ('\\' :: d :: r) =
      (escape ('\\' :: d :: r)).map fun p => some ([p.1], p.2) := by
  rw [stringPart.eq_def]
  dsimp only
  rw [if_neg hq, if_pos rfl]
  split
  · rename_i heq
    rw [(List.cons.inj heq).1] at hd
    cases hd
  · rename_i heq
    obtain ⟨rfl, rfl⟩ := List.cons.inj heq
    rw [if_neg (by simp [hd])]
  · contradiction

/-- A part of a string that something follows does not look at the tail. -/
lemma stringPart_append {part : List Char} (h : stringPart quote text = .ok (some (part, rest)))
    (hr : rest ≠ []) : stringPart quote (text ++ tail) = .ok (some (part, rest ++ tail)) := by
  match text with
  | [] => cases h
  | c :: r =>
      by_cases hq : c = quote
      · subst hq
        rw [stringPart_quote] at h
        cases h
      by_cases hb : c = '\\'
      · subst hb
        match r with
        | [] =>
            rw [stringPart.eq_def] at h
            dsimp only at h
            rw [if_neg hq, if_pos rfl] at h
            cases h
        | d :: r =>
            by_cases hd : isNewline d = true
            · by_cases hcr : ∃ r', d :: r = '\r' :: '\n' :: r'
              · obtain ⟨r', heq⟩ := hcr
                obtain ⟨rfl, rfl⟩ := List.cons.inj heq
                rw [stringPart, if_neg hq, if_pos rfl] at h
                cases h
                simp only [List.cons_append]
                rw [stringPart, if_neg hq, if_pos rfl]
              · rw [stringPart_newline hq hd fun r' heq => hcr ⟨r', heq⟩] at h
                cases h
                refine stringPart_newline hq hd fun r' heq => ?_
                -- the next character is there already, so the tail cannot complete a line end
                cases rest with
                | nil => exact hr rfl
                | cons e r =>
                    simp only [List.append_eq, List.cons_append, List.cons.injEq] at heq
                    exact hcr ⟨r, by rw [heq.1, heq.2.1]⟩
            · rw [stringPart_escape hq (Bool.not_eq_true _ ▸ hd)] at h
              obtain ⟨⟨e, r'⟩, he, heq⟩ := map_eq_ok.1 h
              cases heq
              have hext := eq_of_extends tail hr (escape_extends he)
              rw [List.cons_append, List.cons_append,
                stringPart_escape hq (Bool.not_eq_true _ ▸ hd), ← List.cons_append,
                ← List.cons_append, hext]
              rfl
      · rw [stringPart.eq_def] at h
        dsimp only at h
        rw [if_neg hq, if_neg hb] at h
        by_cases hn : isNewline c = true
        · rw [if_pos hn] at h
          exact absurd h failAt_ne_ok
        · rw [if_neg hn] at h
          cases h
          rw [List.cons_append, stringPart.eq_def]
          dsimp only
          rw [if_neg hq, if_neg hb, if_neg hn]

end

/-- A closed string is read whatever stands behind it. -/
theorem quotedString_append {s : String} (h : quotedString text = .ok (s, rest)) :
    quotedString (text ++ tail) = .ok (s, rest ++ tail) := by
  rw [quotedString.eq_def] at h
  split at h
  · next quote c r =>
    by_cases hq : isQuote quote = true
    · rw [if_pos hq] at h
      obtain ⟨⟨parts, r'⟩, hm, h⟩ := bind_eq_ok.1 h
      cases r' with
      | nil => exact absurd h failAt_ne_ok
      | cons q r' =>
          cases h
          have hstop := many_stop (stringPart_shrinks quote) hm
          have hquote := stringPart_eq_none hstop
          have hparts : Extends (many (stringPart quote)) (fun y => .ok (parts, y)) tail (c :: r)
              (q :: rest) := by
            refine many_extends (stringPart_shrinks quote) rfl hm ?_ ?_
            · intro t part u _ _ hu hnext
              have hne : u ≠ [] := by
                rintro rfl
                rcases hnext with heq | hne
                · cases heq
                · exact hne rfl
              exact .exact (stringPart_append hu hne)
            · intro tail' _
              rw [List.cons_append, hquote]
              exact stringPart_quote _
          rw [List.cons_append, List.cons_append, quotedString, if_pos hq, ← List.cons_append]
          exact bind_eq_ok.2 ⟨_, hparts.eq (List.cons_ne_nil _ _), rfl⟩
    · rw [if_neg hq] at h
      exact absurd h failAt_ne_ok
  · exact absurd h failAt_ne_ok

/-- A string or an identifier ends where it ended before. -/
theorem stringOrIdentifier_extends {s : String} (h : stringOrIdentifier text = .ok (s, rest))
    (ht : rest = [] → Apart tail) :
    Extends stringOrIdentifier (fun y => .ok (s, y)) tail text rest := by
  match text with
  | [] => exact absurd h failAt_ne_ok
  | c :: r =>
      rw [stringOrIdentifier] at h
      by_cases hq : isQuote c = true
      · rw [if_pos hq] at h
        refine .exact ?_
        rw [List.cons_append, stringOrIdentifier, if_pos hq]
        exact quotedString_append h
      · rw [if_neg hq] at h
        refine (identifier_extends h ht).comp fun x hx => ?_
        rw [List.cons_append, stringOrIdentifier, if_neg hq, ← List.cons_append, hx]

end MarkupQuery.Query
