import Mathlib.Tactic
import MarkupQuery.Proofs.Query.Composition
import MarkupQuery.Proofs.Query.Spelling
import MarkupQuery.Proofs.Selector.Normal

/-!
Texts for words, formulas and qualifiers.

For each thing that may stand in a compound there is a text that is read as that thing wherever it
stands. Every character of a word is written as an escape, so that no word looks like anything else
(`written`).

* `identifier_written`, `stringOrIdentifier_writtenString`: words are read back;
* `formula_writtenFormula`: so are formulas;
* `Writes`: the text is read as the qualifier in front of anything that does not go on with a name;
* `writes_present`, `writes_operator`, `writes_pseudoClass`, `writes_wrapped`: a text for each kind
  of qualifier;
* `exists_writes_test`: one for each test but those for tags and patterns.
-/

namespace MarkupQuery.Query

variable {engine : Engine} {word : String} {text tail : List Char} {s : Selector}

/-! ### Words -/

/-- An escape for the character. What may not stand behind a backslash is written as a number. -/
def writtenChar (c : Char) : List Char :=
  if isHexDigit c || isNewline c then '\\' :: (Nat.toDigits 16 c.toNat ++ [' ']) else ['\\', c]

/-- The word with an escape for each of its characters. -/
def written (word : String) : List Char :=
  word.toList.flatMap writtenChar

/-- The word between quotes. -/
def writtenString (word : String) : List Char :=
  '"' :: (written word ++ ['"'])

/-- The characters that need a number have a short one. -/
lemma standsFor_toDigits {c : Char} (h : (isHexDigit c || isNewline c) = true) :
    (Nat.toDigits 16 c.toNat).length ≤ 6 ∧ (Nat.toDigits 16 c.toNat).all isHexDigit = true ∧
      StandsFor (numberOf (Nat.toDigits 16 c.toNat)) c := by
  have hle : c.toNat ≤ 102 := by
    rcases Bool.or_eq_true_iff.1 h with h | h
    · exact toNat_le_of_isHexDigit h
    · simp only [isNewline, Bool.or_eq_true, beq_iff_eq] at h
      rcases h with (rfl | rfl) | rfl <;> decide
  have hall : ∀ n ≤ 102, (isHexDigit (Char.ofNat n) || isNewline (Char.ofNat n)) = true →
      (Nat.toDigits 16 (Char.ofNat n).toNat).length ≤ 6 ∧
        (Nat.toDigits 16 (Char.ofNat n).toNat).all isHexDigit = true ∧
        StandsFor (numberOf (Nat.toDigits 16 (Char.ofNat n).toNat)) (Char.ofNat n) := by
    decide +kernel
  have := hall c.toNat hle
  rw [Char.ofNat_toNat] at this
  exact this h

lemma spells_writtenChar (literal : Char → Bool) (c : Char) :
    Spells literal (writtenChar c) c := by
  rw [writtenChar]
  split
  · next h =>
    obtain ⟨hlen, hx, hc⟩ := standsFor_toDigits h
    exact .numeric Nat.toDigits_ne_nil hlen (List.all_eq_true.1 hx) List.mem_cons_self hc
  · next h =>
    simp only [Bool.or_eq_true, not_or, Bool.not_eq_true] at h
    exact .escaped h.1 h.2

lemma spelling_written (literal : Char → Bool) (skipped : List (List Char)) (word : String) :
    Spelling literal skipped (written word) word.toList := by
  rw [written]
  generalize word.toList = chars
  induction chars with
  | nil => exact .nil
  | cons c chars ih => exact .cons (spells_writtenChar literal c) ih

lemma written_first (h : word ≠ "") : ∃ r, written word = '\\' :: r := by
  obtain ⟨c, r, hcr⟩ := List.exists_cons_of_ne_nil (by simpa using h : word.toList ≠ [])
  rw [written, hcr, List.flatMap_cons, writtenChar]
  split <;> exact ⟨_, rfl⟩

lemma getLast?_writtenChar_ne (c : Char) : (writtenChar c).getLast? ≠ some '\r' := by
  rw [writtenChar]
  split
  · rw [← List.cons_append, List.getLast?_concat]
    simp
  · next h =>
    rintro ⟨⟩
    exact h rfl

/-- What is written ends in no half of a line end. -/
lemma cleanCut_written (word : String) (rest : List Char) : CleanCut (written word) rest := by
  intro hlast
  rw [written] at hlast
  rcases List.eq_nil_or_concat' word.toList with hnil | ⟨front, c, hconcat⟩
  · rw [hnil] at hlast
    cases hlast
  · rw [hconcat, List.flatMap_append, List.flatMap_singleton, List.getLast?_append,
      Option.or_eq_some_iff] at hlast
    rcases hlast with hlast | ⟨hnone, _⟩
    · exact absurd hlast (getLast?_writtenChar_ne c)
    · rw [List.getLast?_eq_none_iff, writtenChar] at hnone
      split at hnone <;> cases hnone

/-- **A word is read back**, whatever its characters are. -/
theorem identifier_written (hne : word ≠ "") (ht : EndsName tail) :
    identifier (written word ++ tail) = .ok (word, tail) := by
  obtain ⟨r, hr⟩ := written_first hne
  have hbegins : BeginsName (written word) := by
    rw [hr]
    exact ⟨'\\', rfl, .inl rfl⟩
  have hword := identifier_spelling (.inl rfl) hbegins (spelling_written isNameChar [] word) ht
    (cleanCut_written word tail)
  rw [String.ofList_toList] at hword
  exact hword

/-- **A string is read back**, whatever stands behind it. -/
theorem stringOrIdentifier_writtenString (word : String) (tail : List Char) :
    stringOrIdentifier (writtenString word ++ tail) = .ok (word, tail) := by
  have hquote : isQuote '"' = true := rfl
  have hstring := quotedString_spelling hquote (spelling_written _ _ word) tail
  rw [String.ofList_toList] at hstring
  rw [writtenString, List.cons_append, List.append_assoc, stringOrIdentifier, if_pos hquote]
  exact hstring

lemma skipBlank_written (hne : word ≠ "") (tail : List Char) :
    skipBlank (written word ++ tail) = written word ++ tail := by
  obtain ⟨r, hr⟩ := written_first hne
  rw [hr, List.cons_append, skipBlank_cons rfl (by simp)]

lemma skipBlank_writtenString (word : String) (tail : List Char) :
    skipBlank (writtenString word ++ tail) = writtenString word ++ tail := by
  rw [writtenString, List.cons_append, skipBlank_cons rfl (by simp)]

/-! ### Formulas -/

/-- The sign of a number, which is written before positive numbers too. -/
def signMark (negative : Bool) : Char :=
  if negative then '-' else '+'

/-- The number with its sign. -/
def writtenNumber (n : Int64) : List Char :=
  signMark (decide (n.toInt < 0)) :: Nat.toDigits 10 n.toInt.natAbs

/-- The formula with both of its numbers. -/
def writtenFormula (f : Formula) : List Char :=
  writtenNumber f.step ++ 'n' :: writtenNumber f.offset

lemma toDigits_first (n : ℕ) : ∃ d ds, Nat.toDigits 10 n = d :: ds ∧ d.isDigit = true := by
  obtain ⟨d, ds, hds⟩ := List.exists_cons_of_ne_nil (Nat.toDigits_ne_nil (n := n) (b := 10))
  refine ⟨d, ds, hds, Nat.isDigit_of_mem_toDigits (b := 10) (n := n) (by decide) le_rfl ?_⟩
  rw [hds]
  exact List.mem_cons_self

lemma skipBlank_digit {c : Char} (hc : c.isDigit = true) (rest : List Char) :
    skipBlank (c :: rest) = c :: rest := by
  have hblank : isBlank c = false := by
    by_contra hb
    rcases (isBlank_iff c).1 (by simpa using hb) with rfl | rfl | rfl | rfl | rfl <;> cases hc
  refine skipBlank_cons hblank ?_
  rintro rfl
  cases hc

lemma skipBlank_toDigits (n : ℕ) (rest : List Char) :
    skipBlank (Nat.toDigits 10 n ++ rest) = Nat.toDigits 10 n ++ rest := by
  obtain ⟨d, ds, hds, hd⟩ := toDigits_first n
  rw [hds, List.cons_append, skipBlank_digit hd]

/-- A run of digits is read as a number up to its end, unless the number is too large. -/
lemma formulaNumber_digits {digits : List Char} (hne : digits ≠ [])
    (hdigits : ∀ d ∈ digits, d.isDigit = true) (ht : ∀ c ∈ tail.head?, c.isDigit = false) :
    formulaNumber (digits ++ tail) =
      if maxFormulaNumber < decimalNumber digits then failAt .expectedNumber (digits ++ tail)
      else .ok (decimalNumber digits, tail) := by
  have htake : (digits ++ tail).takeWhile Char.isDigit = digits := by
    rw [List.takeWhile_append_of_pos hdigits, List.takeWhile_eq_nil_iff.2, List.append_nil]
    intro hpos
    simpa using ht _ (List.head?_eq_getElem? ▸ List.getElem?_eq_getElem hpos)
  have hdrop : (digits ++ tail).dropWhile Char.isDigit = tail := by
    have := List.takeWhile_append_dropWhile (p := Char.isDigit) (l := digits ++ tail)
    rw [htake] at this
    exact List.append_cancel_left this
  have hempty : digits.isEmpty = false := by simpa using hne
  rw [formulaNumber, htake, hdrop, hempty]
  simp

lemma formulaNumber_toDigits {n : ℕ} (hn : n ≤ 2147483647)
    (ht : ∀ c ∈ tail.head?, c.isDigit = false) :
    formulaNumber (Nat.toDigits 10 n ++ tail) = .ok (n, tail) := by
  have hdigits : ∀ d ∈ Nat.toDigits 10 n, d.isDigit = true := fun d hd =>
    Nat.isDigit_of_mem_toDigits (by decide) le_rfl hd
  have hvalue : decimalNumber (Nat.toDigits 10 n) = n :=
    Nat.ofDigitChars_toDigits (by decide) le_rfl
  have hsmall : ¬ maxFormulaNumber < n := Nat.not_lt.2 hn
  rw [formulaNumber_digits Nat.toDigits_ne_nil hdigits ht, hvalue, if_neg hsmall]

/-- A number is the one of its sign and its size. -/
lemma signed_natAbs (n : Int64) : signed (decide (n.toInt < 0)) n.toInt.natAbs = n := by
  have hint : (if n.toInt < 0 then -(n.toInt.natAbs : ℤ) else n.toInt.natAbs) = n.toInt := by
    split <;> omega
  simp only [signed, decide_eq_true_eq, hint, Int64.ofInt_toInt]

lemma formulaOffset_writtenNumber {n : Int64} (hn : BoundedNumber n)
    (ht : ∀ c ∈ tail.head?, c.isDigit = false) :
    formulaOffset (writtenNumber n ++ tail) = .ok (n, tail) := by
  have hsign (negative : Bool) :
      formulaOffset (signMark negative :: (Nat.toDigits 10 n.toInt.natAbs ++ tail)) =
        .ok (signed negative n.toInt.natAbs, tail) := by
    have hnumber := formulaNumber_toDigits hn ht
    rw [← skipBlank_toDigits] at hnumber
    cases negative with
    | false =>
        rw [formulaOffset, skipBlank_cons rfl (by simp [signMark])]
        exact map_eq_ok.2 ⟨_, hnumber, rfl⟩
    | true =>
        rw [formulaOffset, skipBlank_cons rfl (by simp [signMark])]
        exact map_eq_ok.2 ⟨_, hnumber, rfl⟩
  rw [writtenNumber, List.cons_append, hsign, signed_natAbs]

lemma formula_signMark (negative : Bool) (text : List Char) :
    formula (signMark negative :: text) = unsignedFormula negative text := by
  cases negative <;> rfl

/-- **A formula is read back.** -/
theorem formula_writtenFormula {f : Formula} (hf : f.Bounded)
    (ht : ∀ c ∈ tail.head?, c.isDigit = false) :
    formula (writtenFormula f ++ tail) = .ok (f, tail) := by
  have hstep : formulaNumber
      (Nat.toDigits 10 f.step.toInt.natAbs ++ 'n' :: (writtenNumber f.offset ++ tail)) =
        .ok (f.step.toInt.natAbs, 'n' :: (writtenNumber f.offset ++ tail)) :=
    formulaNumber_toDigits hf.1 (by rintro _ ⟨⟩; rfl)
  have hoffset : formulaOfStep f.step (writtenNumber f.offset ++ tail) = .ok (f, tail) :=
    map_eq_ok.2 ⟨_, formulaOffset_writtenNumber hf.2 ht, rfl⟩
  obtain ⟨d, ds, hds, hd⟩ := toDigits_first f.step.toInt.natAbs
  rw [writtenFormula, List.append_assoc, List.cons_append, writtenNumber, List.cons_append,
    formula_signMark]
  rw [hds, List.cons_append] at hstep ⊢
  rw [unsignedFormula, if_pos hd]
  refine bind_eq_ok.2 ⟨_, hstep, ?_⟩
  dsimp only
  rw [if_pos (show isStepMark 'n' = true from rfl), signed_natAbs, hoffset]

/-! ### Qualifiers -/

/-- The text is read as the qualifier, by any engine and with anything behind it that does not go on
with a name. -/
structure Writes (text : List Char) (s : Selector) : Prop where
  /-- The text begins like a qualifier. -/
  begins : ∃ c r, text = c :: r ∧ beginsQualifier c = true
  /-- All of the text is read, and nothing more. -/
  reads : ∀ engine tail, EndsName tail →
    qualifier engine (selectorList engine) (text ++ tail) = .ok (some (s, tail))

lemma Writes.endsName (h : Writes text s) (tail : List Char) : EndsName (text ++ tail) := by
  obtain ⟨c, r, rfl, hc⟩ := h.begins
  simp only [beginsQualifier, Bool.or_eq_true, beq_iff_eq, or_assoc] at hc
  rw [List.cons_append, endsName_cons]
  rcases hc with rfl | rfl | rfl | rfl <;> decide

/-! #### Attributes -/

/-- The operator as it is written. -/
def TextOperator.symbol : TextOperator → List Char
  | equals => ['=']
  | includes => ['~', '=']
  | dashMatch => ['|', '=']
  | startsWith => ['^', '=']
  | endsWith => ['$', '=']
  | contains => ['*', '=']

lemma operator_symbol (op : TextOperator) (tail : List Char) :
    operator (op.symbol ++ tail) = .ok (.text op, tail) := by
  cases op <;> rfl

lemma symbol_first (op : TextOperator) :
    ∃ c r, op.symbol = c :: r ∧ isBlank c = false ∧ c ≠ '/' ∧ isNameChar c = false ∧
      c ≠ '\\' := by
  cases op <;> exact ⟨_, _, rfl, by decide⟩

lemma closeBracket_close (tail : List Char) : closeBracket (']' :: tail) = .ok tail :=
  closeBracket_eq_ok.2 (skipBlank_cons rfl (by simp))

lemma writes_present (hne : word ≠ "") :
    Writes ('[' :: (written word ++ [']'])) (.withAttribute word .present) := by
  refine ⟨⟨_, _, rfl, rfl⟩, fun engine tail _ => ?_⟩
  have hkey : identifier (skipBlank (written word ++ ']' :: tail)) = .ok (word, ']' :: tail) := by
    rw [skipBlank_written hne]
    exact identifier_written hne (endsName_cons.2 (by decide))
  have hattribute : attributeSelector engine (written word ++ ']' :: tail) =
      .ok (.withAttribute word .present, tail) := by
    refine bind_eq_ok.2 ⟨_, hkey, ?_⟩
    dsimp only
    rw [skipBlank_cons rfl (by simp)]
    rfl
  rw [List.cons_append, List.append_assoc]
  exact found_eq_ok.2 hattribute

lemma writes_operator (op : TextOperator) (operand : String) (hne : word ≠ "") :
    Writes ('[' :: (written word ++ (op.symbol ++ (writtenString operand ++ [']']))))
      (.withAttribute word (op.test operand)) := by
  refine ⟨⟨_, _, rfl, rfl⟩, fun engine tail _ => ?_⟩
  obtain ⟨c, r, hcr, hblank, hslash, hname⟩ := symbol_first op
  have hoperator : operator (skipBlank (op.symbol ++ (writtenString operand ++ ']' :: tail))) =
      .ok (.text op, writtenString operand ++ ']' :: tail) := by
    rw [hcr, List.cons_append, skipBlank_cons hblank hslash, ← List.cons_append, ← hcr]
    exact operator_symbol op _
  have hkey : identifier (skipBlank
      (written word ++ (op.symbol ++ (writtenString operand ++ ']' :: tail)))) =
        .ok (word, op.symbol ++ (writtenString operand ++ ']' :: tail)) := by
    rw [skipBlank_written hne]
    refine identifier_written hne ?_
    rw [hcr]
    exact endsName_cons.2 hname
  have hoperand : Query.operand engine (.text op)
      (skipBlank (writtenString operand ++ ']' :: tail)) = .ok (op.test operand, ']' :: tail) := by
    rw [skipBlank_writtenString]
    exact map_eq_ok.2 ⟨_, stringOrIdentifier_writtenString operand _, rfl⟩
  have hattribute : attributeSelector engine
      (written word ++ (op.symbol ++ (writtenString operand ++ ']' :: tail))) =
        .ok (.withAttribute word (op.test operand), tail) := by
    rw [attributeSelector_of_operator hkey hoperator]
    exact bind_eq_ok.2 ⟨_, hoperand, bind_eq_ok.2 ⟨_, closeBracket_close tail, rfl⟩⟩
  rw [List.cons_append, List.append_assoc, List.append_assoc, List.append_assoc]
  exact found_eq_ok.2 hattribute

/-- A value is tested with an operator, unless it only has to be there or a pattern is asked for. -/
lemma ValueTest.eq_present_or_test {v : ValueTest} (h : v.patternFree = true) :
    v = .present ∨ ∃ op : TextOperator, ∃ operand, v = op.test operand := by
  cases v with
  | present => exact .inl rfl
  | equals s => exact .inr ⟨.equals, s, rfl⟩
  | includes s => exact .inr ⟨.includes, s, rfl⟩
  | dashMatch s => exact .inr ⟨.dashMatch, s, rfl⟩
  | startsWith s => exact .inr ⟨.startsWith, s, rfl⟩
  | endsWith s => exact .inr ⟨.endsWith, s, rfl⟩
  | contains s => exact .inr ⟨.contains, s, rfl⟩
  | pattern => cases h

/-! #### Pseudo-classes -/

/-- A pseudo-class is written as its name and a text for its argument. -/
lemma writes_pseudoClass {argument : List Char} {p : PseudoClass}
    (hp : PseudoClass.ofName? (lowercase word) = some p)
    (harg : ∀ engine tail, EndsName tail → EndsName (argument ++ tail) ∧
      p.argument engine (selectorList engine) (argument ++ tail) = .ok (s, tail)) :
    Writes (':' :: (written word ++ argument)) s := by
  have hne : word ≠ "" := by
    rintro rfl
    cases hp
  refine ⟨⟨_, _, rfl, rfl⟩, fun engine tail ht => ?_⟩
  obtain ⟨hends, hread⟩ := harg engine tail ht
  have hclass : pseudoClass engine (selectorList engine) (written word ++ (argument ++ tail)) =
      .ok (s, tail) := by
    refine bind_eq_ok.2 ⟨_, identifier_written hne hends, ?_⟩
    dsimp only
    rw [hp]
    exact hread
  rw [List.cons_append, List.append_assoc]
  exact found_eq_ok.2 hclass

/-- A pseudo-class with something in parentheses. -/
lemma writes_parenthesized {α : Type} {p : PseudoClass} {rule : Rule α} {a : α} (f : α → Selector)
    (hp : PseudoClass.ofName? (lowercase word) = some p)
    (harg : ∀ engine nested text, p.argument engine nested text =
      (parenthesized rule text).map fun v => (f v.1, v.2))
    (hrule : ∀ tail, rule (skipBlank (text ++ ')' :: tail)) = .ok (a, ')' :: tail)) :
    Writes (':' :: (written word ++ '(' :: (text ++ [')']))) (f a) := by
  refine writes_pseudoClass hp fun engine tail _ => ?_
  rw [List.cons_append, List.append_assoc, harg]
  exact ⟨endsName_cons.2 (by decide), map_eq_ok.2 ⟨_, parenthesized_of_close (hrule tail), rfl⟩⟩

/-- A pseudo-class without parentheses. -/
lemma writes_plain (word : String) {test : Test}
    (hp : PseudoClass.ofName? (lowercase word) = some (.plain test)) :
    Writes (':' :: (written word ++ [])) (.simple test) :=
  writes_pseudoClass hp fun _ _ ht => ⟨ht, rfl⟩

/-- A pseudo-class with a list of selectors. -/
lemma writes_wrapped (w : Wrapper) (h : ∀ engine, selectorList engine text = .ok (s, []))
    (hfree : s.patternFree = true) :
    Writes (':' :: (w.word ++ '(' :: (text ++ [')']))) (w.wrap s) := by
  refine ⟨⟨_, _, rfl, rfl⟩, fun engine tail _ => ?_⟩
  rw [List.cons_append, List.append_assoc, List.cons_append, List.append_assoc]
  exact qualifier_wrapped w (h engine) (spares_of_patternFree engine _ hfree)

/-! #### Tests -/

/-- The name of a pseudo-class that takes a formula. -/
def nthName (last ofType : Bool) : String :=
  "nth-" ++ (if last then "last-" else "") ++ (if ofType then "of-type" else "child")

lemma ofName?_nthName (last ofType : Bool) :
    PseudoClass.ofName? (lowercase (nthName last ofType)) = some (.nthChild last ofType) := by
  cases last <;> cases ofType <;> rfl

lemma exists_writes_nthChild {f : Formula} (hf : f.Bounded) (last ofType : Bool) :
    ∃ text, Writes text (.nthChild f last ofType) := by
  have hrule (tail : List Char) :
      formula (skipBlank (writtenFormula f ++ ')' :: tail)) = .ok (f, ')' :: tail) := by
    have hfirst :
        skipBlank (writtenFormula f ++ ')' :: tail) = writtenFormula f ++ ')' :: tail := by
      rw [writtenFormula, writtenNumber, signMark]
      split <;> exact skipBlank_cons rfl (by simp)
    rw [hfirst]
    exact formula_writtenFormula hf (by rintro _ ⟨⟩; rfl)
  exact ⟨_, writes_parenthesized (fun f => .nthChild f last ofType) (ofName?_nthName last ofType)
    (fun _ _ _ => rfl) hrule⟩

lemma exists_writes_containing (needle : String) (own : Bool) :
    ∃ text, Writes text (.containing needle own) := by
  have hrule (tail : List Char) :
      stringOrIdentifier (skipBlank (writtenString needle ++ ')' :: tail)) =
        .ok (needle, ')' :: tail) := by
    rw [skipBlank_writtenString]
    exact stringOrIdentifier_writtenString needle _
  have hname : ∃ word, PseudoClass.ofName? (lowercase word) = some (.contains own) := by
    cases own with
    | false => exact ⟨"contains", rfl⟩
    | true => exact ⟨"containsown", rfl⟩
  obtain ⟨word, hp⟩ := hname
  exact ⟨_, writes_parenthesized (fun s => .containing s own) hp (fun _ _ _ => rfl) hrule⟩

lemma exists_writes_withAttribute {v : ValueTest} (hne : word ≠ "") (hv : v.patternFree = true) :
    ∃ text, Writes text (.withAttribute word v) := by
  rcases ValueTest.eq_present_or_test hv with rfl | ⟨op, operand, rfl⟩
  · exact ⟨_, writes_present hne⟩
  · exact ⟨_, writes_operator op operand hne⟩

/-- **Each test that a qualifier may ask for can be written**, patterns apart. -/
theorem exists_writes_test {accepted : Pattern → Prop} {t : Test} (h : t.Qualifies accepted)
    (hfree : t.patternFree = true) : ∃ text, Writes text (.simple t) := by
  cases t with
  | tag => exact h.elim
  | hasAttribute name v =>
      obtain ⟨⟨word, hne, rfl⟩, _⟩ := h
      exact exists_writes_withAttribute hne hfree
  | nthChild f last ofType => exact exists_writes_nthChild h last ofType
  | onlyChild ofType =>
      cases ofType with
      | false => exact ⟨_, writes_plain "only-child" rfl⟩
      | true => exact ⟨_, writes_plain "only-of-type" rfl⟩
  | empty => exact ⟨_, writes_plain "empty" rfl⟩
  | input => exact ⟨_, writes_plain "input" rfl⟩
  | root => exact ⟨_, writes_plain "root" rfl⟩
  | link => exact ⟨_, writes_plain "link" rfl⟩
  | enabled => exact ⟨_, writes_plain "enabled" rfl⟩
  | disabled => exact ⟨_, writes_plain "disabled" rfl⟩
  | contains needle own =>
      obtain ⟨text, rfl⟩ := h
      exact exists_writes_containing text own
  | textMatches => cases hfree

end MarkupQuery.Query
