import Mathlib
import MarkupQuery.Proofs.Query.Bounds
import MarkupQuery.Proofs.Query.Trailing
import MarkupQuery.Proofs.Query.Writing
import MarkupQuery.Proofs.Text.Lowercase
import MarkupQuery.Text.SameName

/-!
The ways to write a formula.

A number may have zeros in front, a sign may be left out before a positive number, and so may the
number one before the mark of the step, and the offset where it is zero. Blanks and comments may
stand around the whole and around the sign of the offset. `FormulaText` is a formula as it is
written, with the two integers that it says (`step`, `offset`) and the numbers in it (`numbers`).

* `formulaNumber_text`: digits are read as their number, or are too large a number;
* `formula_text`: a formula is read as what is written;
* `formula_text_tooLarge`: or the first number that is too large is what is wrong with it;
* `compileWith_nthQuery`: the same about the four pseudo-classes that take a formula.
-/

namespace MarkupQuery.Query

variable {engine : Engine} {tail lead trail r : List Char}

/-! ### Formulas as they are written -/

/-- The digits of a number, perhaps behind zeros. -/
structure Digits where
  /-- How many zeros stand in front. -/
  zeros : ℕ
  /-- The number. -/
  number : ℕ

/-- The digits one after the other. -/
def Digits.text (d : Digits) : List Char :=
  List.replicate d.zeros '0' ++ Nat.toDigits 10 d.number

/-- The integer of a sign and a size. -/
def withSign (negative : Bool) (n : ℕ) : ℤ :=
  if negative then -n else n

/-- The offset behind a step: its sign, blanks and comments around that, and its digits. -/
structure OffsetText where
  /-- What stands before the sign. -/
  before : List Char
  /-- Whether the sign is a minus. -/
  negative : Bool
  /-- What stands behind the sign. -/
  after : List Char
  /-- The digits. -/
  digits : Digits
  /-- Nothing but blanks and comments stands before the sign. -/
  blanks_before : Blanks before
  /-- Nothing but blanks and comments stands behind the sign. -/
  blanks_after : Blanks after

namespace OffsetText

/-- The part before the digits. -/
def front (o : OffsetText) : List Char :=
  o.before ++ signMark o.negative :: o.after

/-- The offset as it is written. -/
def text (o : OffsetText) : List Char :=
  o.front ++ o.digits.text

/-- The integer that is written. -/
def value (o : OffsetText) : ℤ :=
  withSign o.negative o.digits.number

end OffsetText

/-- The sign in front of a formula, if there is one. -/
def signText : Option Bool → List Char
  | none => []
  | some negative => [signMark negative]

/-- A formula as it is written. A sign in front is a minus where it is `true`. -/
inductive FormulaText where
  /-- `odd` or `even` in letters of any case. -/
  | word (isOdd : Bool) (letters : String)
      (spelled : sameName letters (if isOdd then "odd" else "even") = true)
  /-- A number alone. -/
  | number (sign : Option Bool) (digits : Digits)
  /-- A step, of which the digits may be left out for one, and perhaps an offset. -/
  | steps (sign : Option Bool) (digits : Option Digits) (mark : Char)
      (isMark : isStepMark mark = true) (offset : Option OffsetText)

namespace FormulaText

/-- The formula as it is written. -/
def text : FormulaText → List Char
  | word _ letters _ => letters.toList
  | number sign digits => signText sign ++ digits.text
  | steps sign digits mark _ offset =>
    signText sign ++ (digits.elim [] Digits.text ++ mark :: offset.elim [] OffsetText.text)

/-- The distance between the positions. -/
def step : FormulaText → ℤ
  | word _ _ _ => 2
  | number _ _ => 0
  | steps sign digits _ _ _ => withSign (sign.getD false) (digits.elim 1 Digits.number)

/-- The first position. -/
def offset : FormulaText → ℤ
  | word isOdd _ _ => if isOdd then 1 else 0
  | number sign digits => withSign (sign.getD false) digits.number
  | steps _ _ _ _ offset => offset.elim 0 OffsetText.value

/-- The numbers that are written with digits, in their order, each behind the part of the formula
that stands before it. -/
def numbers : FormulaText → List (List Char × Digits)
  | word _ _ _ => []
  | number sign digits => [(signText sign, digits)]
  | steps sign digits mark _ offset =>
    (digits.map fun d => (signText sign, d)).toList ++
      (offset.map fun o =>
        (signText sign ++ (digits.elim [] Digits.text ++ mark :: o.front), o.digits)).toList

end FormulaText

/-! ### Numbers -/

lemma natAbs_withSign (negative : Bool) (n : ℕ) : (withSign negative n).natAbs = n := by
  cases negative <;> simp [withSign]

/-- A number of 32 bits is kept with its sign. -/
lemma toInt_signed {n : ℕ} (hn : n ≤ maxFormulaNumber) (negative : Bool) :
    (signed negative n).toInt = withSign negative n := by
  have hle : n ≤ 2147483647 := hn
  rw [signed, withSign]
  refine Int64.toInt_ofInt_of_le ?_ ?_ <;> split <;> omega

lemma decimalNumber_zeros (zeros : ℕ) (digits : List Char) :
    decimalNumber (List.replicate zeros '0' ++ digits) = decimalNumber digits := by
  induction zeros with
  | zero => rfl
  | succ n ih => exact ih

namespace Digits

variable (d : Digits)

lemma isDigit_of_mem {c : Char} (hc : c ∈ d.text) : c.isDigit = true := by
  rw [text, List.mem_append, List.mem_replicate] at hc
  rcases hc with ⟨_, rfl⟩ | hc
  · rfl
  · exact Nat.isDigit_of_mem_toDigits (by decide) le_rfl hc

lemma text_ne_nil : d.text ≠ [] := by
  simp [text, Nat.toDigits_ne_nil]

lemma exists_cons : ∃ c r, d.text = c :: r ∧ c.isDigit = true := by
  obtain ⟨c, r, hcr⟩ := List.exists_cons_of_ne_nil d.text_ne_nil
  exact ⟨c, r, hcr, d.isDigit_of_mem (hcr ▸ List.mem_cons_self)⟩

lemma decimalNumber_text : decimalNumber d.text = d.number := by
  rw [text, decimalNumber_zeros]
  exact Nat.ofDigitChars_toDigits (by decide) le_rfl

end Digits

/-- Digits are read as their number up to their end, unless the number is too large. -/
lemma formulaNumber_text (d : Digits) {c : Char} (hc : c.isDigit = false) :
    formulaNumber (d.text ++ c :: r) =
      if maxFormulaNumber < d.number then failAt .expectedNumber (d.text ++ c :: r)
      else .ok (d.number, c :: r) := by
  have hend : ∀ e ∈ (c :: r).head?, e.isDigit = false := by
    rintro _ ⟨⟩
    exact hc
  rw [formulaNumber_digits d.text_ne_nil (fun _ => d.isDigit_of_mem) hend, d.decimalNumber_text]

/-! ### Offsets and steps -/

lemma skipBlank_blanks (h : Blanks lead) (text : List Char) :
    skipBlank (lead ++ text) = skipBlank text :=
  skipBlank_append_of_nil (skipBlank_eq_nil_iff.mpr h) text

lemma skipBlank_digits (d : Digits) (text : List Char) :
    skipBlank (d.text ++ text) = d.text ++ text := by
  obtain ⟨c, r, hcr, hc⟩ := d.exists_cons
  rw [hcr, List.cons_append, skipBlank_digit hc]

lemma formulaOffset_text (o : OffsetText) (tail : List Char) :
    formulaOffset (o.text ++ tail) =
      (formulaNumber (o.digits.text ++ tail)).map fun (n, rest) => (signed o.negative n, rest) := by
  have hsign : skipBlank (o.text ++ tail) =
      signMark o.negative :: (o.after ++ (o.digits.text ++ tail)) := by
    rw [OffsetText.text, OffsetText.front, List.append_assoc, List.append_assoc, List.cons_append,
      skipBlank_blanks o.blanks_before]
    cases o.negative <;> exact skipBlank_cons rfl (by simp [signMark])
  have hnumber : skipBlank (o.after ++ (o.digits.text ++ tail)) = o.digits.text ++ tail := by
    rw [skipBlank_blanks o.blanks_after, skipBlank_digits]
  rw [formulaOffset, hsign]
  cases o.negative <;>
  · simp only [signMark, if_true, Bool.false_eq_true, if_false]
    rw [hnumber]

/-- Behind its sign a formula begins with a digit or with the mark of the step. -/
lemma formula_signText (sign : Option Bool) {c : Char} (hc : (c.isDigit || isStepMark c) = true) :
    formula (signText sign ++ c :: r) = unsignedFormula (sign.getD false) (c :: r) := by
  cases sign with
  | some negative => exact formula_signMark negative (c :: r)
  | none =>
      rw [signText, List.nil_append, formula.eq_def]
      split
      · contradiction
      · next heq =>
        cases (List.cons.inj heq).1
        cases hc
      · next heq =>
        cases (List.cons.inj heq).1
        cases hc
      · next heq =>
        obtain ⟨rfl, rfl⟩ := List.cons.inj heq
        rw [if_pos hc]
        rfl

lemma not_isDigit_of_isStepMark {c : Char} (hc : isStepMark c = true) : c.isDigit = false := by
  simp only [isStepMark, Bool.or_eq_true, beq_iff_eq] at hc
  rcases hc with rfl | rfl <;> rfl

lemma unsignedFormula_mark (negative : Bool) {c : Char} (hc : isStepMark c = true) :
    unsignedFormula negative (c :: r) = formulaOfStep (signed negative 1) r := by
  rw [unsignedFormula, if_neg (by simp [not_isDigit_of_isStepMark hc]), if_pos hc]

/-- Behind digits the next character tells whether they are a step. -/
lemma unsignedFormula_digits (negative : Bool) (d : Digits) {c : Char} (hc : c.isDigit = false) :
    unsignedFormula negative (d.text ++ c :: r) =
      if maxFormulaNumber < d.number then failAt .expectedNumber (d.text ++ c :: r)
      else if isStepMark c then formulaOfStep (signed negative d.number) r
      else .ok (⟨0, signed negative d.number⟩, c :: r) := by
  obtain ⟨e, es, hes, he⟩ := d.exists_cons
  have hnumber := formulaNumber_text (r := r) d hc
  rw [hes, List.cons_append] at hnumber ⊢
  rw [unsignedFormula, if_pos he, hnumber]
  split <;> rfl

/-! ### Words -/

lemma isAlpha_of_sameName {letters word : String} (h : sameName letters word = true)
    (hw : ∀ c ∈ word.toList, c.isAlpha = true) : ∀ c ∈ letters.toList, c.isAlpha = true := by
  intro c hc
  have hfold : c.toLower ∈ foldName word := by
    rw [← sameName_iff.mp h]
    exact List.mem_map_of_mem hc
  obtain ⟨d, hd, hdc⟩ := List.mem_map.mp hfold
  rw [← Char.isAlpha_toLower_eq_isAlpha, ← hdc, Char.isAlpha_toLower_eq_isAlpha]
  exact hw d hd

lemma toNat_lt_of_isAlpha {c : Char} (hc : c.isAlpha = true) : c.toNat < 128 := by
  rcases Bool.or_eq_true_iff.1 hc with hc | hc
  · exact Nat.lt_of_le_of_lt (toNat_le_of_isUpper hc) (by decide)
  · rw [Char.isLower, Bool.and_eq_true, decide_eq_true_eq, decide_eq_true_eq] at hc
    exact Nat.lt_of_le_of_lt (UInt32.le_iff_toNat_le.1 hc.2) (by decide)

/-- A word in letters of either case has the word as its small form. -/
lemma lowercase_of_sameName {letters word : String} (h : sameName letters word = true)
    (hw : ∀ c ∈ word.toList, c.isAlpha = true) :
    lowercase letters = String.ofList (foldName word) := by
  rw [lowercase_of_ascii fun c hc => toNat_lt_of_isAlpha (isAlpha_of_sameName h hw c hc),
    ← sameName_iff.mp h]
  rfl

/-- Two characters have one small form: itself and its capital. -/
lemma eq_or_of_toLower {c d : Char} (h : c.toLower = d) :
    c = d ∨ c = Char.ofNat (d.toNat - 32) := by
  by_cases hc : c.isUpper = true
  · rw [Char.toLower_eq_of_isUpper hc] at h
    have hle := toNat_le_of_isUpper hc
    have hvalid : (c.toNat + 32).isValidChar := by
      rw [Nat.isValidChar]
      omega
    rw [← h, Char.toNat_ofNat, if_pos hvalid, Nat.add_sub_cancel, Char.ofNat_toNat]
    exact .inr rfl
  · rw [Char.toLower_eq_of_not_isUpper hc] at h
    exact .inl h

lemma spelled_first {isOdd : Bool} {letters : String}
    (h : sameName letters (if isOdd then "odd" else "even") = true) :
    ∃ c r, letters.toList = c :: r ∧ (c = 'o' ∨ c = 'O' ∨ c = 'e' ∨ c = 'E') := by
  have hfold := sameName_iff.mp h
  cases hcr : letters.toList with
  | nil =>
      rw [foldName, hcr] at hfold
      cases isOdd <;> cases hfold
  | cons c r =>
      refine ⟨c, r, rfl, ?_⟩
      rw [foldName, hcr, List.map_cons] at hfold
      cases isOdd with
      | true =>
          rcases eq_or_of_toLower (List.cons.inj hfold).1 with rfl | rfl
          · exact .inl rfl
          · exact .inr (.inl rfl)
      | false =>
          rcases eq_or_of_toLower (List.cons.inj hfold).1 with rfl | rfl
          · exact .inr (.inr (.inl rfl))
          · exact .inr (.inr (.inr rfl))

/-- A word is read in letters of either case. -/
lemma formula_word {isOdd : Bool} {letters : String}
    (h : sameName letters (if isOdd then "odd" else "even") = true) (ht : EndsName tail) :
    formula (letters.toList ++ tail) = .ok (if isOdd then .odd else .even, tail) := by
  have halpha : ∀ c ∈ (if isOdd then "odd" else "even").toList, c.isAlpha = true :=
    List.all_eq_true.1 (by cases isOdd <;> rfl)
  have hletters := isAlpha_of_sameName h halpha
  obtain ⟨c, r, hcr, hc⟩ := spelled_first h
  have hfirst : formula (c :: (r ++ tail)) = formulaWord (c :: (r ++ tail)) := by
    rcases hc with rfl | rfl | rfl | rfl <;> rfl
  have hall : (c :: r).all isNameChar = true := by
    refine List.all_eq_true.2 fun d hd => isNameChar_of_isNameStart ?_
    rw [isNameStart, hletters d (hcr ▸ hd)]
    rfl
  have hword : formulaOfWord? (String.ofList (c :: r)) = some (if isOdd then .odd else .even) := by
    rw [← hcr, String.ofList_toList, formulaOfWord?, lowercase_of_sameName h halpha]
    cases isOdd <;> rfl
  rw [hcr, List.cons_append, hfirst]
  refine bind_eq_ok.2 ⟨_, name_of_nameChars hall ht.nameChar_eq, ?_⟩
  dsimp only
  rw [hword]

/-! ### Formulas -/

lemma skipBlank_close (h : Blanks trail) : skipBlank (trail ++ ')' :: r) = ')' :: r := by
  rw [skipBlank_blanks h, skipBlank_cons rfl (by simp)]

lemma Separator.not_isDigit {c : Char} (h : Separator c) : c.isDigit = false := by
  by_contra hc
  have hname : isNameChar c = true := (isNameChar_iff c).2 (.inr (.inl (by simpa using hc)))
  rw [h.not_nameChar] at hname
  cases hname

lemma Separator.not_isStepMark {c : Char} (h : Separator c) : isStepMark c = false := by
  by_contra hc
  have hname := h.not_nameChar
  simp only [isStepMark, Bool.not_eq_false, Bool.or_eq_true, beq_iff_eq] at hc
  rcases hc with rfl | rfl <;> cases hname

/-- Blanks, comments and a parenthesis go on with no word and no number. -/
lemma exists_separator (h : Blanks trail) : ∃ c u, trail ++ ')' :: r = c :: u ∧ Separator c := by
  cases trail with
  | nil => exact ⟨')', r, rfl, separator_of_mem (by simp)⟩
  | cons c u => exact ⟨c, u ++ ')' :: r, rfl, h.separates⟩

lemma endsName_blanks (h : Blanks trail) : EndsName (trail ++ ')' :: r) := by
  obtain ⟨c, u, hcu, hc⟩ := exists_separator (r := r) h
  rw [hcu]
  exact endsName_cons.2 ⟨hc.not_nameChar, hc.ne_backslash⟩

/-- An offset is read as its integer, and none as zero. -/
lemma formulaOffset_elim (htrail : Blanks trail) (offset : Option OffsetText)
    (hsmall : ∀ o ∈ offset, o.digits.number ≤ maxFormulaNumber) :
    ∃ b rest,
      formulaOffset (offset.elim [] OffsetText.text ++ (trail ++ ')' :: r)) = .ok (b, rest) ∧
      b.toInt = offset.elim 0 OffsetText.value ∧ skipBlank rest = ')' :: r := by
  cases offset with
  | none =>
      refine ⟨0, ')' :: r, ?_, rfl, skipBlank_cons rfl (by simp)⟩
      rw [Option.elim_none, List.nil_append, formulaOffset, skipBlank_close htrail]
      rfl
  | some o =>
      obtain ⟨c, u, hcu, hc⟩ := exists_separator (r := r) htrail
      have hnumber := formulaNumber_text (r := u) o.digits hc.not_isDigit
      rw [if_neg (Nat.not_lt.2 (hsmall o rfl))] at hnumber
      refine ⟨signed o.negative o.digits.number, _, ?_, toInt_signed (hsmall o rfl) _,
        skipBlank_close htrail⟩
      rw [Option.elim_some, formulaOffset_text, hcu, hnumber]
      rfl

/-- A step is read up to its mark. -/
lemma unsignedFormula_elim (negative : Bool) {digits : Option Digits}
    (hsmall : ∀ d ∈ digits, d.number ≤ maxFormulaNumber) {mark : Char}
    (hmark : isStepMark mark = true) (text : List Char) :
    unsignedFormula negative (digits.elim [] Digits.text ++ mark :: text) =
      formulaOfStep (signed negative (digits.elim 1 Digits.number)) text := by
  cases digits with
  | none => exact unsignedFormula_mark negative hmark
  | some d =>
      rw [Option.elim_some, Option.elim_some,
        unsignedFormula_digits negative d (not_isDigit_of_isStepMark hmark),
        if_neg (Nat.not_lt.2 (hsmall d rfl)), if_pos hmark]

/-- The part behind the sign begins with a digit or with the mark of the step. -/
lemma formula_number (sign : Option Bool) (d : Digits) (text : List Char) :
    formula (signText sign ++ (d.text ++ text)) =
      unsignedFormula (sign.getD false) (d.text ++ text) := by
  obtain ⟨c, u, hcu, hc⟩ := d.exists_cons
  rw [hcu]
  exact formula_signText sign (by rw [hc, Bool.true_or])

lemma formula_step (sign : Option Bool) (digits : Option Digits) {mark : Char}
    (hmark : isStepMark mark = true) (text : List Char) :
    formula (signText sign ++ (digits.elim [] Digits.text ++ mark :: text)) =
      unsignedFormula (sign.getD false) (digits.elim [] Digits.text ++ mark :: text) := by
  cases digits with
  | none => exact formula_signText sign (by rw [hmark, Bool.or_true])
  | some d => exact formula_number sign d (mark :: text)

/-- **A formula is read as what is written**, if its numbers are small enough. -/
theorem formula_text (htrail : Blanks trail) (w : FormulaText)
    (hsmall : ∀ m ∈ w.numbers, m.2.number ≤ maxFormulaNumber) :
    ∃ f rest, formula (w.text ++ (trail ++ ')' :: r)) = .ok (f, rest) ∧
      f.step.toInt = w.step ∧ f.offset.toInt = w.offset ∧ skipBlank rest = ')' :: r := by
  cases w with
  | word isOdd letters spelled =>
      refine ⟨_, _, formula_word spelled (endsName_blanks htrail), ?_, ?_,
        skipBlank_close htrail⟩ <;>
      cases isOdd <;> rfl
  | number sign d =>
      have hd : d.number ≤ maxFormulaNumber := hsmall _ List.mem_cons_self
      obtain ⟨c, u, hcu, hc⟩ := exists_separator (r := r) htrail
      refine ⟨⟨0, signed (sign.getD false) d.number⟩, trail ++ ')' :: r, ?_, rfl,
        toInt_signed hd _, skipBlank_close htrail⟩
      rw [FormulaText.text, List.append_assoc, formula_number, hcu,
        unsignedFormula_digits _ d hc.not_isDigit, if_neg (Nat.not_lt.2 hd),
        if_neg (by simp [hc.not_isStepMark])]
  | steps sign digits mark hmark offset =>
      have hdigits : ∀ d ∈ digits, d.number ≤ maxFormulaNumber := by
        rintro d ⟨⟩
        exact hsmall (_, d) (List.mem_append_left _ (Option.mem_toList.2 rfl))
      have hoffset : ∀ o ∈ offset, o.digits.number ≤ maxFormulaNumber := by
        rintro o ⟨⟩
        exact hsmall (_, o.digits)
          (List.mem_append_right _ (Option.mem_toList.2 rfl))
      have hone : digits.elim 1 Digits.number ≤ maxFormulaNumber := by
        cases digits with
        | none => decide
        | some d => exact hdigits d rfl
      obtain ⟨b, rest, hb, hvalue, hrest⟩ := formulaOffset_elim (r := r) htrail offset hoffset
      refine ⟨⟨signed (sign.getD false) (digits.elim 1 Digits.number), b⟩, rest, ?_,
        toInt_signed hone _, hvalue, hrest⟩
      rw [FormulaText.text, List.append_assoc, List.append_assoc, List.cons_append,
        formula_step sign digits hmark, unsignedFormula_elim _ hdigits hmark, formulaOfStep, hb]
      rfl

/-! #### Numbers that are too large -/

/-- An offset that is too large is what is wrong with a formula whose step is small enough. -/
lemma formula_offset_tooLarge (htrail : Blanks trail) (sign : Option Bool) {digits : Option Digits}
    (hsmall : ∀ d ∈ digits, d.number ≤ maxFormulaNumber) {mark : Char}
    (hmark : isStepMark mark = true) {o : OffsetText} (ho : maxFormulaNumber < o.digits.number) :
    formula ((FormulaText.steps sign digits mark hmark (some o)).text ++ (trail ++ ')' :: r)) =
      failAt .expectedNumber (o.digits.text ++ (trail ++ ')' :: r)) := by
  obtain ⟨c, u, hcu, hc⟩ := exists_separator (r := r) htrail
  have hnumber := formulaNumber_text (r := u) o.digits hc.not_isDigit
  rw [if_pos ho] at hnumber
  rw [FormulaText.text, List.append_assoc, List.append_assoc, List.cons_append,
    formula_step sign digits hmark, unsignedFormula_elim _ hsmall hmark, formulaOfStep,
    Option.elim_some, formulaOffset_text, hcu, hnumber]
  rfl

/-- A first number that is too large is what is wrong with a formula, whatever follows it. -/
lemma formula_first_tooLarge (sign : Option Bool) {d : Digits} (hd : maxFormulaNumber < d.number)
    {c : Char} (hc : c.isDigit = false) :
    formula (signText sign ++ (d.text ++ c :: r)) = failAt .expectedNumber (d.text ++ c :: r) := by
  rw [formula_number, unsignedFormula_digits _ d hc, if_pos hd]

lemma find?_number {m : List Char × Digits} {front : List Char} {d : Digits}
    (h : [m].find? (fun m => decide (maxFormulaNumber < m.2.number)) = some (front, d)) :
    m = (front, d) ∧ maxFormulaNumber < d.number := by
  rw [List.find?_singleton, Option.ite_none_right_eq_some, decide_eq_true_eq] at h
  obtain ⟨hd, ⟨⟩⟩ := h
  exact ⟨rfl, hd⟩

/-- **The first number that is too large** is what is wrong with a formula. -/
theorem formula_text_tooLarge (htrail : Blanks trail) (w : FormulaText) {front : List Char}
    {d : Digits}
    (h : w.numbers.find? (fun m => decide (maxFormulaNumber < m.2.number)) = some (front, d)) :
    ∃ rest, w.text = front ++ (d.text ++ rest) ∧
      formula (w.text ++ (trail ++ ')' :: r)) =
        failAt .expectedNumber (d.text ++ (rest ++ (trail ++ ')' :: r))) := by
  cases w with
  | word => cases h
  | number sign digits =>
      obtain ⟨⟨⟩, hd⟩ := find?_number h
      obtain ⟨c, u, hcu, hc⟩ := exists_separator (r := r) htrail
      refine ⟨[], by rw [FormulaText.text, List.append_nil], ?_⟩
      rw [FormulaText.text, List.append_assoc, List.nil_append, hcu]
      exact formula_first_tooLarge sign hd hc.not_isDigit
  | steps sign digits mark hmark offset =>
      rw [FormulaText.numbers, List.find?_append, Option.or_eq_some_iff] at h
      rcases h with h | ⟨hsmall, h⟩
      · cases digits with
        | none => cases h
        | some digits =>
            obtain ⟨⟨⟩, hd⟩ := find?_number h
            refine ⟨mark :: offset.elim [] OffsetText.text, rfl, ?_⟩
            rw [FormulaText.text, List.append_assoc, Option.elim_some, List.append_assoc]
            exact formula_first_tooLarge sign hd (not_isDigit_of_isStepMark hmark)
      · cases offset with
        | none => cases h
        | some o =>
            obtain ⟨⟨⟩, ho⟩ := find?_number h
            have hdigits : ∀ d ∈ digits, d.number ≤ maxFormulaNumber := by
              rintro d ⟨⟩
              simpa using hsmall
            refine ⟨[], by simp [FormulaText.text, OffsetText.text], ?_⟩
            rw [List.nil_append]
            exact formula_offset_tooLarge htrail sign hdigits hmark ho

/-! ### The pseudo-classes with a formula -/

/-- A formula begins with no blank and no comment. -/
lemma skipBlank_text (w : FormulaText) (tail : List Char) :
    skipBlank (w.text ++ tail) = w.text ++ tail := by
  have hsign (sign : Option Bool) {text : List Char} (h : skipBlank text = text) :
      skipBlank (signText sign ++ text) = signText sign ++ text := by
    cases sign with
    | none => exact h
    | some negative => cases negative <;> exact skipBlank_cons rfl (by simp [signMark])
  cases w with
  | word isOdd letters spelled =>
      obtain ⟨c, u, hcu, hc⟩ := spelled_first spelled
      rw [FormulaText.text, hcu, List.cons_append]
      rcases hc with rfl | rfl | rfl | rfl <;> exact skipBlank_cons rfl (by simp)
  | number sign d =>
      rw [FormulaText.text, List.append_assoc]
      exact hsign sign (skipBlank_digits d tail)
  | steps sign digits mark hmark offset =>
      rw [FormulaText.text, List.append_assoc, List.append_assoc, List.cons_append]
      refine hsign sign ?_
      cases digits with
      | some d => exact skipBlank_digits d _
      | none =>
          simp only [isStepMark, Bool.or_eq_true, beq_iff_eq] at hmark
          rcases hmark with rfl | rfl <;> exact skipBlank_cons rfl (by simp)

lemma identifier_nthName (last ofType : Bool) (text : List Char) :
    identifier ((nthName last ofType).toList ++ '(' :: text) =
      .ok (nthName last ofType, '(' :: text) := by
  have hstop : nameChar ('(' :: text) = .ok none := nameChar_cons_eq_none.2 (by decide)
  cases last <;> cases ofType <;> exact name_of_nameChars rfl hstop

lemma pseudoClass_nthName (last ofType : Bool) (text : List Char) :
    pseudoClass engine (selectorList engine) ((nthName last ofType).toList ++ '(' :: text) =
      (parenthesized formula ('(' :: text)).map fun (f, rest) =>
        (.nthChild f last ofType, rest) := by
  rw [pseudoClass, identifier_nthName]
  dsimp only [bind, Except.bind]
  rw [ofName?_nthName]
  rfl

/-- The numbers of a formula are no larger than its two integers. -/
lemma FormulaText.number_le (w : FormulaText) (hstep : w.step.natAbs ≤ maxFormulaNumber)
    (hoffset : w.offset.natAbs ≤ maxFormulaNumber) :
    ∀ m ∈ w.numbers, m.2.number ≤ maxFormulaNumber := by
  cases w with
  | word => exact fun _ hm => absurd hm List.not_mem_nil
  | number sign d =>
      intro m hm
      obtain rfl := List.mem_singleton.1 hm
      rwa [FormulaText.offset, natAbs_withSign] at hoffset
  | steps sign digits mark hmark offset =>
      intro m hm
      rw [FormulaText.numbers, List.mem_append, Option.mem_toList, Option.mem_toList,
        Option.map_eq_some_iff, Option.map_eq_some_iff] at hm
      rcases hm with ⟨d, rfl, rfl⟩ | ⟨o, rfl, rfl⟩
      · rwa [FormulaText.step, natAbs_withSign] at hstep
      · rwa [FormulaText.offset, Option.elim_some, OffsetText.value, natAbs_withSign] at hoffset

/-- The query of a pseudo-class with that text between its parentheses. -/
def nthQuery (last ofType : Bool) (argument : List Char) : String :=
  ":" ++ nthName last ofType ++ "(" ++ String.ofList argument ++ ")"

lemma toList_nthQuery (last ofType : Bool) (w : FormulaText) :
    (nthQuery last ofType (lead ++ w.text ++ trail)).toList =
      ':' :: ((nthName last ofType).toList ++ '(' :: (lead ++ (w.text ++ (trail ++ [')'])))) := by
  simp [nthQuery]

/-- What the formula behind the blanks is read as. -/
lemma selectorList_nthQuery (hlead : Blanks lead) {w : FormulaText} {f : Formula}
    (h : formula (w.text ++ (trail ++ [')'])) = .ok (f, r)) (hr : skipBlank r = [')'])
    (last ofType : Bool) :
    selectorList engine (nthQuery last ofType (lead ++ w.text ++ trail)).toList =
      .ok (.nthChild f last ofType, []) := by
  rw [toList_nthQuery]
  refine selectorList_of_qualifier (found_eq_ok.2 ?_)
  rw [pseudoClass_nthName]
  refine map_eq_ok.2 ⟨(f, []), bind_eq_ok.2 ⟨(f, r), ?_, ?_⟩, rfl⟩
  · rw [skipBlank_blanks hlead, skipBlank_text]
    exact h
  · dsimp only
    rw [hr]
    rfl

/-- A mistake in the formula is the mistake in the query. -/
lemma selectorList_nthQuery_error (hlead : Blanks lead) {w : FormulaText} {e : Failure}
    (h : formula (w.text ++ (trail ++ [')'])) = .error e) (last ofType : Bool) :
    selectorList engine (nthQuery last ofType (lead ++ w.text ++ trail)).toList = .error e := by
  rw [toList_nthQuery]
  refine selectorList_of_qualifier_error (map_eq_error.2 ?_)
  rw [pseudoClass_nthName]
  refine map_eq_error.2 (bind_eq_error.2 (.inl ?_))
  rw [skipBlank_blanks hlead, skipBlank_text]
  exact h

/-- **Each way to write a formula is read as the formula**, in each of the four pseudo-classes:
blanks and comments, omitted signs and digits and zeros in front change nothing about it. A number
above 2147483647 is a mistake where its digits begin, and the first such number is reported. -/
theorem compileWith_nthQuery (engine : Engine) (last ofType : Bool) (hlead : Blanks lead)
    (htrail : Blanks trail) (w : FormulaText) :
    (w.step.natAbs ≤ 2147483647 → w.offset.natAbs ≤ 2147483647 →
      ∃ f : Formula, f.step.toInt = w.step ∧ f.offset.toInt = w.offset ∧
        compileWith engine (nthQuery last ofType (lead ++ w.text ++ trail)) =
          .ok (.nthChild f last ofType)) ∧
    ∀ front d, w.numbers.find? (fun m => decide (2147483647 < m.2.number)) = some (front, d) →
      front ++ d.text <+: w.text ∧
        compileWith engine (nthQuery last ofType (lead ++ w.text ++ trail)) =
          .error ⟨.expectedNumber,
            (nthName last ofType).length + 2 + lead.length + front.length, none⟩ := by
  refine ⟨fun hstep hoffset => ?_, fun front d h => ?_⟩
  · obtain ⟨f, rest, hread, hf, hf', hrest⟩ :=
      formula_text htrail w (w.number_le hstep hoffset)
    exact ⟨f, hf, hf',
      compileWith_eq_ok.2 (selectorList_nthQuery hlead hread hrest last ofType)⟩
  · obtain ⟨rest, htext, hread⟩ := formula_text_tooLarge (r := []) htrail w h
    have hlength : (nthQuery last ofType (lead ++ w.text ++ trail)).length =
        (nthName last ofType).length + 2 + lead.length + front.length +
          (d.text ++ (rest ++ (trail ++ [')']))).length := by
      rw [← String.length_toList, toList_nthQuery, htext]
      simp only [List.length_cons, List.length_append, String.length_toList]
      omega
    refine ⟨⟨rest, by rw [htext, List.append_assoc]⟩, ?_⟩
    rw [compileWith_of_error (selectorList_nthQuery_error hlead hread last ofType),
      Failure.within, hlength]
    dsimp only
    rw [Nat.add_sub_cancel]

/-- A step of minus seven and a negative offset, with blanks and a comment around the second
sign. -/
def spacedFormula (digits : Digits) : FormulaText :=
  .steps (some true) (some ⟨2, 7⟩) 'N' rfl <| some
    { before := " /*+*/".toList
      negative := true
      after := [' ']
      digits
      blanks_before :=
        have hbody : ¬ ['*', '/'] <:+: ['+'] := by decide
        .blank rfl (.comment hbody .nil)
      blanks_after := .blank rfl .nil }

/-- Zeros stand in front of both numbers and blanks and comments around everything. With one more
digit the second number is a mistake. -/
theorem compileWith_nthQuery_spaced :
    Blanks [' '] ∧ Blanks "/**/".toList ∧
    compileWith .regex ":nth-last-of-type( -007N /*+*/- 0214748364/**/)" =
      .ok (.nthChild ⟨-7, -214748364⟩ true true) ∧
    compileWith .regex ":nth-child( -007N /*+*/- 02147483648/**/)" =
      .error ⟨.expectedNumber, 25, none⟩ := by
  have hlead : Blanks [' '] := .blank rfl .nil
  have hbody : ¬ ['*', '/'] <:+: [] := by decide
  have htrail : Blanks "/**/".toList := .comment hbody .nil
  obtain ⟨⟨step, offset⟩, hstep, hoffset, hread⟩ :=
    (compileWith_nthQuery .regex true true hlead htrail (spacedFormula ⟨1, 214748364⟩)).1
      (by decide) (by decide)
  have hwrong := (compileWith_nthQuery .regex false false hlead htrail
    (spacedFormula ⟨1, 2147483648⟩)).2 _ _ rfl
  obtain rfl : step = -7 := Int64.toInt_inj.1 hstep
  obtain rfl : offset = -214748364 := Int64.toInt_inj.1 hoffset
  exact ⟨hlead, htrail, hread, hwrong.2⟩

end MarkupQuery.Query
