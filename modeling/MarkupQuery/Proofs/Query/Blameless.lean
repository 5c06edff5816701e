import MarkupQuery.Proofs.Query.Bounds

/-!
Failures that blame no pattern.

Only a refused pattern is the cause of a failure. A rule that asks nothing of the engine therefore
fails without a cause.

* `Uncaused`: a result that is no failure with a cause, kept by the ways in which rules are put
  together;
* `Blameless`: a rule whose results are such, as is a loop over a step that is one
  (`Blameless.many`);
* `stringOrIdentifier_blameless`, `formula_blameless`, `operator_blameless`, …: one lemma per
  production, each citing the ones below it.
-/

namespace MarkupQuery.Query

variable {α β : Type}

/-- The result is no failure with a cause. -/
def Uncaused (x : Except Failure β) : Prop :=
  ∀ f, x = .error f → f.cause = none

namespace Uncaused

lemma of_ok (b : β) : Uncaused (.ok b) :=
  fun _ => nofun

lemma of_failAt (kind : ErrorKind) (text : List Char) :
    Uncaused (failAt kind text : Except Failure β) := by
  rintro f ⟨⟩
  rfl

lemma of_unexpected (text : List Char) : Uncaused (unexpected text : Except Failure β) := by
  rw [unexpected]
  exact of_failAt _ text

lemma bind {x : Except Failure α} {g : α → Except Failure β} (hx : Uncaused x)
    (hg : ∀ a, Uncaused (g a)) : Uncaused (x >>= g) := by
  intro f hf
  rcases bind_eq_error.1 hf with hf | ⟨a, _, hf⟩
  · exact hx f hf
  · exact hg a f hf

lemma map {x : Except Failure α} (hx : Uncaused x) (g : α → β) : Uncaused (x.map g) :=
  fun f hf => hx f (map_eq_error.1 hf)

end Uncaused

/-- A rule, or a step, that fails without a cause. -/
def Blameless (rule : List Char → Except Failure β) : Prop :=
  ∀ text, Uncaused (rule text)

/-- A loop fails where its step does. -/
lemma Blameless.many {step : Step α} (hs : Shrinks step) (h : Blameless step) :
    Blameless (many step) := by
  intro text f hf
  obtain ⟨rest, _, hstep⟩ := many_eq_error hs hf
  exact h rest f hstep

/-! ### Names and strings -/

lemma escape_blameless : Blameless escape := by
  intro text
  rw [escape.eq_def]
  split
  · split
    · exact .of_failAt _ _
    · split
      · exact .of_ok _
      · exact .of_ok _
  · exact .of_failAt _ _
  · exact .of_failAt _ _

lemma nameChar_blameless : Blameless nameChar := by
  intro text
  rw [nameChar.eq_def]
  split
  · exact .of_ok _
  · split
    · exact .of_ok _
    · split
      · exact (escape_blameless _).map _
      · exact .of_ok _

lemma name_blameless : Blameless name := by
  intro text
  refine (nameChar_blameless.many nameChar_shrinks text).bind fun p => ?_
  obtain ⟨chars, rest⟩ := p
  dsimp only
  split
  · exact .of_failAt _ _
  · exact .of_ok _

lemma identifier_blameless : Blameless identifier := by
  intro text
  rw [identifier.eq_def]
  split
  · split
    · exact (name_blameless _).map _
    · exact .of_failAt _ _
  · split
    · exact name_blameless _
    · exact .of_failAt _ _

lemma stringPart_blameless (quote : Char) : Blameless (stringPart quote) := by
  intro text
  rw [stringPart.eq_def]
  split
  · exact .of_ok _
  · split
    · exact .of_ok _
    · split
      · split
        · exact .of_ok _
        · split
          · exact .of_ok _
          · exact (escape_blameless _).map _
        · exact (escape_blameless _).map _
      · split
        · exact .of_failAt _ _
        · exact .of_ok _

lemma quotedString_blameless : Blameless quotedString := by
  intro text
  rw [quotedString.eq_def]
  split
  · next quote c r =>
    split
    · have hparts := (stringPart_blameless quote).many (stringPart_shrinks quote)
      refine (hparts (c :: r)).bind fun p => ?_
      obtain ⟨parts, rest⟩ := p
      dsimp only
      split
      · exact .of_failAt _ _
      · exact .of_ok _
    · exact .of_failAt _ _
  · exact .of_failAt _ _

lemma stringOrIdentifier_blameless : Blameless stringOrIdentifier := by
  intro text
  rw [stringOrIdentifier.eq_def]
  split
  · exact .of_failAt _ _
  · split
    · exact quotedString_blameless _
    · exact identifier_blameless _

/-! ### Formulas -/

lemma formulaNumber_blameless : Blameless formulaNumber := by
  intro text
  rw [formulaNumber.eq_def]
  dsimp only
  split
  · exact .of_failAt _ _
  · exact .of_ok _

lemma formulaOffset_blameless : Blameless formulaOffset := by
  intro text
  rw [formulaOffset.eq_def]
  split
  · exact .of_failAt _ _
  · exact (formulaNumber_blameless _).map _
  · exact (formulaNumber_blameless _).map _
  · exact .of_ok _

lemma formulaOfStep_blameless (step : Int64) : Blameless (formulaOfStep step) :=
  fun text => (formulaOffset_blameless text).map _

lemma unsignedFormula_blameless (negative : Bool) : Blameless (unsignedFormula negative) := by
  intro text
  rw [unsignedFormula.eq_def]
  split
  · exact .of_failAt _ _
  · split
    · refine (formulaNumber_blameless _).bind fun p => ?_
      obtain ⟨n, rest⟩ := p
      dsimp only
      split
      · exact .of_failAt _ _
      · split
        · exact formulaOfStep_blameless _ _
        · exact .of_ok _
    · split
      · exact formulaOfStep_blameless _ _
      · exact .of_failAt _ _

lemma formulaWord_blameless : Blameless formulaWord := by
  intro text
  refine (name_blameless text).bind fun p => ?_
  obtain ⟨word, rest⟩ := p
  dsimp only
  split
  · exact .of_ok _
  · exact .of_failAt _ _

lemma formula_blameless : Blameless formula := by
  intro text
  rw [formula.eq_def]
  split
  · exact .of_failAt _ _
  · exact unsignedFormula_blameless true _
  · exact unsignedFormula_blameless false _
  · split
    · exact unsignedFormula_blameless false _
    · split
      · exact formulaWord_blameless _
      · exact .of_failAt _ _

/-! ### Around patterns -/

lemma operator_blameless : Blameless operator := by
  intro text
  rw [operator.eq_def]
  split
  · exact .of_failAt _ _
  · exact .of_ok _
  · split
    · exact .of_ok _
    · exact .of_failAt _ _
    · exact .of_failAt _ _

lemma closeBracket_blameless : Blameless closeBracket := by
  intro text
  rw [closeBracket.eq_def]
  split
  · exact .of_ok _
  · exact .of_unexpected _

lemma compoundHead_blameless : Blameless compoundHead := by
  intro text
  rw [compoundHead.eq_def]
  split
  · exact .of_failAt _ _
  · split
    · exact .of_ok _
    · split
      · exact .of_ok _
      · exact (identifier_blameless _).map _

lemma Blameless.parenthesized {rule : Rule α} (h : Blameless rule) :
    Blameless (parenthesized rule) := by
  intro text
  rw [parenthesized.eq_def]
  split
  · refine (h _).bind fun p => ?_
    obtain ⟨value, rest⟩ := p
    dsimp only
    split
    · exact .of_ok _
    · exact .of_unexpected _
  · exact .of_unexpected _

end MarkupQuery.Query
