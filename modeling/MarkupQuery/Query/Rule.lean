import MarkupQuery.Query.Error

/-!
Rules of the query grammar.

A rule reads a value from the front of a text and gives it with the text that is left, or fails.
`many` repeats a step as long as it finds something; `many_eq` is its defining equation for steps
that take what they find (`Shrinks`). What a rule leaves stands `Behind` what it took.
-/

namespace MarkupQuery.Query

/-- Reads a value from the front of a text, and gives it with the text behind it. -/
abbrev Rule (α : Type) := List Char → Except Failure (α × List Char)

/-- A rule that may also find nothing to read. -/
abbrev Step (α : Type) := List Char → Except Failure (Option (α × List Char))

/-- The failure of a rule that stands before `text`. -/
def failAt {α : Type} (kind : ErrorKind) (text : List Char) : Except Failure α :=
  .error { kind, left := text.length }

/-- The failure of a rule that can go on neither at the end nor with what comes. -/
def unexpected {α : Type} (text : List Char) : Except Failure α :=
  failAt (if text.isEmpty then .unexpectedEnd else .unexpectedToken) text

/-- Runs a step, handing on what it finds. -/
def Rule.found {α : Type} (rule : Rule α) (text : List Char) :
    Except Failure (Option (α × List Char)) :=
  (rule text).map some

/-- What a step finds again and again from the front of a text, until it finds nothing. -/
def many {α : Type} (step : Step α) (text : List Char) :
    Except Failure (List α × List Char) := do
  match ← step text with
  | none => .ok ([], text)
  | some (a, rest) =>
    if rest.length < text.length then do
      let (as, rest) ← many step rest
      .ok (a :: as, rest)
    else .ok ([a], rest)
termination_by text.length

/-- Whether `rest` is what stands behind some characters of `text`, at least one. -/
def Behind (rest text : List Char) : Prop :=
  ∃ taken, taken ≠ [] ∧ text = taken ++ rest

theorem Behind.length_lt {rest text : List Char} (h : Behind rest text) :
    rest.length < text.length := by
  obtain ⟨taken, hne, rfl⟩ := h
  have := List.length_pos_iff.2 hne
  simp only [List.length_append]
  omega

theorem Behind.suffix {rest text : List Char} (h : Behind rest text) : rest <:+ text := by
  obtain ⟨taken, _, rfl⟩ := h
  exact List.suffix_append taken rest

theorem behind_cons {rest text : List Char} (h : rest <:+ text) (c : Char) :
    Behind rest (c :: text) := by
  obtain ⟨taken, rfl⟩ := h
  exact ⟨c :: taken, by simp, rfl⟩

theorem Behind.trans_suffix {a b c : List Char} (hab : Behind a b) (hbc : b <:+ c) :
    Behind a c := by
  obtain ⟨taken, hne, rfl⟩ := hab
  obtain ⟨before, rfl⟩ := hbc
  exact ⟨before ++ taken, by simp [hne], by simp⟩

theorem suffix_trans_behind {a b c : List Char} (hab : a <:+ b) (hbc : Behind b c) :
    Behind a c := by
  obtain ⟨before, rfl⟩ := hab
  obtain ⟨taken, hne, rfl⟩ := hbc
  exact ⟨taken ++ before, by simp [hne], by simp⟩

/-- A step that takes at least one character whenever it finds something. -/
def Shrinks {α : Type} (step : Step α) : Prop :=
  ∀ text a rest, step text = .ok (some (a, rest)) → Behind rest text

theorem many_eq {α : Type} {step : Step α} (h : Shrinks step) (text : List Char) :
    many step text =
      match step text with
      | .error e => .error e
      | .ok none => .ok ([], text)
      | .ok (some (a, rest)) => (many step rest).map fun (as, rest) => (a :: as, rest) := by
  rw [many]
  cases hs : step text with
  | error e => rfl
  | ok found =>
    match found with
    | none => rfl
    | some (a, rest) =>
      show (if rest.length < text.length then _ else _) = _
      rw [if_pos (h _ _ _ hs).length_lt]
      show (many step rest >>= _) = (many step rest).map _
      cases many step rest <;> rfl

end MarkupQuery.Query
