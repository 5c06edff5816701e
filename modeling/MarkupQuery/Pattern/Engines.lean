import MarkupQuery.Pattern.Basic
import MarkupQuery.Regex.Matching
import MarkupQuery.Regex.Reader
import MarkupQuery.Text.Affix

/-!
Three pattern engines.

* `Engine.regex`: regular expressions, found anywhere in the text. It is the engine of the program,
  while all that is proved of queries is proved of any engine.
* `Engine.literal`: the source itself, found anywhere in the text.
* `Engine.disabled`: refuses every source.

All three are faithful, and `Engine.literal` refuses nothing.
-/

namespace MarkupQuery.Engine

/-- Patterns are regular expressions. -/
def regex : Engine where
  compile source :=
    match Regex.ofList? source.toList with
    | .ok r => .ok ⟨source, fun text => r.occursIn text.toList⟩
    | .error fault => .error ⟨source, fault.message⟩

/-- Patterns stand for themselves. -/
def literal : Engine where
  compile source := .ok ⟨source, fun text => MarkupQuery.occursIn source.toList text.toList⟩

/-- There are no patterns. -/
def disabled : Engine where
  compile source := .error ⟨source, "patterns disabled"⟩

theorem regex_faithful : regex.Faithful := by
  intro source pattern h
  simp only [regex] at h
  split at h
  · injection h with h; exact h ▸ rfl
  · contradiction

theorem literal_faithful : literal.Faithful := by
  intro source pattern h
  injection h with h; exact h ▸ rfl

theorem disabled_faithful : disabled.Faithful :=
  fun _ _ h => nomatch h

theorem literal_total : literal.Total :=
  fun _ => ⟨_, rfl⟩

end MarkupQuery.Engine
