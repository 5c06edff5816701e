import MarkupQuery.Text.Quoted

/-!
Patterns, and the engines that make them.

A query never looks inside a pattern: it hands the written source to an `Engine` and keeps what
comes back. A `Pattern` is its source together with the test that the engine made of it, and two
patterns are the same when their sources are (`Pattern.beq_iff`). An engine is *faithful* when its
patterns keep the source they were made from.
-/

namespace MarkupQuery

/-- A test on texts, with the source it was made from. -/
structure Pattern where
  /-- The pattern as written. -/
  source : String
  /-- Whether the pattern matches somewhere in a text. -/
  hits : String → Bool

namespace Pattern

instance : BEq Pattern := ⟨fun p q => p.source == q.source⟩

theorem beq_iff {p q : Pattern} : (p == q) = true ↔ p.source = q.source := by
  simp [BEq.beq]

/-- The pattern for a person to read: its source in quotes. -/
def describe (p : Pattern) : String :=
  "Pattern(" ++ quoted p.source ++ ")"

end Pattern

/-- A pattern that an engine refused, and why. -/
structure PatternError where
  /-- The pattern as written. -/
  pattern : String
  /-- What the engine has against it. -/
  message : String
deriving DecidableEq, Repr

/-- The refusal in words. -/
def PatternError.describe (e : PatternError) : String :=
  "invalid pattern " ++ quoted e.pattern ++ ": " ++ e.message

/-- What turns the source of a pattern into a test. -/
structure Engine where
  /-- The pattern of a source, or the reason why there is none. -/
  compile : String → Except PatternError Pattern

/-- An engine whose patterns report the source they were made from. -/
def Engine.Faithful (engine : Engine) : Prop :=
  ∀ source pattern, engine.compile source = .ok pattern → pattern.source = source

/-- An engine that refuses nothing. -/
def Engine.Total (engine : Engine) : Prop :=
  ∀ source, ∃ pattern, engine.compile source = .ok pattern

end MarkupQuery
