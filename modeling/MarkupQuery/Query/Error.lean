import MarkupQuery.Pattern.Basic

/-!
What can be wrong with a query.

A rule that fails does not know where in the query it stands, only how much of it is left. So a
`Failure` counts the characters left, and an `Error` the characters before it; the one becomes
the other once the length of the query is known (`Failure.within`).
-/

namespace MarkupQuery.Query

/-- The kinds of mistakes in a query. -/
inductive ErrorKind where
  /-- A backslash before the end of a line. -/
  | invalidEscape
  /-- No identifier where one is needed. -/
  | expectedIdentifier
  /-- No name where one is needed. -/
  | expectedName
  /-- No string where one is needed. -/
  | expectedString
  /-- No number where one is needed, or one that is too large. -/
  | expectedNumber
  /-- Something that cannot stand here. -/
  | unexpectedToken
  /-- The query ends too early. -/
  | unexpectedEnd
deriving DecidableEq, Repr

namespace ErrorKind

/-- All kinds. -/
def all : List ErrorKind :=
  [invalidEscape, expectedIdentifier, expectedName, expectedString, expectedNumber,
    unexpectedToken, unexpectedEnd]

/-- The kind in words. -/
def message : ErrorKind → String
  | invalidEscape => "invalid escape sequence"
  | expectedIdentifier => "expected identifier"
  | expectedName => "expected name"
  | expectedString => "expected string"
  | expectedNumber => "expected number"
  | unexpectedToken => "unexpected token"
  | unexpectedEnd => "unexpected end of input"

theorem mem_all (kind : ErrorKind) : kind ∈ all := by
  cases kind <;> decide

/-- No two kinds have the same words. -/
theorem message_injective {a b : ErrorKind} (h : a.message = b.message) : a = b := by
  cases a <;> cases b <;> first | rfl | exact absurd h (by decide)

end ErrorKind

/-- A mistake found while some characters of the query were left. -/
structure Failure where
  /-- What is wrong. -/
  kind : ErrorKind
  /-- How many characters stand from the mistake to the end of the query. -/
  left : Nat
  /-- The engine's refusal, where a pattern is what is wrong. -/
  cause : Option PatternError := none
deriving DecidableEq, Repr

/-- A mistake at a place in the query. -/
structure Error where
  /-- What is wrong. -/
  kind : ErrorKind
  /-- How many characters of the query stand before the mistake. -/
  position : Nat
  /-- The engine's refusal, where a pattern is what is wrong. -/
  cause : Option PatternError := none
deriving DecidableEq, Repr

/-- The mistake in words. -/
def Error.message (e : Error) : String :=
  e.kind.message ++ " at offset " ++ toString e.position

/-- The mistake at its place in a query of `length` characters. -/
def Failure.within (f : Failure) (length : Nat) : Error :=
  ⟨f.kind, length - f.left, f.cause⟩

end MarkupQuery.Query
