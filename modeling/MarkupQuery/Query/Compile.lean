import MarkupQuery.Pattern.Engines
import MarkupQuery.Query.Grammar

/-!
From the text of a query to a selector.

* `Cursor`: a place in a query. `Cursor.read` applies one rule of the grammar there and tells where
  it ends, or what is wrong and where.
* `compileWith`: the selector of a whole query; nothing may be left over.
* `compile`: the same as the program runs it, where patterns are regular expressions.
-/

namespace MarkupQuery.Query

/-- A place in a query. -/
structure Cursor where
  /-- How many characters stand before the place. -/
  position : Nat
  /-- The characters from the place on. -/
  rest : List Char

namespace Cursor

/-- The start of a query. -/
def start (query : String) : Cursor := ⟨0, query.toList⟩

/-- Whether the whole query stands before the place. -/
def atEnd (c : Cursor) : Bool := c.rest.isEmpty

/-- The number of characters in the query. -/
def length (c : Cursor) : Nat := c.position + c.rest.length

/-- Applies a rule at the place. -/
def read {α : Type} (c : Cursor) (rule : Rule α) : Except Error (α × Cursor) :=
  match rule c.rest with
  | .ok (value, rest) => .ok (value, ⟨c.length - rest.length, rest⟩)
  | .error failure => .error (failure.within c.length)

end Cursor

/-- The selector of a query whose patterns an engine makes. -/
def compileWith (engine : Engine) (query : String) : Except Error Selector := do
  let (selector, cursor) ← (Cursor.start query).read (selectorList engine)
  if cursor.atEnd then .ok selector else .error ⟨.unexpectedToken, cursor.position, none⟩

/-- The selector of a query. -/
def compile (query : String) : Except Error Selector :=
  compileWith .regex query

end MarkupQuery.Query
