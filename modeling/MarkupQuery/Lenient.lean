import MarkupQuery.Query.Compile
import MarkupQuery.Selector.Search
import MarkupQuery.Warnings

/-!
Queries that never fail.

Here a query is given as text wherever a node or a list of nodes is searched, and an engine makes
its patterns. One with a mistake in it matches nothing, and the kind of the mistake is recorded as a
warning. The text of the query is not, so there are no more such warnings than kinds.

* `View.matchesQuery`, `View.find`, `View.findAll`: for one node.
* `Selection`: an ordered list of nodes, which may hold a node more than once; `Selection.find`,
  `Selection.filter` and `Selection.reject` search it.
-/

namespace MarkupQuery

/-- A computation that may leave warnings. -/
abbrev Warned (α : Type) := StateM Warnings α

/-- The component that warns of mistakes in queries. -/
def queryComponent : String := "Select"

/-- The text of the warning about a kind of mistake. -/
def Query.ErrorKind.warning (kind : Query.ErrorKind) : String :=
  "ignoring malformed selectors (" ++ kind.message ++ ")"

/-- Whether a mistake of this kind has left its warning. -/
def Warnings.hasKind (w : Warnings) (kind : Query.ErrorKind) : Bool :=
  w.has queryComponent kind.warning

/-- The selector of a query, or none and a warning. -/
def compileOrWarn (engine : Engine) (query : String) : Warned (Option Selector) :=
  match Query.compileWith engine query with
  | .ok selector => pure (some selector)
  | .error e => do
    modify fun w => w.record queryComponent e.kind.warning
    pure none

/-- What a query gives with its selector, or `fallback` if it has none. -/
def withQuery {α : Type} (engine : Engine) (query : String) (fallback : α) (run : Selector → α) :
    Warned α := do
  match ← compileOrWarn engine query with
  | some selector => pure (run selector)
  | none => pure fallback

theorem withQuery_of_ok {α : Type} {engine : Engine} {query : String} {s : Selector}
    (h : Query.compileWith engine query = .ok s) (fallback : α) (run : Selector → α) :
    withQuery engine query fallback run = pure (run s) := by
  rw [withQuery, compileOrWarn, h]
  rfl

theorem withQuery_of_error {α : Type} {engine : Engine} {query : String} {e : Query.Error}
    (h : Query.compileWith engine query = .error e) (fallback : α) (run : Selector → α) :
    withQuery engine query fallback run = (do
      modify fun w => w.record queryComponent e.kind.warning
      pure fallback) := by
  rw [withQuery, compileOrWarn, h]
  rfl

/-- What is made of the outcome may be made of each of the two outcomes that there are. -/
theorem map_withQuery {α β : Type} (g : α → β) (engine : Engine) (query : String) (fallback : α)
    (run : Selector → α) :
    g <$> withQuery engine query fallback run =
      withQuery engine query (g fallback) fun s => g (run s) := by
  cases h : Query.compileWith engine query with
  | ok s => rw [withQuery_of_ok h, withQuery_of_ok h, map_pure]
  | error e =>
    rw [withQuery_of_error h, withQuery_of_error h]
    rfl

/-- An ordered list of nodes. -/
structure Selection (N : Type) where
  /-- The members. -/
  nodes : List N := []
deriving DecidableEq, Repr

variable {N : Type} [BEq N]

namespace View

/-- Whether a node matches a query. -/
def matchesQuery (v : View N) (engine : Engine) (x : N) (query : String) : Warned Bool :=
  withQuery engine query false fun s => s.holds v x

/-- The matches of a query under a node. -/
def find (v : View N) (engine : Engine) (x : N) (query : String) : Warned (Selection N) :=
  withQuery engine query {} fun s => ⟨s.matchAll v x false⟩

/-- The matches of a query under a node, the node itself included. -/
def findAll (v : View N) (engine : Engine) (x : N) (query : String) : Warned (Selection N) :=
  withQuery engine query {} fun s => ⟨s.matchAll v x true⟩

end View

namespace Selection

/-- The matches of a query under each member, member by member. -/
def find (selection : Selection N) (engine : Engine) (v : View N) (query : String) :
    Warned (Selection N) :=
  withQuery engine query {} fun s => ⟨selection.nodes.flatMap fun x => s.matchAll v x false⟩

/-- The members that match a query. -/
def filter (selection : Selection N) (engine : Engine) (v : View N) (query : String) :
    Warned (Selection N) :=
  withQuery engine query {} fun s => ⟨s.keep v selection.nodes⟩

/-- The members that do not match a query; none if the query has a mistake in it. -/
def reject (selection : Selection N) (engine : Engine) (v : View N) (query : String) :
    Warned (Selection N) :=
  withQuery engine query {} fun s => ⟨s.drop v selection.nodes⟩

omit [BEq N]

/-- The values of an attribute, for the members that have it. -/
def values (selection : Selection N) (v : View N) (name : String) : List String :=
  selection.nodes.filterMap fun x => v.valueOf x name

/-- The text of all members, one after another. -/
def text (selection : Selection N) (v : View N) : String :=
  String.join (selection.nodes.map v.text)

/-- The first member. -/
def first? (selection : Selection N) : Option N :=
  selection.nodes.head?

/-- The members from the last to the first. -/
def reverse (selection : Selection N) : Selection N :=
  ⟨selection.nodes.reverse⟩

/-- The number of members. -/
def size (selection : Selection N) : Nat :=
  selection.nodes.length

/-- Whether there are no members. -/
def isEmpty (selection : Selection N) : Bool :=
  selection.nodes.isEmpty

end Selection

end MarkupQuery
