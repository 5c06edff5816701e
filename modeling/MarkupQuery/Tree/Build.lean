import MarkupQuery.Tree.Basic

/-!
Trees from markup events.

Events come in the order in which markup is read: a start tag opens an element and makes it the one
that further nodes go into, an end tag goes back to the one around it. An end tag with no element
open is passed over, and elements still open at the end count as closed. `Tree.ofEvents` is the tree
that a sequence of events describes; its nodes stand in the order of their events.
-/

namespace MarkupQuery

/-- A piece of markup. -/
inductive Event where
  /-- A document type declaration. -/
  | doctype (name : String)
  /-- The start of an element with something to come inside. -/
  | startTag (e : Element)
  /-- An element with nothing inside. -/
  | emptyTag (e : Element)
  /-- Character data. -/
  | text (data : String)
  /-- A comment. -/
  | comment (data : String)
  /-- The end of the innermost open element. -/
  | endTag
deriving DecidableEq, Repr

/-- A tree in the making. -/
structure Builder where
  /-- The tree so far. -/
  tree : Tree := .bare
  /-- The elements that are open, innermost first. The document is always open and not listed. -/
  openElements : List NodeId := []

namespace Builder

/-- The node that the next piece of markup goes into. -/
def current (b : Builder) : NodeId :=
  b.openElements.headD Tree.root

/-- Adds a node to the current one, and tells its place. -/
def insert (b : Builder) (content : Content) : Builder × NodeId :=
  let (tree, id) := b.tree.alloc content
  ({ b with tree := tree.append b.current id }, id)

/-- Takes one piece of markup. -/
def take (b : Builder) : Event → Builder
  | .doctype name => (b.insert (.doctype name)).1
  | .startTag e =>
    let (b, id) := b.insert (.element e)
    { b with openElements := id :: b.openElements }
  | .emptyTag e => (b.insert (.element e)).1
  | .text data => (b.insert (.text data)).1
  | .comment data => (b.insert (.comment data)).1
  | .endTag => { b with openElements := b.openElements.tail }

@[simp] theorem size_insert (b : Builder) (content : Content) :
    (b.insert content).1.tree.size = b.tree.size + 1 := by
  simp [insert]

end Builder

/-- The tree that a sequence of markup describes. -/
def Tree.ofEvents (events : List Event) : Tree :=
  (events.foldl Builder.take {}).tree

end MarkupQuery
