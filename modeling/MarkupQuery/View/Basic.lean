import MarkupQuery.Tree.Basic

/-!
What a query may ask of a tree.

A `View N` answers questions about nodes of the type `N`. Queries see a tree only through a view, so
they run over any tree that has one. A view may look an attribute up in its own way; one that does
not takes the first attribute of the name (`View.plain` does this for any view).

Every answer leads to finitely many nodes, of which `size` is a bound: a walk along parents,
siblings or children of a tree meets no node twice, so it ends within `size` steps.

`Tree.view` is the view of an array tree.
-/

namespace MarkupQuery

/-- The kinds of nodes. -/
inductive NodeKind where
  /-- A tag with attributes and children. -/
  | element
  /-- Character data. -/
  | text
  /-- A comment. -/
  | comment
  /-- The root of a tree. -/
  | document
  /-- A document type declaration. -/
  | doctype
  /-- No node of the tree. -/
  | error
deriving DecidableEq, Repr

/-- The name of a kind. -/
def NodeKind.name : NodeKind → String
  | element => "Element"
  | text => "Text"
  | comment => "Comment"
  | document => "Document"
  | doctype => "Doctype"
  | error => "Error"

/-- The questions that a query asks about nodes. -/
structure View (N : Type) where
  /-- The kind of a node. -/
  kind : N → NodeKind
  /-- The tag of an element. -/
  tag : N → Option String
  /-- The characters that a node carries itself. -/
  payload : N → String
  /-- The attributes of an element, in order. -/
  attributes : N → List Attribute
  /-- The value of an attribute. -/
  valueOf : N → String → Option String := fun n name => Attribute.valueOf? name (attributes n)
  /-- The nodes under a node, in order. -/
  children : N → List N
  /-- The node that a node is under. -/
  parent : N → Option N
  /-- The node before a node under the same parent. -/
  previous : N → Option N
  /-- A bound on the number of nodes. -/
  size : Nat

namespace View

variable {N : Type}

/-- Whether the node is an element. -/
def isElement (v : View N) (n : N) : Bool :=
  v.kind n == .element

/-- The same answers, but every attribute is looked up among those listed. -/
def plain (v : View N) : View N :=
  { v with valueOf := fun n name => Attribute.valueOf? name (v.attributes n) }

end View

/-- The kind of a node of this content. -/
def Content.kind : Content → NodeKind
  | .document => .document
  | .doctype _ => .doctype
  | .element _ => .element
  | .text _ => .text
  | .comment _ => .comment

/-- The view of an array tree. An element looks its attributes up itself. -/
def Tree.view (t : Tree) : View NodeId where
  kind id := ((t.content? id).map (·.kind)).getD .error
  tag id := (t.element? id).map (·.tag)
  payload id := ((t.content? id).map (·.payload)).getD ""
  attributes id := ((t.element? id).map (·.attributes)).getD []
  valueOf id name := (t.element? id).bind (·.valueOf? name)
  children := t.children
  parent := t.parent
  previous := t.previous
  size := t.size

end MarkupQuery
