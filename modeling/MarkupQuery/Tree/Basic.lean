import MarkupQuery.Tree.Attribute

/-!
Markup trees in one array.

A node is named by its place in the array (`NodeId`), the document by `0`. It stores its parent, its
children in order, and the neighbours on its two sides. Two operations build every tree:
`Tree.alloc` adds a node that hangs nowhere, and `Tree.append` hangs it behind the last child of
another. A stored node changes only by `Tree.update`, at one place at a time.

* `get?_alloc`: a new node stands behind all others and changes none of them.
* `get?_update`: what an update does to each place.
* `content?_append`: hanging a node changes links alone.

Looking up a place that holds no node gives no content, no children and no neighbours.
-/

namespace MarkupQuery

/-- The place of a node in its tree. -/
abbrev NodeId := Nat

/-- The tag of an element, with its attributes in the order they were written. -/
structure Element where
  /-- The name of the element. -/
  tag : String
  /-- Its attributes. -/
  attributes : List Attribute
deriving DecidableEq, Repr

namespace Element

/-- The value of the first attribute of that name. -/
def valueOf? (e : Element) (name : String) : Option String :=
  Attribute.valueOf? name e.attributes

/-- The value of the attribute `id`. -/
def id? (e : Element) : Option String :=
  e.valueOf? "id"

end Element

/-- What a node is, apart from where it hangs. -/
inductive Content where
  /-- The root of a tree. -/
  | document
  /-- A document type declaration. -/
  | doctype (name : String)
  /-- An element. -/
  | element (e : Element)
  /-- Character data. -/
  | text (data : String)
  /-- A comment. -/
  | comment (data : String)
deriving DecidableEq, Repr

namespace Content

/-- The element of a node that is one. -/
def element? : Content → Option Element
  | .element e => some e
  | _ => none

/-- The characters that a node carries itself; elements and documents carry none. -/
def payload : Content → String
  | .doctype s | .text s | .comment s => s
  | .document | .element _ => ""

end Content

/-- A node with its links. -/
structure Node where
  /-- What the node is. -/
  content : Content
  /-- The node it hangs under. -/
  parent : Option NodeId := none
  /-- The nodes that hang under it, in order. -/
  children : List NodeId := []
  /-- The child of its parent right after it. -/
  next : Option NodeId := none
  /-- The child of its parent right before it. -/
  previous : Option NodeId := none
deriving DecidableEq, Repr

/-- A markup tree: its nodes, the document first. -/
structure Tree where
  /-- The nodes, each at the place that names it. -/
  nodes : Array Node
deriving DecidableEq

namespace Tree

/-- The document of every tree. -/
def root : NodeId := 0

/-- The tree of a document alone. -/
def bare : Tree := ⟨#[{ content := .document }]⟩

instance : Inhabited Tree := ⟨bare⟩

/-- The number of nodes, hanging or not. -/
def size (t : Tree) : Nat := t.nodes.size

/-- The node at a place. -/
def get? (t : Tree) (id : NodeId) : Option Node := t.nodes[id]?

/-- What the node at a place is. -/
def content? (t : Tree) (id : NodeId) : Option Content := (t.get? id).map (·.content)

/-- The element at a place. -/
def element? (t : Tree) (id : NodeId) : Option Element := (t.content? id).bind (·.element?)

/-- The characters of the text node at a place. -/
def textData? (t : Tree) (id : NodeId) : Option String :=
  match t.content? id with
  | some (.text data) => some data
  | _ => none

/-- The node that a node hangs under. -/
def parent (t : Tree) (id : NodeId) : Option NodeId := (t.get? id).bind (·.parent)

/-- The nodes that hang under a node, in order. -/
def children (t : Tree) (id : NodeId) : List NodeId := ((t.get? id).map (·.children)).getD []

/-- The child of the same parent right after a node. -/
def next (t : Tree) (id : NodeId) : Option NodeId := (t.get? id).bind (·.next)

/-- The child of the same parent right before a node. -/
def previous (t : Tree) (id : NodeId) : Option NodeId := (t.get? id).bind (·.previous)

/-- The first element that hangs under the document itself. -/
def documentElement? (t : Tree) : Option NodeId :=
  (t.children root).find? fun id => (t.element? id).isSome

/-! ### Growing a tree -/

/-- Adds a node that hangs nowhere, and tells its place. -/
def alloc (t : Tree) (content : Content) : Tree × NodeId :=
  (⟨t.nodes.push { content }⟩, t.size)

/-- Changes the node at a place. -/
def update (t : Tree) (id : NodeId) (f : Node → Node) : Tree :=
  ⟨t.nodes.modify id f⟩

/-- Makes `after` the neighbour behind `before`. -/
def join (t : Tree) (before after : NodeId) : Tree :=
  (t.update before fun n => { n with next := some after }).update after
    fun n => { n with previous := some before }

/-- Hangs `child` behind the last child of `parent`. It is meant for a child that hangs nowhere and
has `parent` nowhere under it. -/
def append (t : Tree) (parent child : NodeId) : Tree :=
  let linked := (t.update parent fun n => { n with children := n.children ++ [child] }).update child
    fun n => { n with parent := some parent }
  match (t.children parent).getLast? with
  | none => linked
  | some last => linked.join last child

@[simp] theorem size_bare : bare.size = 1 := rfl

@[simp] theorem size_alloc (t : Tree) (content : Content) :
    (t.alloc content).1.size = t.size + 1 := by
  simp [alloc, size]

@[simp] theorem size_update (t : Tree) (id : NodeId) (f : Node → Node) :
    (t.update id f).size = t.size := by
  simp [update, size]

@[simp] theorem size_append (t : Tree) (parent child : NodeId) :
    (t.append parent child).size = t.size := by
  rw [append]
  split <;> simp [join]

theorem get?_eq_none_iff {t : Tree} {id : NodeId} : t.get? id = none ↔ t.size ≤ id := by
  simp [get?, size]

/-- A new node stands behind all others and changes none of them. -/
theorem get?_alloc (t : Tree) (content : Content) (id : NodeId) :
    (t.alloc content).1.get? id = if id = t.size then some { content } else t.get? id := by
  by_cases h : id = t.size <;> simp_all [alloc, get?, size, Array.getElem?_push]

theorem get?_update (t : Tree) (id : NodeId) (f : Node → Node) (other : NodeId) :
    (t.update id f).get? other = if id = other then (t.get? other).map f else t.get? other := by
  by_cases h : id = other <;> simp_all [update, get?, Array.getElem?_modify]

/-- An update that keeps the content of its node keeps the content of every node. -/
theorem content?_update (t : Tree) (id : NodeId) {f : Node → Node}
    (hf : ∀ n, (f n).content = n.content) (other : NodeId) :
    (t.update id f).content? other = t.content? other := by
  simp only [content?, get?_update]
  split
  · cases t.get? other <;> simp [hf]
  · rfl

/-- Hanging a node changes links alone. -/
@[simp] theorem content?_append (t : Tree) (parent child id : NodeId) :
    (t.append parent child).content? id = t.content? id := by
  rw [append]
  split <;> simp [join, content?_update]

end Tree

end MarkupQuery
