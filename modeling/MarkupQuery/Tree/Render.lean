import MarkupQuery.Tree.Basic

/-!
Nodes as a person would write them: an element by its start tag, character data by its characters,
and a document, or a place that holds no node, by nothing.
-/

namespace MarkupQuery

/-- The attribute as it stands in a start tag. -/
def Attribute.render (a : Attribute) : String :=
  " " ++ a.name ++ "=\"" ++ a.value ++ "\""

/-- The start tag of an element. -/
def Element.startTag (e : Element) : String :=
  "<" ++ e.tag ++ String.join (e.attributes.map (·.render)) ++ ">"

namespace Tree

/-- The written form of the node at a place. -/
def render (t : Tree) (id : NodeId) : String :=
  match t.content? id with
  | some (.element e) => e.startTag
  | some content => content.payload
  | none => ""

/-- The place and the written form of a node, for a person to read. -/
def describe (t : Tree) (id : NodeId) : String :=
  "NodeRef(" ++ toString id ++ ", " ++ t.render id ++ ")"

end Tree

end MarkupQuery
