import MarkupQuery.Tree.Basic

/-!
Nodes among several trees.

A place names a node only within its tree. A `Handle` says which tree is meant, so that the nodes of
a tree and those of a copy of it are told apart however alike they are.
-/

namespace MarkupQuery

/-- A node of one of several trees. -/
structure Handle where
  /-- The number of the tree. -/
  tree : Nat
  /-- The place of the node in it. -/
  id : NodeId
deriving DecidableEq, Repr

end MarkupQuery
