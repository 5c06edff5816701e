import MarkupQuery.View.Basic

/-!
Walks over a tree.

* `ancestors`: from the parent of a node up to the root.
* `preceding`: from the sibling before a node back to the first.
* `descendants`: everything under a node, each node before what is under it and the children in
  their order.
* `root`: where the way up from a node ends.
-/

namespace MarkupQuery.View

variable {N : Type}

/-- The nodes met by following `next` from a node, at most `n` of them. -/
def walk (next : N → Option N) : Nat → N → List N
  | 0, _ => []
  | n + 1, x =>
    match next x with
    | none => []
    | some y => y :: walk next n y

/-- The nodes above a node, the parent first. -/
def ancestors (v : View N) (x : N) : List N :=
  walk v.parent v.size x

/-- The siblings before a node, the nearest first. -/
def preceding (v : View N) (x : N) : List N :=
  walk v.previous v.size x

/-- The topmost node that is met on the way up from a node, itself if it has no parent. -/
def root (v : View N) (x : N) : N :=
  (v.ancestors x).getLastD x

/-- The nodes at most `n` levels under a node, in document order. -/
def under (v : View N) : Nat → N → List N
  | 0, _ => []
  | n + 1, x => (v.children x).flatMap fun y => y :: under v n y

/-- The nodes under a node, in document order. -/
def descendants (v : View N) (x : N) : List N :=
  v.under v.size x

theorem walk_succ (next : N → Option N) (n : Nat) (x : N) :
    walk next (n + 1) x = (next x).elim [] fun y => y :: walk next n y := by
  rw [walk]
  cases next x <;> rfl

end MarkupQuery.View
