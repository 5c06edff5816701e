import MarkupQuery.View.Basic

/-!
The place of an element among its siblings.

* `number?`: the number that an element gets when the element children of its parent are counted, or
  those of its own tag alone, from one end or the other.
* `isOnly`: whether it is the only one that is counted; no more than two are looked at.
* `isEmpty`, `isRoot`: an element without element or text children, and one that is not under an
  element.
-/

namespace MarkupQuery.View

variable {N : Type}

/-- Whether a node is counted for an element: an element, where `ofType` one of the same tag. -/
def counts (v : View N) (ofType : Bool) (x y : N) : Bool :=
  v.isElement y && (!ofType || v.tag y == v.tag x)

/-- What is known on the way along the siblings of an element. -/
structure Tally where
  /-- How many have been counted. -/
  total : Int64 := 0
  /-- The number of the element itself, where it has been met. -/
  own : Option Int64 := none
deriving DecidableEq, Repr

/-- Counts along some siblings of an element. With `last` all of them are counted and the element
has the number of its last occurrence; without, the count ends at the first. -/
def tally [BEq N] (v : View N) (last ofType : Bool) (x : N) : Tally → List N → Tally
  | t, [] => t
  | t, y :: ys =>
    if v.counts ofType x y then
      let total := t.total + 1
      if y == x then
        if last then tally v last ofType x ⟨total, some total⟩ ys else ⟨total, some total⟩
      else tally v last ofType x ⟨total, t.own⟩ ys
    else tally v last ofType x t ys

/-- The number of an element among its siblings, from the last one where `last` is set. -/
def number? [BEq N] (v : View N) (last ofType : Bool) (x : N) : Option Int64 :=
  if v.isElement x then
    (v.parent x).bind fun p =>
      let t := v.tally last ofType x {} (v.children p)
      t.own.map fun position => if last then t.total - position + 1 else position
  else none

/-- Whether an element is the only one that is counted among its siblings. -/
def isOnly (v : View N) (ofType : Bool) (x : N) : Bool :=
  v.isElement x && (v.parent x).any fun p =>
    (((v.children p).filter (v.counts ofType x)).take 2).length == 1

/-- Whether an element has neither elements nor character data right under it. -/
def isEmpty (v : View N) (x : N) : Bool :=
  v.isElement x && !(v.children x).any fun y => v.kind y == .element || v.kind y == .text

/-- Whether an element is under no element. -/
def isRoot (v : View N) (x : N) : Bool :=
  v.isElement x && !(v.parent x).any v.isElement

end MarkupQuery.View
