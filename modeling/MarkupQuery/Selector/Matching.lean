import MarkupQuery.Selector.Basic
import MarkupQuery.View.Siblings
import MarkupQuery.View.Text
import MarkupQuery.View.Walk

/-!
Which nodes a selector matches.

`Selector.holds` decides it for one node of a view. The equations `holds_not`, `holds_all`,
`holds_any`, `holds_complex` and their like say what each way of putting selectors together means,
and `holds_inter` and `holds_union` what the flat forms do.
-/

namespace MarkupQuery

variable {N : Type}

namespace View

/-- The tags of form controls. -/
def controlTags : List String :=
  ["input", "select", "textarea", "button"]

/-- The tags of elements that lead somewhere. -/
def linkTags : List String :=
  ["a", "area"]

/-- Whether the tag of a node is one of those listed, whatever the case of its letters. -/
def hasTagIn (v : View N) (tags : List String) (x : N) : Bool :=
  (v.tag x).any fun name => tags.any (sameName name)

/-- Whether the node is a form control. -/
def isControl (v : View N) (x : N) : Bool :=
  v.hasTagIn controlTags x

/-- Whether the node has a value for an attribute. -/
def has (v : View N) (name : String) (x : N) : Bool :=
  (v.valueOf x name).isSome

/-- Whether some node at most `n` levels under `x` passes the test. Only elements are looked
into. -/
def anyUnder (v : View N) (test : N → Bool) : Nat → N → Bool
  | 0, _ => false
  | n + 1, x => (v.children x).any fun y =>
    test y || (v.isElement y && anyUnder v test n y)

end View

/-- Whether a node passes a test. -/
def Test.holds [BEq N] (v : View N) (x : N) : Test → Bool
  | tag name => (v.tag x).any fun own => sameName own name
  | hasAttribute name value =>
    v.isElement x && (v.attributes x).any fun a => a.isNamed name && value.accepts a.value
  | nthChild formula last ofType => (v.number? last ofType x).any formula.picks
  | onlyChild ofType => v.isOnly ofType x
  | empty => v.isEmpty x
  | input => v.isControl x
  | root => v.isRoot x
  | link => v.hasTagIn View.linkTags x && v.has "href" x
  | enabled => v.isControl x && !v.has "disabled" x
  | disabled => v.isControl x && v.has "disabled" x
  | contains needle own =>
    occursIn needle.toList (lowercase (v.scopedText own x)).toList
  | textMatches pattern own => pattern.hits (v.scopedText own x)

/-- The nodes that stand in a relation to a node, nearest first. -/
def Combinator.partners (v : View N) (x : N) : Combinator → List N
  | descendant => v.ancestors x
  | child => (v.parent x).toList
  | nextSibling =>
    ((v.preceding x).find? fun y => !(v.kind y == .text || v.kind y == .comment)).toList
  | subsequentSibling => v.preceding x

namespace Selector

mutual

/-- Whether the selector matches a node. -/
def holds [BEq N] (v : View N) : Selector → N → Bool
  | universal, _ => true
  | simple test, x => test.holds v x
  | not inner, x => !inner.holds v x
  | has inner, x => v.isElement x && v.anyUnder (inner.holds v) v.size x
  | hasChild inner, x => v.isElement x && (v.children x).any (inner.holds v)
  | all members, x => holdsAll v members x
  | any members, x => holdsAny v members x
  | complex relation left right, x =>
    right.holds v x && (relation.partners v x).any (left.holds v)

/-- Whether every selector of the list matches a node. -/
def holdsAll [BEq N] (v : View N) : List Selector → N → Bool
  | [], _ => true
  | s :: ss, x => s.holds v x && holdsAll v ss x

/-- Whether some selector of the list matches a node. -/
def holdsAny [BEq N] (v : View N) : List Selector → N → Bool
  | [], _ => false
  | s :: ss, x => s.holds v x || holdsAny v ss x

end

section

variable [BEq N] (v : View N) (x : N)

theorem holdsAll_eq (members : List Selector) :
    holdsAll v members x = members.all (·.holds v x) := by
  induction members with
  | nil => rfl
  | cons s ss ih => simp [holdsAll, ih]

theorem holdsAny_eq (members : List Selector) :
    holdsAny v members x = members.any (·.holds v x) := by
  induction members with
  | nil => rfl
  | cons s ss ih => simp [holdsAny, ih]

@[simp] theorem holds_universal : universal.holds v x = true := rfl

@[simp] theorem holds_simple (test : Test) : (simple test).holds v x = test.holds v x := rfl

@[simp] theorem holds_not (inner : Selector) : (not inner).holds v x = !inner.holds v x := rfl

@[simp] theorem holds_all (members : List Selector) :
    (all members).holds v x = members.all (·.holds v x) :=
  holdsAll_eq v x members

@[simp] theorem holds_any (members : List Selector) :
    (any members).holds v x = members.any (·.holds v x) :=
  holdsAny_eq v x members

@[simp] theorem holds_complex (relation : Combinator) (left right : Selector) :
    (complex relation left right).holds v x =
      (right.holds v x && (relation.partners v x).any (left.holds v)) := rfl

theorem holds_inter (a b : Selector) :
    (inter a b).holds v x = (a.holds v x && b.holds v x) := by
  unfold inter
  split <;> simp

theorem holds_union (a b : Selector) :
    (union a b).holds v x = (a.holds v x || b.holds v x) := by
  unfold union
  split <;> simp

end

end Selector

end MarkupQuery
