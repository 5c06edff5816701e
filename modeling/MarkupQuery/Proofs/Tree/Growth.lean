import Mathlib.Logic.Relation
import Mathlib.Tactic
import MarkupQuery.Tree.Basic

/-!
Trees that grow by their two operations.

* `Above`, `Covers`: the ancestors of a node along the parent links, without and with the node
  itself. `above_iff_of_parent` and `Covers.comparable` say that the way up is a single line.
* `Attachable`: what `Tree.append` asks of its caller. `Reachable`: the trees that come out of the
  bare document by `Tree.alloc` and by `Tree.append` where it may be called.
* `get?_append`: everything that hanging a node does, place by place. From it follow the four links
  of every node after `Tree.append` (`parent_append`, `children_append`, `next_append`,
  `previous_append`); `Tree.alloc` changes no link of any place.
-/

namespace MarkupQuery.Tree

open Relation

variable {t : Tree} {x y z p c : NodeId}

/-! ### Ancestors -/

/-- The node `p` is the parent of `c`. -/
def IsParent (t : Tree) (p c : NodeId) : Prop :=
  t.parent c = some p

/-- The node `y` is a proper ancestor of `x`. -/
def Above (t : Tree) (y x : NodeId) : Prop :=
  TransGen t.IsParent y x

/-- The node `y` is `x` itself or an ancestor of it. -/
def Covers (t : Tree) (y x : NodeId) : Prop :=
  ReflTransGen t.IsParent y x

lemma Covers.refl (t : Tree) (x : NodeId) : t.Covers x x := ReflTransGen.refl

lemma Covers.trans (h : t.Covers x y) (h' : t.Covers y z) : t.Covers x z :=
  ReflTransGen.trans h h'

lemma Above.covers (h : t.Above y x) : t.Covers y x := TransGen.to_reflTransGen h

lemma Above.trans (h : t.Above x y) (h' : t.Above y z) : t.Above x z := TransGen.trans h h'

lemma above_of_parent (h : t.parent x = some p) : t.Above p x := TransGen.single h

lemma covers_iff : t.Covers y x ↔ x = y ∨ t.Above y x := reflTransGen_iff_eq_or_transGen

/-- The proper ancestors of a node are what covers its parent. -/
lemma above_iff_of_parent (h : t.parent x = some p) : t.Above y x ↔ t.Covers y p := by
  constructor
  · intro ha
    obtain ⟨q, hyq, hq⟩ := TransGen.tail'_iff.mp ha
    have hpq : q = p := Option.some.inj (Eq.trans (Eq.symm hq) h)
    exact hpq ▸ hyq
  · exact fun hc => TransGen.tail' hc h

/-- A node without a parent has nothing above it. -/
lemma not_above_of_parent (h : t.parent x = none) : ¬ t.Above y x := by
  intro ha
  obtain ⟨q, _, hq⟩ := TransGen.tail'_iff.mp ha
  rw [IsParent, h] at hq
  cases hq

/-- Of two nodes that cover a third one covers the other. -/
lemma Covers.comparable (h : t.Covers x z) (h' : t.Covers y z) : t.Covers x y ∨ t.Covers y x := by
  induction h with
  | refl => exact Or.inr h'
  | @tail b c hb hc ih =>
      rcases covers_iff.mp h' with rfl | ha
      · exact Or.inl (ReflTransGen.tail hb hc)
      · exact ih ((above_iff_of_parent hc).mp ha)

/-- What is above a node covers it through one of its own children. -/
lemma Above.exists_child (h : t.Above y x) : ∃ c, t.parent c = some y ∧ t.Covers c x :=
  TransGen.head'_iff.mp h

/-! ### The trees that can be built -/

/-- When `child` may be hung under `parent`: both are nodes of the tree, the child hangs nowhere,
and the parent is neither the child nor below it. -/
structure Attachable (t : Tree) (parent child : NodeId) : Prop where
  parent_lt : parent < t.size
  child_lt : child < t.size
  hangs_nowhere : t.parent child = none
  not_covers : ¬ t.Covers child parent

/-- The trees that the two operations build from the bare document. -/
inductive Reachable : Tree → Prop where
  | bare : Reachable bare
  | alloc {t : Tree} (content : Content) (h : Reachable t) : Reachable (t.alloc content).1
  | append {t : Tree} {parent child : NodeId} (h : Reachable t)
      (ha : t.Attachable parent child) : Reachable (t.append parent child)

/-! ### Links after an operation -/

lemma get?_size (t : Tree) : t.get? t.size = none :=
  get?_eq_none_iff.mpr le_rfl

lemma get?_alloc_links (t : Tree) (content : Content) (x : NodeId) :
    (t.alloc content).1.parent x = t.parent x ∧ (t.alloc content).1.children x = t.children x ∧
      (t.alloc content).1.next x = t.next x ∧ (t.alloc content).1.previous x = t.previous x := by
  by_cases hx : x = t.size
  · subst hx
    simp [parent, children, next, previous, get?_alloc, get?_size]
  · simp [parent, children, next, previous, get?_alloc, hx]

@[simp] lemma parent_alloc (t : Tree) (content : Content) (x : NodeId) :
    (t.alloc content).1.parent x = t.parent x := (get?_alloc_links t content x).1

@[simp] lemma children_alloc (t : Tree) (content : Content) (x : NodeId) :
    (t.alloc content).1.children x = t.children x := (get?_alloc_links t content x).2.1

@[simp] lemma next_alloc (t : Tree) (content : Content) (x : NodeId) :
    (t.alloc content).1.next x = t.next x := (get?_alloc_links t content x).2.2.1

@[simp] lemma previous_alloc (t : Tree) (content : Content) (x : NodeId) :
    (t.alloc content).1.previous x = t.previous x := (get?_alloc_links t content x).2.2.2

lemma isParent_alloc (t : Tree) (content : Content) :
    (t.alloc content).1.IsParent = t.IsParent := by
  funext p c
  rw [IsParent, IsParent, parent_alloc]

lemma covers_alloc (content : Content) : (t.alloc content).1.Covers y x ↔ t.Covers y x := by
  rw [Covers, Covers, isParent_alloc]

/-- Everything that hanging `c` under `p` does, place by place. -/
lemma get?_append (t : Tree) (p c x : NodeId) :
    (t.append p c).get? x = (t.get? x).map fun n =>
      { n with
        parent := if c = x then some p else n.parent
        children := if p = x then n.children ++ [c] else n.children
        next := if (t.children p).getLast? = some x then some c else n.next
        previous := if c = x then (t.children p).getLast?.or n.previous else n.previous } := by
  rw [append]
  cases hl : (t.children p).getLast? with
  | none =>
      simp only [get?_update]
      cases t.get? x with
      | none => simp
      | some n => by_cases hp : p = x <;> by_cases hc : c = x <;> simp [hp, hc]
  | some l =>
      simp only [join, get?_update]
      cases t.get? x with
      | none => simp
      | some n =>
          by_cases hp : p = x <;> by_cases hc : c = x <;> by_cases hx : l = x <;>
            simp [hp, hc, hx]

/-- Only the child that is hung gets another parent. -/
lemma parent_append (hc : c < t.size) (p x : NodeId) :
    (t.append p c).parent x = if c = x then some p else t.parent x := by
  rw [parent, get?_append, parent]
  cases hx : t.get? x with
  | none =>
      have hne : c ≠ x := by
        rintro rfl
        exact absurd (get?_eq_none_iff.mp hx) (Nat.not_le_of_lt hc)
      simp [hne]
  | some n => simp

/-- Only the parent gets another child, at the end. -/
lemma children_append (hp : p < t.size) (c x : NodeId) :
    (t.append p c).children x = if p = x then t.children x ++ [c] else t.children x := by
  simp only [children, get?_append]
  cases hx : t.get? x with
  | none =>
      have hne : p ≠ x := by
        rintro rfl
        exact absurd (get?_eq_none_iff.mp hx) (Nat.not_le_of_lt hp)
      simp [hne]
  | some n => by_cases hpx : p = x <;> simp [hpx]

/-- Only the child that was the last one gets another neighbour behind it. -/
lemma next_append (hl : ∀ l, (t.children p).getLast? = some l → l < t.size) (c x : NodeId) :
    (t.append p c).next x = if (t.children p).getLast? = some x then some c else t.next x := by
  rw [next, get?_append, next]
  cases hx : t.get? x with
  | none =>
      have hne : (t.children p).getLast? ≠ some x := fun h =>
        absurd (get?_eq_none_iff.mp hx) (Nat.not_le_of_lt (hl x h))
      simp [hne]
  | some n => simp

/-- Only the child that is hung gets another neighbour before it. -/
lemma previous_append (hc : c < t.size) (p x : NodeId) :
    (t.append p c).previous x =
      if c = x then (t.children p).getLast?.or (t.previous x) else t.previous x := by
  simp only [previous, get?_append]
  cases hx : t.get? x with
  | none =>
      have hne : c ≠ x := by
        rintro rfl
        exact absurd (get?_eq_none_iff.mp hx) (Nat.not_le_of_lt hc)
      simp [hne]
  | some n => by_cases hcx : c = x <;> simp [hcx]

end MarkupQuery.Tree
