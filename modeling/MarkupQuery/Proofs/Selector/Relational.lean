import MarkupQuery.Proofs.Selector.Search
import MarkupQuery.Proofs.View.Renaming

/-!
Looking below an element.

A condition on what an element contains is decided by a recursion that goes down through elements
alone. In a tree that markup describes nothing else below the element has nodes under it, so the
recursion misses none of them:

* `Linked.anyUnder_eq_of_le`, `Linked.anyUnder_eq`: no greater count makes a difference, so the
  recursion goes without one;
* `anyUnder_eq_any_descendants`: it asks every descendant;
* `holds_has_spec`: so the condition says that a search below the element finds something, and that
  a match somewhere in the tree has the element above it; with `hasChild`, right above it.
-/

namespace MarkupQuery

open MarkupQuery.Tree

namespace Tree

variable {t : Tree} {events : List Event}

/-- A greater count asks no more nodes. -/
lemma Linked.anyUnder_eq_of_le (h : t.Linked) (test : NodeId → Bool) {n : ℕ} (hn : t.size ≤ n)
    (x : NodeId) : t.view.anyUnder test n x = t.view.anyUnder test t.size x := by
  have hf : ∀ n m x,
      (∀ y ∈ t.children x, t.view.anyUnder test n y = t.view.anyUnder test m y) →
      t.view.anyUnder test (n + 1) x = t.view.anyUnder test (m + 1) x := by
    intro n m x hy
    exact View.any_eq_of_mem fun y hmem => by rw [hy y hmem]
  exact h.fuel_enough hf hn x

/-- What is asked below a node: its children, and what is below those that are elements. -/
lemma Linked.anyUnder_eq (h : t.Linked) (test : NodeId → Bool) (x : NodeId) :
    t.view.anyUnder test t.size x = (t.children x).any fun y =>
      test y || (t.view.isElement y && t.view.anyUnder test t.size y) :=
  (h.anyUnder_eq_of_le test (Nat.le_succ t.size) x).symm

/-- Asking through elements alone asks every descendant. -/
lemma anyUnder_eq_any_descendants (test : NodeId → Bool) (x : NodeId) :
    (ofEvents events).view.anyUnder test (ofEvents events).size x =
      ((ofEvents events).view.descendants x).any test := by
  have h := (reachable_ofEvents events).linked
  induction x using h.wellFounded_children.induction with
  | _ x ih =>
      rw [h.anyUnder_eq, h.descendants_eq, List.any_flatMap]
      refine View.any_eq_of_mem fun y hy => ?_
      rw [List.any_cons, ih y hy]
      cases he : (ofEvents events).view.isElement y with
      | true => rw [Bool.true_and]
      | false => rw [descendants_of_not_isElement (h.mem_children.mp hy) he]; rfl

end Tree

namespace Selector

variable {events : List Event} {s : Selector} {x y : NodeId}

lemma holds_has :
    (has s).holds (ofEvents events).view x = true ↔
      (ofEvents events).view.isElement x = true ∧
        ∃ y ∈ (ofEvents events).view.descendants x, s.holds (ofEvents events).view y = true := by
  rw [holds, Bool.and_eq_true, show (ofEvents events).view.size = (ofEvents events).size from rfl,
    anyUnder_eq_any_descendants, List.any_eq_true]

lemma holds_hasChild {t : Tree} :
    (hasChild s).holds t.view x = true ↔
      t.view.isElement x = true ∧ ∃ y ∈ t.children x, s.holds t.view y = true := by
  rw [holds, Bool.and_eq_true, List.any_eq_true]
  rfl

/-- **What an element contains is what a search below it finds**: the condition on the descendants
holds of an element just if the search finds some node, and just if the element is above some match.
The condition on the children holds just if it is the parent of one. -/
theorem holds_has_spec (events : List Event) (s : Selector) (x : NodeId) :
    ((has s).holds (ofEvents events).view x = true ↔
      (ofEvents events).view.isElement x = true ∧
        s.matchAll (ofEvents events).view x false ≠ []) ∧
    ((has s).holds (ofEvents events).view x = true ↔
      (ofEvents events).view.isElement x = true ∧
        ∃ y, s.holds (ofEvents events).view y = true ∧ x ∈ (ofEvents events).view.ancestors y) ∧
    ((hasChild s).holds (ofEvents events).view x = true ↔
      (ofEvents events).view.isElement x = true ∧
        ∃ y, s.holds (ofEvents events).view y = true ∧
          (ofEvents events).view.parent y = some x) := by
  have h := (reachable_ofEvents events).linked
  refine ⟨?_, ?_, ?_⟩
  · rw [holds_has, matchAll_eq_filter, ne_eq, List.filter_eq_nil_iff]
    simp
  · rw [holds_has]
    refine and_congr_right fun _ => exists_congr fun y => ?_
    rw [h.mem_descendants, h.mem_ancestors, and_comm]
  · rw [holds_hasChild]
    refine and_congr_right fun _ => exists_congr fun y => ?_
    rw [h.mem_children, and_comm]
    rfl

end Selector

end MarkupQuery
