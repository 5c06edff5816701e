import MarkupQuery.Proofs.Tree.Building

/-!
What a query may rely on.

`Consistent` puts together what the walks of a query need of a tree: the links agree, the way up
from a node meets no node twice and ends at one without a parent, and neither a walk along siblings
nor a recursion over the lists of children goes on for ever. Every tree has it that comes out of the
two operations, whole subtrees hung at once included, and every tree that markup describes.
-/

namespace MarkupQuery.Tree

open Relation

variable {t : Tree} {x p c : NodeId}

/-- The links of a tree agree, and every walk along them ends. -/
structure Consistent (t : Tree) : Prop where
  linked : t.Linked
  ancestors_lt : ∀ x, (t.view.ancestors x).length < t.size
  ancestors_nodup : ∀ x, (x :: t.view.ancestors x).Nodup
  ancestors_chain : ∀ x, (x :: t.view.ancestors x).IsChain fun c p => t.parent c = some p
  ancestors_top : ∀ x, t.parent (t.view.root x) = none
  up_ends : WellFounded fun p c => t.parent c = some p
  left_ends : WellFounded fun y x => t.previous x = some y
  preceding_eq : ∀ p before x after, t.children p = before ++ x :: after →
    t.view.preceding x = before.reverse
  down_ends : WellFounded fun c p => c ∈ t.children p
  descendants_eq : ∀ x, t.view.descendants x =
    (t.children x).flatMap fun y => y :: t.view.descendants y

lemma Linked.consistent (h : t.Linked) : t.Consistent where
  linked := h
  ancestors_lt := h.length_ancestors_lt
  ancestors_nodup := h.nodup_cons_ancestors
  ancestors_chain := h.isChain_ancestors
  ancestors_top := h.parent_root
  up_ends := h.wellFounded
  left_ends := h.wellFounded_previous
  preceding_eq _ _ _ _ hs := h.preceding_eq hs
  down_ends := h.wellFounded_children
  descendants_eq := h.descendants_eq

/-- A child that hangs nowhere may be hung under another node that hangs nowhere. -/
lemma attachable_of_no_parent (hp : p < t.size) (hc : c < t.size) (hcn : t.parent c = none)
    (hpn : t.parent p = none) (hne : p ≠ c) : t.Attachable p c where
  parent_lt := hp
  child_lt := hc
  hangs_nowhere := hcn
  not_covers h := (covers_iff.mp h).elim hne (not_above_of_parent hpn)

/-- **The links of every tree agree**, and every walk along them ends: for the trees that come out
of the two operations and for those that markup describes. -/
theorem consistent_of_grown :
    (∀ t : Tree, t.Reachable → t.Consistent) ∧
      ∀ events : List Event, (ofEvents events).Consistent :=
  ⟨fun _ h => h.linked.consistent, fun events => (reachable_ofEvents events).linked.consistent⟩

/-- A tree whose nodes hang in another order than they were added in: the third is the first child
of the document and has the second below it, and the first comes last. -/
def hungBackwards : Tree :=
  (((((bare.alloc (.element ⟨"p", []⟩)).1.alloc (.text "a")).1.alloc
    (.element ⟨"div", []⟩)).1.append 3 2).append 0 3).append 0 1

lemma reachable_hungBackwards : hungBackwards.Reachable := by
  have h := ((Reachable.bare.alloc (.element ⟨"p", []⟩)).alloc (.text "a")).alloc
    (.element ⟨"div", []⟩)
  have h₁ := h.append (attachable_of_no_parent (p := 3) (c := 2) (by decide) (by decide)
    (by decide) (by decide) (by decide))
  have h₂ := h₁.append (attachable_of_no_parent (p := 0) (c := 3) (by decide) (by decide)
    (by decide) (by decide) (by decide))
  exact h₂.append (attachable_of_no_parent (p := 0) (c := 1) (by decide) (by decide) (by decide)
    (by decide) (by decide))

theorem consistent_hungBackwards : hungBackwards.Reachable ∧ hungBackwards.Consistent :=
  ⟨reachable_hungBackwards, consistent_of_grown.1 hungBackwards reachable_hungBackwards⟩

end MarkupQuery.Tree
