import MarkupQuery.Proofs.Tree.Building

/-!
Document order.

`Precedes` says which nodes come first by the shape of a tree alone: a node before everything under
it, and what an earlier child covers before what a later one covers. The list of descendants keeps
to it (`sublist_of_precedes`): two nodes of the list in this relation stand there in this order. The
subtree of each node stands in it as a whole (`sublist_of_covers`).

In a tree that markup describes document order is the order of the numbers, so every such list grows
(`pairwise_lt_ofEvents`).
-/

namespace MarkupQuery.Tree

open Relation

variable {t : Tree} {x y z p : NodeId}

/-- The node `y` comes before `z` in document order. -/
def Precedes (t : Tree) (y z : NodeId) : Prop :=
  t.Above y z ∨ ∃ p a b, [a, b].Sublist (t.children p) ∧ t.Covers a y ∧ t.Covers b z

namespace Linked

variable (h : t.Linked)

include h

/-- The subtrees of some children stand in the list of the parent in the order of the children. -/
lemma sublist_of_children {l : List NodeId} (hl : l.Sublist (t.children x)) :
    (l.flatMap fun y => y :: t.view.descendants y).Sublist (t.view.descendants x) := by
  rw [h.descendants_eq x]
  exact hl.flatMap _

/-- The subtree of a node stands as a whole in every list that has the node. -/
lemma sublist_of_covers (hc : t.Covers x y) :
    (y :: t.view.descendants y).Sublist (x :: t.view.descendants x) := by
  induction hc using ReflTransGen.head_induction_on with
  | refl => exact List.Sublist.refl _
  | @head x c hxc _ ih =>
      have hmem : [c].Sublist (t.children x) := by
        rw [List.singleton_sublist]
        exact h.mem_children.mpr hxc
      have hsub := h.sublist_of_children hmem
      rw [List.flatMap_singleton] at hsub
      exact (ih.trans hsub).trans (List.sublist_cons_self _ _)

/-- What two children of a node cover is listed in the order of the children. -/
lemma sublist_of_siblings {a b : NodeId} (hab : [a, b].Sublist (t.children p))
    (ha : t.Covers a y) (hb : t.Covers b z) :
    [y, z].Sublist (p :: t.view.descendants p) := by
  have hsub := h.sublist_of_children hab
  rw [List.flatMap_cons, List.flatMap_singleton] at hsub
  have hy : [y].Sublist (a :: t.view.descendants a) := by
    rw [List.singleton_sublist]
    exact h.mem_cons_descendants.mpr ha
  have hz : [z].Sublist (b :: t.view.descendants b) := by
    rw [List.singleton_sublist]
    exact h.mem_cons_descendants.mpr hb
  exact ((hy.append hz).trans hsub).trans (List.sublist_cons_self _ _)

/-- The list of a node keeps document order. -/
lemma sublist_of_precedes (hy : t.Covers x y) (hz : t.Covers x z) (hp : t.Precedes y z) :
    [y, z].Sublist (x :: t.view.descendants x) := by
  rcases hp with hyz | ⟨p, a, b, hab, ha, hb⟩
  · have hmem : [z].Sublist (t.view.descendants y) := by
      rw [List.singleton_sublist]
      exact h.mem_descendants.mpr hyz
    exact (hmem.cons_cons y).trans (h.sublist_of_covers hy)
  · have hap : t.parent a = some p := h.mem_children.mp (hab.subset (by simp))
    have hbp : t.parent b = some p := h.mem_children.mp (hab.subset (by simp))
    have hne : a ≠ b := by
      have hnd := hab.nodup (h.nodup_children p)
      simpa using hnd
    -- `x` is not below `a`, for then `z` would be below both children
    have hxa : ¬ t.Covers a x := fun hax => hne (h.eq_of_covers hap hbp (hax.trans hz) hb)
    have hxp : t.Covers x p := by
      rcases hy.comparable ha with hxa' | hax
      · rcases covers_iff.mp hxa' with rfl | habove
        · exact absurd (Covers.refl t a) hxa
        · exact (above_iff_of_parent hap).mp habove
      · exact absurd hax hxa
    exact (h.sublist_of_siblings hab ha hb).trans (h.sublist_of_covers hxp)

/-- The list of a node is in document order. -/
lemma pairwise_precedes (x : NodeId) : (x :: t.view.descendants x).Pairwise t.Precedes := by
  induction x using h.wellFounded_children.induction with
  | _ x ih =>
      refine List.pairwise_cons.mpr ⟨fun y hy => Or.inl (h.mem_descendants.mp hy), ?_⟩
      rw [h.descendants_eq, List.pairwise_flatMap]
      refine ⟨ih, List.pairwise_iff_forall_sublist.mpr fun {a b} hab y hy z hz => ?_⟩
      exact Or.inr ⟨x, a, b, hab, h.mem_cons_descendants.mp hy, h.mem_cons_descendants.mp hz⟩

end Linked

/-! ### Trees from markup -/

/-- The nodes of a tree that markup describes are listed in the order of their numbers. -/
lemma pairwise_lt_ofEvents (events : List Event) (x : NodeId) :
    (x :: (ofEvents events).view.descendants x).Pairwise (· < ·) := by
  have h := (reachable_ofEvents events).linked
  by_cases hx : x < (ofEvents events).size
  · have hcov : (ofEvents events).Covers root x := by
      rw [← h.mem_cons_descendants, descendants_root_ofEvents]
      exact List.mem_range.mpr hx
    have hsub := h.sublist_of_covers hcov
    rw [descendants_root_ofEvents] at hsub
    exact List.pairwise_lt_range.sublist hsub
  · have hnil : (ofEvents events).view.descendants x = [] := by
      rw [h.descendants_eq, children, get?_eq_none_iff.mpr (Nat.le_of_not_lt hx)]
      rfl
    rw [hnil]
    exact List.pairwise_singleton _ _

end MarkupQuery.Tree
