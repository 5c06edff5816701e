import MarkupQuery.Proofs.Tree.Walks

/-!
What an operation leaves as it was.

A new node changes nothing for the nodes that are there (`descendants_alloc`). Hanging `c` under `p`
changes the ancestors of what `c` covers and the descendants of what covers `p`, and of nothing else
(`ancestors_append_of_not_covers`, `descendants_append_of_not_covers`). Under `p` itself the new
nodes come last (`descendants_append_self`), and so they do under everything that covers `p` as long
as no node on the way has a sibling behind it (`descendants_append_of_covers`).
-/

namespace MarkupQuery.Tree

open Relation

variable {t : Tree} {x y p c : NodeId}

/-- An ancestry that does not meet the hung child was there before. -/
lemma covers_append_iff (ha : t.Attachable p c) (hx : ¬ t.Covers c x) :
    (t.append p c).Covers y x ↔ t.Covers y x := by
  constructor
  · intro h
    induction h with
    | refl => exact Covers.refl t y
    | @tail b d _ hd ih =>
        have hcd : c ≠ d := by
          rintro rfl
          exact hx (Covers.refl t c)
        rw [IsParent, parent_append ha.child_lt, if_neg hcd] at hd
        exact ReflTransGen.tail (ih fun hb => hx (ReflTransGen.tail hb hd)) hd
  · intro h
    induction h with
    | refl => exact Covers.refl _ y
    | @tail b d _ hd ih =>
        have hcd : c ≠ d := by
          rintro rfl
          exact hx (Covers.refl t c)
        refine ReflTransGen.tail (ih fun hb => hx (ReflTransGen.tail hb hd)) ?_
        rw [IsParent, parent_append ha.child_lt, if_neg hcd]
        exact hd

namespace Linked

variable (h : t.Linked)

include h

lemma ancestors_alloc (content : Content) (x : NodeId) :
    (t.alloc content).1.view.ancestors x = t.view.ancestors x := by
  induction x using h.wellFounded.induction with
  | _ x ih =>
      rw [(h.alloc content).ancestors_eq, h.ancestors_eq, parent_alloc]
      cases hx : t.parent x with
      | none => rfl
      | some p => rw [Option.elim_some, Option.elim_some, ih p hx]

/-- A new node is under none of the others. -/
lemma descendants_alloc (content : Content) (x : NodeId) :
    (t.alloc content).1.view.descendants x = t.view.descendants x := by
  induction x using h.wellFounded_children.induction with
  | _ x ih =>
      rw [(h.alloc content).descendants_eq, h.descendants_eq, children_alloc]
      exact List.flatMap_congr fun y hy => by rw [ih y hy]

variable (ha : t.Attachable p c)

include ha

lemma ancestors_append_of_not_covers (hx : ¬ t.Covers c x) :
    (t.append p c).view.ancestors x = t.view.ancestors x := by
  induction x using h.wellFounded.induction with
  | _ x ih =>
      have hcx : c ≠ x := by
        rintro rfl
        exact hx (Covers.refl t c)
      rw [(h.append ha).ancestors_eq, h.ancestors_eq, parent_append ha.child_lt, if_neg hcx]
      cases hq : t.parent x with
      | none => rfl
      | some q =>
          rw [Option.elim_some, Option.elim_some,
            ih q hq fun hcq => hx (ReflTransGen.tail hcq hq)]

lemma descendants_append_of_not_covers (hx : ¬ t.Covers x p) :
    (t.append p c).view.descendants x = t.view.descendants x := by
  induction x using h.wellFounded_children.induction with
  | _ x ih =>
      have hpx : p ≠ x := by
        rintro rfl
        exact hx (Covers.refl t p)
      rw [(h.append ha).descendants_eq, h.descendants_eq, children_append ha.parent_lt,
        if_neg hpx]
      refine List.flatMap_congr fun y hy => ?_
      rw [ih y hy fun hyp => hx (ReflTransGen.head (h.mem_children.mp hy) hyp)]

/-- The new nodes come last under the parent. -/
lemma descendants_append_self :
    (t.append p c).view.descendants p
      = t.view.descendants p ++ c :: t.view.descendants c := by
  rw [(h.append ha).descendants_eq, children_append ha.parent_lt, if_pos rfl,
    List.flatMap_append, List.flatMap_singleton,
    h.descendants_append_of_not_covers ha ha.not_covers, h.descendants_eq p]
  congr 1
  refine List.flatMap_congr fun y hy => ?_
  have hpy := h.mem_children.mp hy
  rw [h.descendants_append_of_not_covers ha fun hyp =>
    h.not_above_self p (TransGen.head' hpy hyp)]

/-- The new nodes come last under everything that covers the parent, if none of the nodes on the way
has a sibling behind it. -/
lemma descendants_append_of_covers (hlast : ∀ y, t.Covers y p → t.next y = none)
    (hx : t.Covers x p) :
    (t.append p c).view.descendants x
      = t.view.descendants x ++ c :: t.view.descendants c := by
  induction hx using ReflTransGen.head_induction_on with
  | refl => exact h.descendants_append_self ha
  | @head x y hxy hyp ih =>
      obtain ⟨before, after, hs⟩ := List.mem_iff_append.mp (h.mem_children.mpr hxy)
      have hafter : after = [] := by
        have hn := h.next_eq hs
        rw [hlast y hyp] at hn
        exact List.head?_eq_none_iff.mp hn.symm
      subst hafter
      have hpx : p ≠ x := by
        rintro rfl
        exact h.not_above_self p (TransGen.head' hxy hyp)
      rw [(h.append ha).descendants_eq, children_append ha.parent_lt, if_neg hpx,
        h.descendants_eq x, hs, List.flatMap_append, List.flatMap_append,
        List.flatMap_singleton, List.flatMap_singleton, ih, List.append_assoc, List.cons_append]
      congr 1
      refine List.flatMap_congr fun z hz => ?_
      have hzx : t.parent z = some x := h.mem_children.mp (by simp [hs, hz])
      have hnd := h.nodup_children x
      rw [hs] at hnd
      rw [h.descendants_append_of_not_covers ha fun hzp => ?_]
      have hzy := h.eq_of_covers hzx hxy hzp hyp
      subst hzy
      exact (List.nodup_append.mp hnd).2.2 z hz z List.mem_cons_self rfl

end Linked

end MarkupQuery.Tree
