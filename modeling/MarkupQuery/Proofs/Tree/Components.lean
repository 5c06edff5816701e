import MarkupQuery.Proofs.Tree.Walks
import MarkupQuery.Proofs.View.Renaming

/-!
The parts of a tree that hang together.

A tree may hold nodes that are not hung under the document, alone or as trees of their own. Two
nodes hang together when the way up ends at the same node for both (`View.root`); links lead nowhere
else (`root_of_parent`).

`Keeps` says that an operation leaves alone some nodes that no link leads away from.

* `keeps_alloc`: a new node leaves alone all nodes there were;
* `keeps_append`: hanging one node under another leaves alone what hangs together with neither;
* `Keeps.renames`: what is left alone answers all questions as before, however many nodes there are
  elsewhere.
-/

namespace MarkupQuery.Tree

variable {t u : Tree} {live : NodeId → Prop} {x y p c : NodeId}

/-- The live nodes are stored in `u` as they are in `t`, and no link leads from one of them to a
node that is not live. -/
structure Keeps (t u : Tree) (live : NodeId → Prop) : Prop where
  get? : ∀ {x}, live x → u.get? x = t.get? x
  live_parent : ∀ {x p}, live x → t.parent x = some p → live p
  live_children : ∀ {x c}, live x → c ∈ t.children x → live c
  size_le : t.size ≤ u.size

namespace Linked

variable (h : t.Linked)

include h

/-- A node hangs together with its parent. -/
lemma root_of_parent (hx : t.parent x = some p) : t.view.root x = t.view.root p := by
  rw [View.root, h.ancestors_of_parent hx, List.getLastD_cons, View.root]

lemma root_of_mem_children (hc : c ∈ t.children x) : t.view.root c = t.view.root x :=
  h.root_of_parent (h.mem_children.mp hc)

/-- A new node leaves alone all nodes there were. -/
lemma keeps_alloc (content : Content) : Keeps t (t.alloc content).1 (· < t.size) where
  get? hx := by rw [get?_alloc, if_neg (Nat.ne_of_lt hx)]
  live_parent _ := h.parent_lt
  live_children _ := h.children_lt
  size_le := by
    rw [size_alloc]
    exact Nat.le_succ _

/-- Hanging one node under another leaves alone what hangs together with neither. -/
lemma keeps_append (p c : NodeId) :
    Keeps t (t.append p c)
      fun x => t.view.root x ≠ t.view.root p ∧ t.view.root x ≠ t.view.root c where
  get? {x} hx := by
    obtain ⟨hp, hc⟩ := hx
    have hcx : c ≠ x := fun hcx => hc (hcx ▸ rfl)
    have hpx : p ≠ x := fun hpx => hp (hpx ▸ rfl)
    have hlast : (t.children p).getLast? ≠ some x :=
      fun hlast => hp (h.root_of_mem_children (List.mem_of_getLast? hlast))
    rw [get?_append]
    simp [hcx, hpx, hlast]
  live_parent hx hp := by
    rw [h.root_of_parent hp] at hx
    exact hx
  live_children hx hc := by
    rw [h.root_of_mem_children hc]
    exact hx
  size_le := by rw [size_append]

end Linked

namespace Keeps

variable (h : Keeps t u live)

include h

lemma parent_eq (hx : live x) : u.parent x = t.parent x := by
  rw [parent, h.get? hx, parent]

lemma children_eq (hx : live x) : u.children x = t.children x := by
  rw [children, h.get? hx, children]

lemma next_eq (hx : live x) : u.next x = t.next x := by
  rw [next, h.get? hx, next]

lemma previous_eq (hx : live x) : u.previous x = t.previous x := by
  rw [previous, h.get? hx, previous]

/-- The neighbour before a live node is live, as it hangs under the same parent. -/
lemma live_previous (ht : t.Linked) (hx : live x) (hy : t.previous x = some y) : live y := by
  obtain ⟨p, hp⟩ : ∃ p, t.parent x = some p := by
    rw [← Option.ne_none_iff_exists']
    intro hnone
    rw [ht.previous_of_no_parent hnone] at hy
    cases hy
  obtain ⟨before, after, hs⟩ := List.mem_iff_append.mp (ht.mem_children.mpr hp)
  rw [ht.previous_eq hs] at hy
  refine h.live_children (h.live_parent hx hp) ?_
  rw [hs]
  exact List.mem_append_left _ (List.mem_of_getLast? hy)

/-- A live node answers all questions as before, but for the number of nodes. -/
lemma renames (ht : t.Linked) : View.Renames (t.view.resize u.size) u.view id live := by
  refine View.renames_of_trees (fun {x} hx => ?_) (fun hx => ?_) (fun hx => ?_) (fun hx => ?_)
    h.live_children h.live_parent (h.live_previous ht) fun _ _ hxy => hxy
  · rw [id, content?, h.get? hx, content?]
  · rw [id, h.children_eq hx, List.map_id]
  · rw [id, h.parent_eq hx, Option.map_id, id]
  · rw [id, h.previous_eq hx, Option.map_id, id]

end Keeps

end MarkupQuery.Tree
