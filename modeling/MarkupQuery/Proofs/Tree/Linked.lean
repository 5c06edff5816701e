import MarkupQuery.Proofs.Tree.Growth

/-!
The links of a tree agree.

A node stores four links, and three of them repeat what the lists of children say. `Linked` is the
invariant that keeps them in step: parents and lists of children describe one relation, the
neighbours of a child are those in the list it stands in, and every way up ends.

* `Linked.bare`, `Linked.alloc`, `Linked.append`: the bare document has it, and both operations keep
  it. Hanging a whole tree under a node keeps the ways up finite because that node is not in the
  tree (`wellFounded_append`).
* `Reachable.linked`: so every tree that can be built has it.
-/

namespace MarkupQuery.Tree

open Relation

variable {t : Tree} {x y p c : NodeId}

/-- The links of a tree agree with one another, and every way up ends. -/
structure Linked (t : Tree) : Prop where
  size_pos : 0 < t.size
  parent_lt : ∀ {x p}, t.parent x = some p → p < t.size
  children_lt : ∀ {p c}, c ∈ t.children p → c < t.size
  next_lt : ∀ {x y}, t.next x = some y → y < t.size
  previous_lt : ∀ {x y}, t.previous x = some y → y < t.size
  mem_children : ∀ {p c}, c ∈ t.children p ↔ t.parent c = some p
  nodup_children : ∀ p, (t.children p).Nodup
  next_eq : ∀ {p before x after}, t.children p = before ++ x :: after → t.next x = after.head?
  previous_eq : ∀ {p before x after}, t.children p = before ++ x :: after →
    t.previous x = before.getLast?
  next_of_no_parent : ∀ {x}, t.parent x = none → t.next x = none
  previous_of_no_parent : ∀ {x}, t.parent x = none → t.previous x = none
  wellFounded : WellFounded t.IsParent

lemma lt_size_of_parent (h : t.parent x = some p) : x < t.size := by
  by_contra hx
  rw [parent, get?_eq_none_iff.mpr (Nat.le_of_not_lt hx)] at h
  cases h

lemma getLast?_children_lt (h : t.Linked) (l : NodeId) (hl : (t.children p).getLast? = some l) :
    l < t.size :=
  h.children_lt (List.mem_of_getLast? hl)

/-! ### The ways up after a child is hung -/

/-- A way up that avoids the hung child is the same as before. -/
lemma acc_append_of_not_covers (h : WellFounded t.IsParent) (ha : t.Attachable p c)
    (hx : ¬ t.Covers c x) : Acc (t.append p c).IsParent x := by
  induction x using h.induction with
  | _ x ih =>
      have hcx : c ≠ x := by
        rintro rfl
        exact hx (Covers.refl t c)
      refine Acc.intro x fun q hq => ?_
      rw [IsParent, parent_append ha.child_lt, if_neg hcx] at hq
      exact ih q hq fun hcq => hx (ReflTransGen.tail hcq hq)

/-- Hanging a child keeps the ways up finite: from the child on they avoid the child. -/
lemma wellFounded_append (h : WellFounded t.IsParent) (ha : t.Attachable p c) :
    WellFounded (t.append p c).IsParent := by
  refine ⟨fun x => ?_⟩
  induction x using h.induction with
  | _ x ih =>
      refine Acc.intro x fun q hq => ?_
      rw [IsParent, parent_append ha.child_lt] at hq
      by_cases hcx : c = x
      · rw [if_pos hcx] at hq
        cases hq
        exact acc_append_of_not_covers h ha ha.not_covers
      · rw [if_neg hcx] at hq
        exact ih q hq

namespace Linked

/-! ### The invariant -/

lemma bare : Linked bare := by
  have hparent : ∀ x, Tree.bare.parent x = none := by
    intro x
    cases x <;> rfl
  have hchildren : ∀ x, Tree.bare.children x = [] := by
    intro x
    cases x <;> rfl
  have hnext : ∀ x, Tree.bare.next x = none := by
    intro x
    cases x <;> rfl
  have hprevious : ∀ x, Tree.bare.previous x = none := by
    intro x
    cases x <;> rfl
  constructor
  case wellFounded => exact ⟨fun x => Acc.intro x fun q hq => by simp [IsParent, hparent] at hq⟩
  all_goals simp [hparent, hchildren, hnext, hprevious]

lemma alloc (h : t.Linked) (content : Content) : (t.alloc content).1.Linked := by
  have hlt : ∀ {y : NodeId}, y < t.size → y < (t.alloc content).1.size := by
    intro y hy
    rw [size_alloc]
    exact Nat.lt_succ_of_lt hy
  constructor
  case size_pos => exact hlt h.size_pos
  case parent_lt => exact fun hx => hlt (h.parent_lt (by simpa using hx))
  case children_lt => exact fun hc => hlt (h.children_lt (by simpa using hc))
  case next_lt => exact fun hx => hlt (h.next_lt (by simpa using hx))
  case previous_lt => exact fun hx => hlt (h.previous_lt (by simpa using hx))
  case wellFounded =>
    rw [isParent_alloc]
    exact h.wellFounded
  all_goals simp only [parent_alloc, children_alloc, next_alloc, previous_alloc]
  case mem_children => exact h.mem_children
  case nodup_children => exact h.nodup_children
  case next_eq => exact h.next_eq
  case previous_eq => exact h.previous_eq
  case next_of_no_parent => exact h.next_of_no_parent
  case previous_of_no_parent => exact h.previous_of_no_parent

/-- A list of children with one more at its end, split at a member: the split is at the new one, or
it is a split of the old list. -/
lemma split_concat {l before after : List NodeId} (h : l ++ [c] = before ++ x :: after) :
    (x = c ∧ before = l ∧ after = []) ∨ ∃ rest, after = rest ++ [c] ∧ l = before ++ x :: rest := by
  rcases List.eq_nil_or_concat' after with rfl | ⟨rest, d, rfl⟩
  · obtain ⟨hl, hx⟩ := List.append_inj' h rfl
    exact Or.inl ⟨(List.cons.inj hx).1.symm, hl.symm, rfl⟩
  · rw [← List.cons_append, ← List.append_assoc] at h
    obtain ⟨hl, hd⟩ := List.append_inj' h rfl
    exact Or.inr ⟨rest, by rw [(List.cons.inj hd).1], hl⟩

/-- A node that does not stand under a parent is not its last child. -/
lemma getLast?_children_ne (h : t.Linked) (hx : t.parent x ≠ some p) :
    (t.children p).getLast? ≠ some x :=
  fun hl => hx (h.mem_children.mp (List.mem_of_getLast? hl))

section Append

variable (h : t.Linked) (ha : t.Attachable p c)

include h ha

lemma notMem_children : c ∉ t.children x := by
  intro hc
  rw [h.mem_children, ha.hangs_nowhere] at hc
  cases hc

/-- The list of the parent ends with the hung child: its neighbour before is the last child so far,
and no neighbour behind it is there. -/
lemma next_append_eq {q : NodeId} {before after : List NodeId}
    (hs : (t.append p c).children q = before ++ x :: after) :
    (t.append p c).next x = after.head? := by
  rw [children_append ha.parent_lt] at hs
  rw [next_append (getLast?_children_lt h)]
  by_cases hpq : p = q
  · subst hpq
    rw [if_pos rfl] at hs
    rcases split_concat hs with ⟨rfl, _, rfl⟩ | ⟨rest, rfl, hl⟩
    · rw [if_neg (h.getLast?_children_ne (by simp [ha.hangs_nowhere]))]
      exact h.next_of_no_parent ha.hangs_nowhere
    · rw [h.next_eq hl]
      have hnd := h.nodup_children p
      rw [hl] at hnd ⊢
      rcases List.eq_nil_or_concat' rest with rfl | ⟨init, d, rfl⟩
      · simp
      · have hdx : d ≠ x := by
          rintro rfl
          simp [List.nodup_append] at hnd
        have hlast : (before ++ x :: (init ++ [d])).getLast? ≠ some x := by
          rw [← List.cons_append, ← List.append_assoc, List.getLast?_concat]
          simpa using hdx
        rw [if_neg hlast]
        cases init <;> rfl
  · rw [if_neg hpq] at hs
    have hx : x ∈ t.children q := by simp [hs]
    have hxp : t.parent x ≠ some p := by
      rw [h.mem_children.mp hx]
      simpa using Ne.symm hpq
    rw [if_neg (h.getLast?_children_ne hxp), h.next_eq hs]

lemma previous_append_eq {q : NodeId} {before after : List NodeId}
    (hs : (t.append p c).children q = before ++ x :: after) :
    (t.append p c).previous x = before.getLast? := by
  rw [children_append ha.parent_lt] at hs
  rw [previous_append ha.child_lt]
  have hold : ∀ {rest}, t.children q = before ++ x :: rest →
      (if c = x then (t.children p).getLast?.or (t.previous x) else t.previous x)
        = before.getLast? := by
    intro rest hl
    have hcx : c ≠ x := by
      rintro rfl
      exact h.notMem_children ha (x := q) (by simp [hl])
    rw [if_neg hcx, h.previous_eq hl]
  by_cases hpq : p = q
  · subst hpq
    rw [if_pos rfl] at hs
    rcases split_concat hs with ⟨rfl, rfl, rfl⟩ | ⟨rest, rfl, hl⟩
    · rw [if_pos rfl, h.previous_of_no_parent ha.hangs_nowhere, Option.or_none]
    · exact hold hl
  · rw [if_neg hpq] at hs
    exact hold hs

lemma mem_children_append {q d : NodeId} :
    d ∈ (t.append p c).children q ↔ (t.append p c).parent d = some q := by
  rw [children_append ha.parent_lt, parent_append ha.child_lt]
  by_cases hcd : c = d
  · subst hcd
    by_cases hpq : p = q <;> simp [hpq, h.notMem_children ha]
  · have hdc : d ≠ c := fun hd => hcd hd.symm
    by_cases hpq : p = q <;> simp [hpq, hcd, hdc, h.mem_children]

lemma append : (t.append p c).Linked where
  size_pos := by
    rw [size_append]
    exact h.size_pos
  parent_lt {x q} hx := by
    rw [parent_append ha.child_lt] at hx
    rw [size_append]
    by_cases hcx : c = x
    · rw [if_pos hcx] at hx
      cases hx
      exact ha.parent_lt
    · rw [if_neg hcx] at hx
      exact h.parent_lt hx
  children_lt {q d} hd := by
    rw [children_append ha.parent_lt] at hd
    rw [size_append]
    by_cases hpq : p = q
    · rw [if_pos hpq, List.mem_append, List.mem_singleton] at hd
      rcases hd with hd | rfl
      · exact h.children_lt hd
      · exact ha.child_lt
    · rw [if_neg hpq] at hd
      exact h.children_lt hd
  next_lt {x y} hx := by
    rw [next_append (getLast?_children_lt h)] at hx
    rw [size_append]
    split_ifs at hx
    · cases hx
      exact ha.child_lt
    · exact h.next_lt hx
  previous_lt {x y} hx := by
    rw [previous_append ha.child_lt] at hx
    rw [size_append]
    split_ifs at hx with hcx
    · subst hcx
      rw [h.previous_of_no_parent ha.hangs_nowhere, Option.or_none] at hx
      exact getLast?_children_lt h y hx
    · exact h.previous_lt hx
  mem_children := h.mem_children_append ha
  nodup_children q := by
    rw [children_append ha.parent_lt]
    by_cases hpq : p = q
    · rw [if_pos hpq, List.nodup_append]
      exact ⟨h.nodup_children q, List.nodup_singleton c, fun d hd e he hde =>
        h.notMem_children ha (x := q) (List.mem_singleton.mp he ▸ hde ▸ hd)⟩
    · rw [if_neg hpq]
      exact h.nodup_children q
  next_eq hs := h.next_append_eq ha hs
  previous_eq hs := h.previous_append_eq ha hs
  next_of_no_parent {x} hx := by
    rw [parent_append ha.child_lt] at hx
    by_cases hcx : c = x
    · rw [if_pos hcx] at hx
      cases hx
    · rw [if_neg hcx] at hx
      rw [next_append (getLast?_children_lt h), if_neg (h.getLast?_children_ne (by simp [hx]))]
      exact h.next_of_no_parent hx
  previous_of_no_parent {x} hx := by
    rw [parent_append ha.child_lt] at hx
    by_cases hcx : c = x
    · rw [if_pos hcx] at hx
      cases hx
    · rw [if_neg hcx] at hx
      rw [previous_append ha.child_lt, if_neg hcx]
      exact h.previous_of_no_parent hx
  wellFounded := wellFounded_append h.wellFounded ha

end Append

end Linked

/-- Every tree that can be built is linked. -/
lemma Reachable.linked (h : t.Reachable) : t.Linked := by
  induction h with
  | bare => exact Linked.bare
  | alloc content _ ih => exact ih.alloc content
  | append _ ha ih => exact ih.append ha

end MarkupQuery.Tree
