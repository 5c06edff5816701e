import MarkupQuery.Proofs.Tree.Linked
import MarkupQuery.View.Walk

/-!
Walks over a linked tree.

Every walk over a tree is cut off after as many steps as the tree has nodes. On a linked tree the
cut is never felt.

* `mem_ancestors`, `ancestors_eq`: the walk up meets exactly the ancestors, each once
  (`nodup_cons_ancestors`), and so fewer than the tree has nodes (`length_ancestors_lt`).
* `preceding_eq`: the walk to the left meets exactly what stands before a node in the list of
  children, the nearest first.
* `fuel_enough`: a recursion over the lists of children needs no more levels than the tree has
  nodes, because every level is one more ancestor. Hence `under_eq`, that no greater count makes a
  difference, and `descendants_eq`, the recursion without a count, and with it `mem_descendants` and
  `nodup_descendants`.
-/

namespace MarkupQuery

open Relation

namespace View

variable {N : Type} {next : N → Option N}

/-- A walk that ends before its count runs out goes on the same with a greater count. -/
lemma walk_succ_of_length_lt {n : ℕ} {x : N} (h : (walk next n x).length < n) :
    walk next (n + 1) x = walk next n x := by
  induction n generalizing x with
  | zero => exact absurd h (by simp)
  | succ n ih =>
      rw [walk_succ] at h ⊢
      rw [walk_succ (n := n)]
      cases hx : next x with
      | none => rfl
      | some y =>
          simp only [hx, Option.elim_some, List.length_cons] at h ⊢
          rw [ih (by omega)]

/-- No greater count makes a difference to a walk that ends before its count runs out. -/
lemma walk_eq_of_length_lt {n m : ℕ} {x : N} (h : (walk next n x).length < n) (hm : n ≤ m) :
    walk next m x = walk next n x := by
  induction m, hm using Nat.le_induction with
  | base => rfl
  | succ m hm ih => rw [walk_succ_of_length_lt (ih ▸ h.trans_le hm), ih]

lemma walk_eq_nil {x : N} (hx : next x = none) (n : ℕ) : walk next n x = [] := by
  cases n with
  | zero => rfl
  | succ n => rw [walk_succ, hx, Option.elim_none]

end View

namespace Tree

variable {t : Tree} {x y z p c : NodeId}

/-- As many different nodes of a tree as a list has, so many the tree has at least. -/
lemma length_le_size {l : List NodeId} (hnd : l.Nodup) (hlt : ∀ x ∈ l, x < t.size) :
    l.length ≤ t.size := by
  have hsub : l ⊆ List.range t.size := fun x hx => List.mem_range.mpr (hlt x hx)
  simpa using (List.subperm_of_subset hnd hsub).length_le

/-! ### The way up -/

lemma above_of_mem_walk {n : ℕ} (h : y ∈ View.walk t.parent n x) : t.Above y x := by
  induction n generalizing x with
  | zero => simp [View.walk] at h
  | succ n ih =>
      rw [View.walk_succ] at h
      cases hx : t.parent x with
      | none => simp [hx] at h
      | some p =>
          simp only [hx, Option.elim_some, List.mem_cons] at h
          rcases h with rfl | h
          · exact above_of_parent hx
          · exact (ih h).trans (above_of_parent hx)

namespace Linked

variable (h : t.Linked)

include h

/-- No node is its own ancestor. -/
lemma not_above_self (x : NodeId) : ¬ t.Above x x :=
  h.wellFounded.transGen.irrefl.irrefl x

lemma lt_of_above (ha : t.Above y x) : y < t.size := by
  obtain ⟨c, hc, _⟩ := ha.exists_child
  exact h.parent_lt hc

lemma nodup_cons_walk (n : ℕ) (x : NodeId) : (x :: View.walk t.parent n x).Nodup := by
  refine List.nodup_cons.mpr ⟨fun hx => h.not_above_self x (above_of_mem_walk hx), ?_⟩
  induction n generalizing x with
  | zero => exact List.nodup_nil
  | succ n ih =>
      rw [View.walk_succ]
      cases t.parent x with
      | none => exact List.nodup_nil
      | some p =>
          exact List.nodup_cons.mpr ⟨fun hp => h.not_above_self p (above_of_mem_walk hp), ih p⟩

lemma nodup_cons_ancestors (x : NodeId) : (x :: t.view.ancestors x).Nodup :=
  h.nodup_cons_walk t.size x

lemma length_ancestors_lt (x : NodeId) : (t.view.ancestors x).length < t.size := by
  by_cases hx : x < t.size
  · have hle := length_le_size (t := t) (h.nodup_cons_ancestors x) fun y hy => by
      rcases List.mem_cons.mp hy with rfl | hy
      · exact hx
      · exact h.lt_of_above (above_of_mem_walk hy)
    rw [List.length_cons] at hle
    omega
  · have hnone : t.parent x = none := by
      by_contra hne
      obtain ⟨p, hp⟩ := Option.ne_none_iff_exists'.mp hne
      exact hx (lt_size_of_parent hp)
    have hnil : t.view.ancestors x = [] := View.walk_eq_nil hnone t.size
    rw [hnil]
    exact h.size_pos

/-- The walk up without a count. -/
lemma ancestors_eq (x : NodeId) :
    t.view.ancestors x = (t.parent x).elim [] fun p => p :: t.view.ancestors p := by
  have hlt : (View.walk t.parent t.size x).length < t.size := h.length_ancestors_lt x
  calc t.view.ancestors x = View.walk t.parent (t.size + 1) x :=
        (View.walk_succ_of_length_lt hlt).symm
    _ = (t.parent x).elim [] fun p => p :: t.view.ancestors p := View.walk_succ _ _ _

lemma ancestors_of_parent (hx : t.parent x = some p) :
    t.view.ancestors x = p :: t.view.ancestors p := by
  rw [h.ancestors_eq, hx, Option.elim_some]

lemma mem_ancestors : y ∈ t.view.ancestors x ↔ t.Above y x := by
  constructor
  · exact above_of_mem_walk
  · intro ha
    induction ha with
    | single hx =>
        rw [h.ancestors_of_parent hx]
        exact List.mem_cons_self
    | tail _ hx ih =>
        rw [h.ancestors_of_parent hx]
        exact List.mem_cons_of_mem _ ih

/-- Each step of the way up goes to the parent. -/
lemma isChain_ancestors (x : NodeId) :
    (x :: t.view.ancestors x).IsChain fun c p => t.parent c = some p := by
  induction x using h.wellFounded.induction with
  | _ x ih =>
      rw [h.ancestors_eq]
      cases hx : t.parent x with
      | none => exact List.isChain_singleton x
      | some p => exact List.isChain_cons_cons.mpr ⟨hx, ih p hx⟩

/-- The way up ends at a node without a parent. -/
lemma parent_root (x : NodeId) : t.parent (t.view.root x) = none := by
  induction x using h.wellFounded.induction with
  | _ x ih =>
      rw [View.root, h.ancestors_eq]
      cases hx : t.parent x with
      | none => exact hx
      | some p =>
          rw [Option.elim_some, List.getLastD_cons]
          exact ih p hx

/-- Two children of one parent have nothing below them in common. -/
lemma eq_of_covers {a b : NodeId} (ha : t.parent a = some p) (hb : t.parent b = some p)
    (haz : t.Covers a z) (hbz : t.Covers b z) : a = b := by
  have key : ∀ {a b : NodeId}, t.parent a = some p → t.parent b = some p → t.Covers a b →
      a = b := by
    intro a b ha hb hab
    rcases covers_iff.mp hab with hab | hab
    · exact hab.symm
    · have hpp : t.Above p p :=
        TransGen.trans_left (above_of_parent ha) ((above_iff_of_parent hb).mp hab)
      exact absurd hpp (h.not_above_self p)
  rcases haz.comparable hbz with hab | hba
  · exact key ha hb hab
  · exact (key hb ha hba).symm

/-! ### The way to the left -/

lemma length_children_le (p : NodeId) : (t.children p).length ≤ t.size :=
  length_le_size (h.nodup_children p) fun _ hc => h.children_lt hc

lemma walk_previous (n : ℕ) {before after : List NodeId}
    (hs : t.children p = before ++ x :: after) :
    View.walk t.previous n x = before.reverse.take n := by
  induction n generalizing x before after with
  | zero => rfl
  | succ n ih =>
      rw [View.walk_succ, h.previous_eq hs]
      rcases List.eq_nil_or_concat' before with rfl | ⟨init, l, rfl⟩
      · rfl
      · rw [List.getLast?_concat, Option.elim_some, List.reverse_concat, List.take_succ_cons,
          ih (by rw [hs, List.append_assoc, List.singleton_append])]

/-- The walk to the left meets what stands before a node in the list of children. -/
lemma preceding_eq {before after : List NodeId} (hs : t.children p = before ++ x :: after) :
    t.view.preceding x = before.reverse := by
  have hle := h.length_children_le p
  rw [hs, List.length_append] at hle
  refine (h.walk_previous t.size hs).trans (List.take_of_length_le ?_)
  rw [List.length_reverse]
  omega

/-- A node without a parent has no siblings to walk to. -/
lemma preceding_of_no_parent (hx : t.parent x = none) : t.view.preceding x = [] :=
  View.walk_eq_nil (h.previous_of_no_parent hx) t.size

lemma length_preceding_lt (x : NodeId) : (t.view.preceding x).length < t.size := by
  cases hp : t.parent x with
  | none =>
      rw [h.preceding_of_no_parent hp]
      exact h.size_pos
  | some p =>
      obtain ⟨before, after, hs⟩ := List.mem_iff_append.mp (h.mem_children.mpr hp)
      have hle := h.length_children_le p
      simp only [hs, List.length_append, List.length_cons] at hle
      rw [h.preceding_eq hs, List.length_reverse]
      omega

/-- Every way to the left ends. -/
lemma wellFounded_previous : WellFounded fun y x => t.previous x = some y := by
  refine Subrelation.wf ?_ (measure fun x => (t.view.preceding x).length).wf
  intro y x hy
  obtain ⟨p, hp⟩ : ∃ p, t.parent x = some p := by
    cases hp : t.parent x with
    | none =>
        rw [h.previous_of_no_parent hp] at hy
        cases hy
    | some p => exact ⟨p, rfl⟩
  obtain ⟨before, after, hs⟩ := List.mem_iff_append.mp (h.mem_children.mpr hp)
  rw [h.previous_eq hs] at hy
  obtain ⟨init, rfl⟩ := List.getLast?_eq_some_iff.mp hy
  have hs' : t.children p = init ++ y :: (x :: after) := by
    rw [hs, List.append_assoc, List.singleton_append]
  show (t.view.preceding y).length < (t.view.preceding x).length
  rw [h.preceding_eq hs, h.preceding_eq hs']
  simp

/-! ### The way down -/

/-- A recursion over the lists of children has said everything after as many levels as the tree has
nodes. -/
lemma fuel_enough {β : Type} {f : ℕ → NodeId → β}
    (hf : ∀ n m x, (∀ y ∈ t.children x, f n y = f m y) → f (n + 1) x = f (m + 1) x) {n : ℕ}
    (hn : t.size ≤ n) (x : NodeId) : f n x = f t.size x := by
  -- the levels left and the ancestors so far make up for each other
  have key : ∀ n x, t.size ≤ n + (t.view.ancestors x).length → f (n + 1) x = f n x := by
    intro n
    induction n with
    | zero =>
        intro x hx
        have := h.length_ancestors_lt x
        omega
    | succ n ih =>
        intro x hx
        refine hf (n + 1) n x fun y hy => ih y ?_
        rw [h.ancestors_of_parent (h.mem_children.mp hy), List.length_cons]
        omega
  induction n, hn using Nat.le_induction with
  | base => rfl
  | succ n hn ih => rw [key n x (by omega), ih]

/-- Every way down ends. -/
lemma wellFounded_children : WellFounded fun c p => c ∈ t.children p := by
  refine Subrelation.wf ?_ (measure fun x => t.size - (t.view.ancestors x).length).wf
  intro c p hc
  have hlt := h.length_ancestors_lt c
  rw [h.ancestors_of_parent (h.mem_children.mp hc), List.length_cons] at hlt
  show t.size - (t.view.ancestors c).length < t.size - (t.view.ancestors p).length
  rw [h.ancestors_of_parent (h.mem_children.mp hc), List.length_cons]
  omega

/-- A greater count finds no more descendants. -/
lemma under_eq {n : ℕ} (hn : t.size ≤ n) (x : NodeId) :
    t.view.under n x = t.view.descendants x := by
  have hf : ∀ n m x, (∀ y ∈ t.children x, t.view.under n y = t.view.under m y) →
      t.view.under (n + 1) x = t.view.under (m + 1) x := by
    intro n m x hy
    exact List.flatMap_congr fun y hmem => by rw [hy y hmem]
  exact h.fuel_enough hf hn x

/-- The descendants without a count: the children in their order, each before what is under it. -/
lemma descendants_eq (x : NodeId) :
    t.view.descendants x = (t.children x).flatMap fun y => y :: t.view.descendants y :=
  (h.under_eq (Nat.le_succ t.size) x).symm

lemma mem_descendants : y ∈ t.view.descendants x ↔ t.Above x y := by
  induction x using h.wellFounded_children.induction with
  | _ x ih =>
      rw [h.descendants_eq, List.mem_flatMap]
      constructor
      · rintro ⟨c, hc, hy⟩
        have hxc := above_of_parent (h.mem_children.mp hc)
        rcases List.mem_cons.mp hy with rfl | hy
        · exact hxc
        · exact hxc.trans ((ih c hc).mp hy)
      · intro ha
        obtain ⟨c, hc, hcy⟩ := ha.exists_child
        have hmem := h.mem_children.mpr hc
        refine ⟨c, hmem, ?_⟩
        rcases covers_iff.mp hcy with rfl | hcy
        · exact List.mem_cons_self
        · exact List.mem_cons_of_mem _ ((ih c hmem).mpr hcy)

lemma mem_cons_descendants : y ∈ x :: t.view.descendants x ↔ t.Covers x y := by
  rw [List.mem_cons, h.mem_descendants, covers_iff]

lemma nodup_descendants (x : NodeId) : (t.view.descendants x).Nodup := by
  induction x using h.wellFounded_children.induction with
  | _ x ih =>
      rw [h.descendants_eq, List.nodup_flatMap]
      constructor
      · intro c hc
        refine List.nodup_cons.mpr ⟨fun hcc => ?_, ih c hc⟩
        exact h.not_above_self c (h.mem_descendants.mp hcc)
      · refine (h.nodup_children x).imp_of_mem fun {a b} ha hb hab => ?_
        rw [Function.onFun, List.disjoint_left]
        intro z hza hzb
        exact hab (h.eq_of_covers (h.mem_children.mp ha) (h.mem_children.mp hb)
          (h.mem_cons_descendants.mp hza) (h.mem_cons_descendants.mp hzb))

end Linked

end Tree

end MarkupQuery
