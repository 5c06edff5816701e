import Mathlib
import MarkupQuery.Lenient
import MarkupQuery.Proofs.Selector.Search

/-!
A search below the matches of another.

What is found under a selection is listed member by member, and a node below several members as many
times. A search for a query below the matches of another (`findNested`) therefore tells how many of
the ancestors of each node the outer query matches, and finds the nodes that the descendant
combinator of the two finds, which lists each of them once.

* `count_matchAll`: one search lists a node once or not at all.
* `encard_matchesAbove`: the matching ancestors of a node, counted in the list of the outer search.
* `count_flatMap_matchAll`: the searches under all outer matches, counted together.
* `findNested_spec`: both ways of asking, compared.
-/

namespace MarkupQuery

/-- A search for a query below each match of another one at or below a node. -/
def View.findNested {N : Type} [BEq N] (v : View N) (engine : Engine) (x : N)
    (outer inner : String) : Warned (Selection N) := do
  let found ← v.findAll engine x outer
  found.find engine v inner

/-- The ancestors of `y` at or below `r` that a selector matches. -/
def Tree.matchesAbove (t : Tree) (s : Selector) (r y : NodeId) : Set NodeId :=
  {x | t.Above x y ∧ t.Covers r x ∧ s.holds t.view x = true}

variable {engine : Engine} {t : Tree} {r x y : NodeId}

namespace Selector

lemma count_matchAll (h : t.Linked) (s : Selector) (x y : NodeId) :
    (s.matchAll t.view x false).count y =
      if s.holds t.view y = true ∧ x ∈ t.view.ancestors y then 1 else 0 := by
  rw [(nodup_matchAll h s x false).count]
  simp [mem_matchAll h]

lemma mem_matchesAbove (h : t.Linked) (s : Selector) :
    x ∈ t.matchesAbove s r y ↔
      x ∈ (s.matchAll t.view r true).filter fun x => x ∈ t.view.ancestors y := by
  have hcovers : t.Covers r x ↔ r ∈ t.view.ancestors x ∨ x = r := by
    rw [Tree.covers_iff, h.mem_ancestors, or_comm, eq_comm]
  rw [List.mem_filter, mem_matchAll h, decide_eq_true_eq, h.mem_ancestors (y := x)]
  simp only [Tree.matchesAbove, Set.mem_ofPred_eq, hcovers, true_and]
  tauto

/-- The matching ancestors of a node are counted in the list of all matches. -/
lemma encard_matchesAbove (h : t.Linked) (s : Selector) (r y : NodeId) :
    (t.matchesAbove s r y).encard =
      (s.matchAll t.view r true).countP fun x => x ∈ t.view.ancestors y := by
  have hlist : t.matchesAbove s r y =
      ((s.matchAll t.view r true).filter fun x => x ∈ t.view.ancestors y).toFinset := by
    ext x
    rw [mem_matchesAbove h, List.coe_toFinset, Set.mem_ofPred_eq]
  rw [hlist, Set.encard_coe_eq_coe_finsetCard,
    List.toFinset_card_of_nodup ((nodup_matchAll h s r true).filter _),
    List.countP_eq_length_filter]

/-- Under the members of a list a node is found once for each member above it. -/
lemma count_flatMap_matchAll (h : t.Linked) (s : Selector) (nodes : List NodeId) (y : NodeId) :
    (nodes.flatMap fun x => s.matchAll t.view x false).count y =
      if s.holds t.view y then nodes.countP fun x => x ∈ t.view.ancestors y else 0 := by
  induction nodes with
  | nil => simp
  | cons x nodes ih =>
      rw [List.flatMap_cons, List.count_append, ih, count_matchAll h, List.countP_cons]
      by_cases hs : s.holds t.view y = true <;> simp [hs, add_comm]

/-- A node without a parent covers all that it has a descendant in common with. -/
lemma covers_of_above (hr : t.parent r = none) (hry : t.Above r y) (hxy : t.Above x y) :
    t.Covers r x := by
  rcases (Tree.covers_iff.mpr (.inr hry)).comparable (Tree.covers_iff.mpr (.inr hxy)) with hrx | hxr
  · exact hrx
  · rcases Tree.covers_iff.mp hxr with rfl | habove
    · exact Tree.Covers.refl t r
    · exact absurd habove (Tree.not_above_of_parent hr)

/-- Below a node without a parent, the descendant combinator finds what has a matching ancestor
there. -/
lemma mem_matchAll_descendant (h : t.Linked) (hr : t.parent r = none) (s₁ s₂ : Selector) :
    y ∈ (descendant s₁ s₂).matchAll t.view r false ↔
      s₂.holds t.view y = true ∧ (t.matchesAbove s₁ r y).Nonempty := by
  rw [mem_matchAll h, descendant, holds_complex, Bool.and_eq_true, List.any_eq_true, h.mem_ancestors]
  constructor
  · rintro ⟨⟨hy, x, hx, hs⟩, hry⟩
    have hry : t.Above r y := by simpa using hry
    have hxy := h.mem_ancestors.mp hx
    exact ⟨hy, x, hxy, covers_of_above hr hry hxy, hs⟩
  · rintro ⟨hy, x, hxy, hrx, hs⟩
    exact ⟨⟨hy, x, h.mem_ancestors.mpr hxy, hs⟩, .inl (Relation.TransGen.trans_right hrx hxy)⟩

end Selector

/-- The nested search of two queries without mistakes, by their selectors. No warning is left. -/
lemma run_findNested {N : Type} [BEq N] (v : View N) (x : N) {outer inner : String}
    {s₁ s₂ : Selector} (h₁ : Query.compileWith engine outer = .ok s₁)
    (h₂ : Query.compileWith engine inner = .ok s₂) (w : Warnings) :
    (v.findNested engine x outer inner).run w =
      (⟨(s₁.matchAll v x true).flatMap fun y => s₂.matchAll v y false⟩, w) := by
  rw [View.findNested, View.findAll, withQuery_of_ok h₁, pure_bind, Selection.find,
    withQuery_of_ok h₂]
  rfl

/-- **A search below the matches of another counts them.** Below a node without a parent, what
matches the inner query is listed once for each of its ancestors there that the outer query matches.
So what is listed at all is what the descendant combinator of the two finds, each node once. The
queries may be compiled with any engine. -/
theorem findNested_spec (ht : t.Reachable) (hr : t.parent r = none) {outer inner : String}
    {s₁ s₂ : Selector} (h₁ : Query.compileWith engine outer = .ok s₁)
    (h₂ : Query.compileWith engine inner = .ok s₂) (w : Warnings) :
    ∃ found : Selection NodeId, (t.view.findNested engine r outer inner).run w = (found, w) ∧ ∀ y,
      (found.nodes.count y : ℕ∞) =
        (if s₂.holds t.view y then (t.matchesAbove s₁ r y).encard else 0) ∧
      (y ∈ found.nodes ↔ y ∈ (s₁.descendant s₂).matchAll t.view r false) ∧
      ((s₁.descendant s₂).matchAll t.view r false).count y =
        if y ∈ found.nodes then 1 else 0 := by
  have h := ht.linked
  refine ⟨_, run_findNested t.view r h₁ h₂ w, fun y => ?_⟩
  have hcount := Selector.count_flatMap_matchAll h s₂ (s₁.matchAll t.view r true) y
  have habove := Selector.encard_matchesAbove h s₁ r y
  have hmem : (y ∈ (s₁.matchAll t.view r true).flatMap fun x => s₂.matchAll t.view x false) ↔
      y ∈ (s₁.descendant s₂).matchAll t.view r false := by
    rw [Selector.mem_matchAll_descendant h hr, ← List.count_pos_iff, hcount,
      ← Set.encard_pos, habove]
    by_cases hs : s₂.holds t.view y = true <;> simp [hs]
  refine ⟨?_, hmem, ?_⟩
  · rw [hcount, habove]
    by_cases hs : s₂.holds t.view y = true <;> simp [hs]
  · simp only [(Selector.nodup_matchAll h _ r false).count, hmem]

theorem findNested_hungBackwards :
    Tree.hungBackwards.Reachable ∧ Tree.hungBackwards.parent 0 = none ∧
    Query.compileWith .literal "*" = .ok .universal ∧
    ∃ found : Selection NodeId,
      (Tree.hungBackwards.view.findNested .literal 0 "*" "*").run {} = (found, {}) ∧ ∀ y,
        (found.nodes.count y : ℕ∞) =
          (if Selector.universal.holds Tree.hungBackwards.view y then
            (Tree.hungBackwards.matchesAbove .universal 0 y).encard else 0) ∧
        (y ∈ found.nodes ↔
          y ∈ (Selector.universal.descendant .universal).matchAll Tree.hungBackwards.view 0 false) ∧
        ((Selector.universal.descendant .universal).matchAll Tree.hungBackwards.view 0 false).count y =
          if y ∈ found.nodes then 1 else 0 := by
  have hstar : Query.compileWith .literal "*" = .ok .universal := by cbv
  have hparent : Tree.hungBackwards.parent 0 = none := by decide
  exact ⟨Tree.reachable_hungBackwards, hparent, hstar,
    findNested_spec Tree.reachable_hungBackwards hparent hstar hstar {}⟩

/-- The text is below the `div` and below the document. -/
example : (Tree.hungBackwards.view.findNested .literal 0 "*" "*").run {} = (⟨[3, 2, 1, 2]⟩, {}) := by cbv

end MarkupQuery
