import MarkupQuery.Proofs.Tree.Consistency
import MarkupQuery.Proofs.Tree.Order
import MarkupQuery.Selector.Search

/-!
What a search finds, and in which order.

A search under a node goes through its descendants in document order and collects what the selector
matches, which comes to the part of the list of descendants that matches. So it finds each match at
or below the node once and nothing else, in document order; and in a tree that markup describes,
where document order is the order of the numbers, a search from the document is the list of all
matches by number (`matchAll_spec`).

Looking for the first match tests a node before it goes down to the children, and stops there if it
matches. Level by level that is the first entry of the list of a search (`firstUnder_eq_head?`), so
it is the first match in document order (`matchFirst_spec`).
-/

namespace MarkupQuery.Selector

open MarkupQuery.Tree

variable {t : Tree} {x y z : NodeId} {s : Selector} {self : Bool}

/-- What a search looks at is a part of the node and its descendants, in their order. -/
lemma matchAll_sublist (s : Selector) (t : Tree) (x : NodeId) (self : Bool) :
    (s.matchAll t.view x self).Sublist (x :: t.view.descendants x) := by
  rw [matchAll_eq_filter]
  refine List.filter_sublist.trans ?_
  cases self with
  | false => exact List.sublist_cons_self _ _
  | true => exact List.Sublist.refl _

/-- A search finds no node twice. -/
lemma nodup_matchAll (h : t.Linked) (s : Selector) (x : NodeId) (self : Bool) :
    (s.matchAll t.view x self).Nodup := by
  have hnd : (x :: t.view.descendants x).Nodup :=
    List.nodup_cons.mpr ⟨fun hx => h.not_above_self x (h.mem_descendants.mp hx),
      h.nodup_descendants x⟩
  exact (matchAll_sublist s t x self).nodup hnd

lemma mem_matchAll (h : t.Linked) :
    y ∈ s.matchAll t.view x self ↔
      s.holds t.view y = true ∧ (x ∈ t.view.ancestors y ∨ self = true ∧ y = x) := by
  rw [matchAll_eq_filter, List.mem_filter, List.mem_append, h.mem_descendants, h.mem_ancestors]
  cases self <;> simp [and_comm, or_comm]

lemma covers_of_mem_matchAll (h : t.Linked) (hy : y ∈ s.matchAll t.view x self) :
    t.Covers x y :=
  h.mem_cons_descendants.mp ((matchAll_sublist s t x self).subset hy)

/-- Of two matches the one that comes first in the tree is found first. -/
lemma sublist_matchAll (h : t.Linked) (hy : y ∈ s.matchAll t.view x self)
    (hz : z ∈ s.matchAll t.view x self) (hp : t.Precedes y z) :
    [y, z].Sublist (s.matchAll t.view x self) := by
  have hlist := h.sublist_of_precedes (covers_of_mem_matchAll h hy) (covers_of_mem_matchAll h hz) hp
  obtain ⟨hsy, hyx⟩ := (mem_matchAll h).mp hy
  obtain ⟨hsz, _⟩ := (mem_matchAll h).mp hz
  have hwhole : [y, z].Sublist ((if self then [x] else []) ++ t.view.descendants x) := by
    cases self with
    | true => exact hlist
    | false =>
        rcases List.sublist_cons_iff.mp hlist with hd | ⟨r, hr, _⟩
        · exact hd
        · obtain ⟨rfl, _⟩ := List.cons.inj hr
          rw [h.mem_ancestors] at hyx
          exact absurd hyx (by simpa using h.not_above_self y)
  have hfilter := hwhole.filter (s.holds t.view)
  rw [← matchAll_eq_filter] at hfilter
  rwa [List.filter_cons_of_pos hsy, List.filter_cons_of_pos hsz, List.filter_nil] at hfilter

/-- **A search finds each match at or below its start once**, in document order. In a tree that
markup describes the matches come by number, and a search of the document finds all there are. -/
theorem matchAll_spec :
    (∀ t : Tree, t.Reachable → ∀ (s : Selector) (x : NodeId) (self : Bool),
      (s.matchAll t.view x self).Nodup ∧
      (∀ y, y ∈ s.matchAll t.view x self ↔
        s.holds t.view y = true ∧ (x ∈ t.view.ancestors y ∨ self = true ∧ y = x)) ∧
      ∀ y ∈ s.matchAll t.view x self, ∀ z ∈ s.matchAll t.view x self,
        t.Precedes y z → [y, z].Sublist (s.matchAll t.view x self)) ∧
    ∀ (events : List Event) (s : Selector),
      (∀ (x : NodeId) (self : Bool),
        (s.matchAll (ofEvents events).view x self).Pairwise (· < ·)) ∧
      s.matchAll (ofEvents events).view root true =
        (List.range (ofEvents events).size).filter (s.holds (ofEvents events).view) := by
  constructor
  · intro t ht s x self
    have h := ht.linked
    exact ⟨nodup_matchAll h s x self, fun y => mem_matchAll h,
      fun y hy z hz hp => sublist_matchAll h hy hz hp⟩
  · intro events s
    constructor
    · intro x self
      exact (pairwise_lt_ofEvents events x).sublist (matchAll_sublist s _ x self)
    · rw [matchAll_eq_filter, ← descendants_root_ofEvents]
      rfl

theorem matchAll_hungBackwards :
    hungBackwards.Reachable ∧
    (universal.matchAll hungBackwards.view 0 false).Nodup ∧
    (∀ y, y ∈ universal.matchAll hungBackwards.view 0 false ↔
      universal.holds hungBackwards.view y = true ∧
        (0 ∈ hungBackwards.view.ancestors y ∨ false = true ∧ y = 0)) ∧
    ∀ y ∈ universal.matchAll hungBackwards.view 0 false,
      ∀ z ∈ universal.matchAll hungBackwards.view 0 false,
        hungBackwards.Precedes y z → [y, z].Sublist (universal.matchAll hungBackwards.view 0 false) :=
  ⟨reachable_hungBackwards, matchAll_spec.1 hungBackwards reachable_hungBackwards universal 0 false⟩

example : universal.matchAll hungBackwards.view 0 true = [0, 3, 2, 1] := by decide

/-! ### The first match -/

section

variable {N : Type} [BEq N]

/-- Down to any level, the first match is the first entry of the list of matches. -/
lemma firstUnder_eq_head? (s : Selector) (v : View N) (n : ℕ) (x : N) :
    s.firstUnder v n x = ((x :: v.under n x).filter (s.holds v)).head? := by
  induction n generalizing x with
  | zero =>
      rw [firstUnder, View.under, List.filter_cons, List.filter_nil]
      split <;> rfl
  | succ n ih =>
      rw [firstUnder, View.under, List.filter_cons]
      by_cases hx : s.holds v x = true
      · rw [if_pos hx, if_pos hx, List.head?_cons]
      · rw [if_neg hx, if_neg hx, List.filter_flatMap, List.head?_flatMap]
        exact congrArg (List.findSome? · (v.children x)) (funext ih)

/-- The first match is what a search that tests its start finds first. -/
lemma matchFirst_eq_head? (s : Selector) (v : View N) (x : N) :
    s.matchFirst v x = (s.matchAll v x true).head? := by
  rw [matchAll_eq_filter]
  exact firstUnder_eq_head? s v v.size x

lemma matchAll_true_of_not_holds {v : View N} {x : N} (hx : s.holds v x = false) :
    s.matchAll v x true = s.matchAll v x false := by
  rw [matchAll_eq_filter, matchAll_eq_filter]
  exact List.filter_cons_of_neg (by rw [hx]; exact Bool.false_ne_true)

end

/-- A search lists its matches in document order. -/
lemma pairwise_precedes_matchAll (h : t.Linked) (s : Selector) (x : NodeId) (self : Bool) :
    (s.matchAll t.view x self).Pairwise t.Precedes :=
  (h.pairwise_precedes x).sublist (matchAll_sublist s t x self)

/-- **The first match is the first entry of the list of all matches**, and there is none just if the
list is empty. A start that does not match makes no difference to either. What is found comes in
document order before every other match at or below the start. -/
theorem matchFirst_spec (ht : t.Reachable) (s : Selector) (x : NodeId) :
    s.matchFirst t.view x = (s.matchAll t.view x true).head? ∧
    (s.matchFirst t.view x = none ↔ s.matchAll t.view x true = []) ∧
    (s.holds t.view x = false → s.matchFirst t.view x = (s.matchAll t.view x false).head?) ∧
    ∀ y, s.matchFirst t.view x = some y →
      s.holds t.view y = true ∧ t.Covers x y ∧
        ∀ z, s.holds t.view z = true → t.Covers x z → z ≠ y → t.Precedes y z := by
  have h := ht.linked
  refine ⟨matchFirst_eq_head? s t.view x, ?_, fun hx => ?_, fun y hy => ?_⟩
  · rw [matchFirst_eq_head?, List.head?_eq_none_iff]
  · rw [matchFirst_eq_head?, matchAll_true_of_not_holds hx]
  · rw [matchFirst_eq_head?, List.head?_eq_some_iff] at hy
    obtain ⟨rest, hlist⟩ := hy
    have hmem : y ∈ s.matchAll t.view x true := by
      rw [hlist]
      exact List.mem_cons_self
    refine ⟨((mem_matchAll h).mp hmem).1, covers_of_mem_matchAll h hmem, fun z hz hxz hne => ?_⟩
    have hzmem : z ∈ s.matchAll t.view x true := by
      rw [matchAll_eq_filter]
      exact List.mem_filter.mpr ⟨h.mem_cons_descendants.mpr hxz, hz⟩
    have hordered := pairwise_precedes_matchAll h s x true
    rw [hlist] at hzmem hordered
    exact List.rel_of_pairwise_cons hordered ((List.mem_cons.mp hzmem).resolve_left hne)

/-- A paragraph or a division. -/
def block : Selector :=
  .any [.simple (.tag "p"), .simple (.tag "div")]

/-- Of a paragraph and a division the one with the greater number comes first in the document, which
is neither. -/
theorem matchFirst_hungBackwards :
    hungBackwards.Reachable ∧ block.holds hungBackwards.view 0 = false ∧
    block.matchFirst hungBackwards.view 0 = some 3 ∧
    block.matchFirst hungBackwards.view 0 = (block.matchAll hungBackwards.view 0 true).head? ∧
    (block.matchFirst hungBackwards.view 0 = none ↔ block.matchAll hungBackwards.view 0 true = []) ∧
    block.matchFirst hungBackwards.view 0 = (block.matchAll hungBackwards.view 0 false).head? ∧
    block.holds hungBackwards.view 3 = true ∧ hungBackwards.Covers 0 3 ∧
    ∀ z, block.holds hungBackwards.view z = true → hungBackwards.Covers 0 z → z ≠ 3 →
      hungBackwards.Precedes 3 z := by
  have hx : block.holds hungBackwards.view 0 = false := by decide
  have hy : block.matchFirst hungBackwards.view 0 = some 3 := by decide
  obtain ⟨hhead, hnone, hself, hfirst⟩ := matchFirst_spec reachable_hungBackwards block 0
  exact ⟨reachable_hungBackwards, hx, hy, hhead, hnone, hself hx, hfirst 3 hy⟩

end MarkupQuery.Selector
