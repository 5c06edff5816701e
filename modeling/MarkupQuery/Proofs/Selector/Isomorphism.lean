import Mathlib
import MarkupQuery.Proofs.Selector.Shape
import MarkupQuery.Proofs.Tree.Attributes
import MarkupQuery.Proofs.Tree.Consistency
import MarkupQuery.Proofs.View.Renaming
import MarkupQuery.Selector.Search

/-!
Selectors see the structure of a tree and nothing else.

Two trees are isomorphic when a bijection between their nodes keeps contents, parents and the
ordered lists of children. The neighbours are not mentioned: on trees that can be built they follow
from the lists (`previous_map`). So an isomorphism renames one view to the other, also where
attributes are looked up in the default way (`renames`).

* `Test.holds_eq`, `partners_map`, `Selector.holds_eq`: a selector matches a node exactly if it
  matches the node under its other name, by induction on the selector;
* `search_isomorphic`: matches correspond under an isomorphism, and a search lists them in the same
  order.
-/

namespace MarkupQuery

open MarkupQuery.Tree

variable {N M : Type} {v : View N} {w : View M} {f : N → M} {live : N → Prop} {x : N}

/-! ### Under other names -/

namespace View.Renames

variable (h : Renames v w f live)

include h

/-- Attributes may be looked up in the default way as long as that finds the same values. -/
lemma plain (hvalue : ∀ y name, w.valueOf y name = Attribute.valueOf? name (w.attributes y)) :
    Renames v w.plain f live where
  kind := h.kind
  tag := h.tag
  payload := h.payload
  attributes := h.attributes
  valueOf hx name := (hvalue _ name).symm.trans (h.valueOf hx name)
  children := h.children
  parent := h.parent
  previous := h.previous
  size := h.size
  live_children := h.live_children
  live_parent := h.live_parent
  live_previous := h.live_previous
  injective := h.injective

lemma hasTagIn_eq (tags : List String) (hx : live x) :
    w.hasTagIn tags (f x) = v.hasTagIn tags x := by
  rw [hasTagIn, hasTagIn, h.tag hx]

lemma isControl_eq (hx : live x) : w.isControl (f x) = v.isControl x :=
  h.hasTagIn_eq _ hx

lemma has_eq (name : String) (hx : live x) : w.has name (f x) = v.has name x := by
  rw [has, has, h.valueOf hx]

lemma partners_map (relation : Combinator) (hx : live x) :
    relation.partners w (f x) = (relation.partners v x).map f := by
  cases relation with
  | descendant => exact h.ancestors_map hx
  | child =>
      rw [Combinator.partners, Combinator.partners, h.parent hx]
      cases v.parent x <;> rfl
  | nextSibling =>
      have hkind : ∀ y ∈ v.preceding x, (!(w.kind (f y) == .text || w.kind (f y) == .comment))
          = !(v.kind y == .text || v.kind y == .comment) := fun y hy => by
        rw [h.kind (h.live_preceding hx hy)]
      rw [Combinator.partners, Combinator.partners, h.preceding_map hx, List.find?_map,
        ← List.head?_filter, List.filter_congr (p := _ ∘ f) hkind, List.head?_filter]
      cases (v.preceding x).find? _ <;> rfl
  | subsequentSibling => exact h.preceding_map hx

lemma live_partners {relation : Combinator} {y : N} (hx : live x)
    (hy : y ∈ relation.partners v x) : live y := by
  cases relation with
  | descendant => exact h.live_ancestors hx hy
  | child => exact h.live_parent hx (Option.mem_toList.mp hy)
  | nextSibling =>
      exact h.live_preceding hx (List.mem_of_find?_eq_some (Option.mem_toList.mp hy))
  | subsequentSibling => exact h.live_preceding hx hy

lemma anyUnder_eq {test : N → Bool} {test' : M → Bool} (htest : ∀ {x}, live x → test' (f x) = test x)
    (n : ℕ) (hx : live x) : w.anyUnder test' n (f x) = v.anyUnder test n x := by
  induction n generalizing x with
  | zero => rfl
  | succ n ih =>
      rw [anyUnder, anyUnder, h.children hx, List.any_map]
      refine any_eq_of_mem fun y hy => ?_
      have hlive := h.live_children hx hy
      rw [Function.comp_apply, htest hlive, h.isElement_eq hlive, ih hlive]

variable [BEq N] [LawfulBEq N] [BEq M] [LawfulBEq M]

lemma test_holds_eq (test : Test) (hx : live x) : test.holds w (f x) = test.holds v x := by
  cases test with
  | tag name => rw [Test.holds, Test.holds, h.tag hx]
  | hasAttribute name value => rw [Test.holds, Test.holds, h.isElement_eq hx, h.attributes hx]
  | nthChild formula last ofType => rw [Test.holds, Test.holds, h.number?_eq last ofType hx]
  | onlyChild ofType => exact h.isOnly_eq ofType hx
  | empty => exact h.isEmpty_eq hx
  | input => exact h.isControl_eq hx
  | root => exact h.isRoot_eq hx
  | link => rw [Test.holds, Test.holds, h.hasTagIn_eq _ hx, h.has_eq _ hx]
  | enabled => rw [Test.holds, Test.holds, h.isControl_eq hx, h.has_eq _ hx]
  | disabled => rw [Test.holds, Test.holds, h.isControl_eq hx, h.has_eq _ hx]
  | contains needle own => rw [Test.holds, Test.holds, h.scopedText_eq own hx]
  | textMatches pattern own => rw [Test.holds, Test.holds, h.scopedText_eq own hx]

end View.Renames

namespace Selector

variable [BEq N] [LawfulBEq N] [BEq M] [LawfulBEq M]

/-- A selector matches a node under one name exactly if it does under the other. -/
lemma holds_eq (h : View.Renames v w f live) (s : Selector) (hx : live x) :
    s.holds w (f x) = s.holds v x := by
  induction s using Selector.ind generalizing x with
  | universal => rfl
  | simple test => exact h.test_holds_eq test hx
  | not inner ih => rw [holds_not, holds_not, ih hx]
  | has inner ih => rw [holds, holds, h.isElement_eq hx, h.size, h.anyUnder_eq ih _ hx]
  | hasChild inner ih =>
      rw [holds, holds, h.isElement_eq hx, h.children hx, List.any_map]
      congr 1
      exact View.any_eq_of_mem fun y hy => ih (h.live_children hx hy)
  | all members ih =>
      rw [holds_all, holds_all]
      exact View.all_eq_of_mem fun s hs => ih s hs hx
  | any members ih =>
      rw [holds_any, holds_any]
      exact View.any_eq_of_mem fun s hs => ih s hs hx
  | complex relation left right ihleft ihright =>
      rw [holds_complex, holds_complex, ihright hx, h.partners_map relation hx, List.any_map]
      congr 1
      exact View.any_eq_of_mem fun y hy => ihleft (h.live_partners hx hy)

/-- A search under a node lists the same nodes under their other names. -/
lemma matchAll_map (h : View.Renames v w f live) (s : Selector) (hx : live x) (self : Bool) :
    s.matchAll w (f x) self = (s.matchAll v x self).map f := by
  have hlist : (if self then [f x] else []) ++ w.descendants (f x)
      = ((if self then [x] else []) ++ v.descendants x).map f := by
    rw [h.descendants_map hx, List.map_append]
    cases self <;> rfl
  rw [matchAll_eq_filter, hlist, List.filter_map, matchAll_eq_filter]
  congr 1
  refine List.filter_congr fun y hy => ?_
  refine holds_eq h s ?_
  rcases List.mem_append.mp hy with hy | hy
  · cases self with
    | false => cases hy
    | true => exact List.mem_singleton.mp hy ▸ hx
  · exact h.live_descendants hx hy

end Selector

/-! ### Isomorphic trees -/

namespace Tree

variable {t u : Tree} {f : NodeId → NodeId} {x : NodeId}

/-- The map `f` takes the nodes of `t` one to one to those of `u`, and keeps what they are, which
node they hang under, and which hang under them in which order. -/
structure Isomorphic (t u : Tree) (f : NodeId → NodeId) : Prop where
  bijOn : Set.BijOn f (Set.Iio t.size) (Set.Iio u.size)
  content : ∀ x < t.size, u.content? (f x) = t.content? x
  parent : ∀ x < t.size, u.parent (f x) = (t.parent x).map f
  children : ∀ x < t.size, u.children (f x) = (t.children x).map f

namespace Isomorphic

lemma size_eq (h : t.Isomorphic u f) : u.size = t.size := by
  simpa using h.bijOn.ncard_eq.symm

/-- The neighbour before a node is read off the list of children that the node stands in. -/
lemma previous_map (h : t.Isomorphic u f) (ht : t.Linked) (hu : u.Linked) (hx : x < t.size) :
    u.previous (f x) = (t.previous x).map f := by
  have hparent := h.parent x hx
  cases hp : t.parent x with
  | none =>
      rw [hp, Option.map_none] at hparent
      rw [ht.previous_of_no_parent hp, hu.previous_of_no_parent hparent, Option.map_none]
  | some p =>
      obtain ⟨before, after, hs⟩ := List.mem_iff_append.mp (ht.mem_children.mpr hp)
      have hs' : u.children (f p) = before.map f ++ f x :: after.map f := by
        rw [h.children p (ht.parent_lt hp), hs, List.map_append, List.map_cons]
      rw [ht.previous_eq hs, hu.previous_eq hs', List.getLast?_map]

/-- The answers about one tree are those about the other. -/
lemma renames (h : t.Isomorphic u f) (ht : t.Linked) (hu : u.Linked) :
    t.view.Renames u.view f (· < t.size) := by
  have hrenames := View.renames_of_trees (h.content _) (h.children _) (h.parent _)
    (h.previous_map ht hu) (fun _ hy => ht.children_lt hy) (fun _ hy => ht.parent_lt hy)
    (fun _ hy => ht.previous_lt hy) fun hx hy hxy => h.bijOn.injOn hx hy hxy
  rw [h.size_eq] at hrenames
  exact hrenames

end Isomorphic

end Tree

/-- **Matches correspond under an isomorphism**, and a search lists them in the same order. It makes
no difference in which of the two ways the attributes of the second tree are looked up. -/
theorem search_isomorphic {t u : Tree} {f : NodeId → NodeId} (ht : t.Reachable) (hu : u.Reachable)
    (hf : t.Isomorphic u f) (s : Selector) {x : NodeId} (hx : x < t.size) :
    ∀ w ∈ [u.view, u.view.plain],
      (s.holds w (f x) = true ↔ s.holds t.view x = true) ∧
      ∀ self, s.matchAll w (f x) self = (s.matchAll t.view x self).map f := by
  have h := hf.renames ht.linked hu.linked
  intro w hw
  have hrenames : t.view.Renames w f (· < t.size) := by
    rcases List.mem_pair.mp hw with rfl | rfl
    · exact h
    · exact h.plain fun y name => u.valueOf_eq y name
  exact ⟨by rw [Selector.holds_eq hrenames s hx], Selector.matchAll_map hrenames s hx⟩

/-- What the tree that hangs backwards looks like, written as markup. -/
def hungForwards : Tree :=
  ofEvents [.startTag ⟨"div", []⟩, .text "a", .endTag, .emptyTag ⟨"p", []⟩]

lemma isomorphic_hungForwards : hungBackwards.Isomorphic hungForwards (Equiv.swap 1 3) where
  bijOn := by
    have hmaps : ∀ x < hungBackwards.size, Equiv.swap 1 3 x < hungForwards.size := by decide
    have hsurj : ∀ y < hungForwards.size, ∃ x < hungBackwards.size, Equiv.swap 1 3 x = y := by
      decide
    exact ⟨hmaps, (Equiv.swap 1 3).injective.injOn, hsurj⟩
  content := by decide
  parent := by decide
  children := by decide

/-- The second among its siblings, a paragraph right behind a division. -/
def secondParagraph : Selector :=
  .complex .nextSibling (.simple (.tag "div"))
    (.all [.simple (.tag "p"), .simple (.nthChild ⟨0, 2⟩ false false)])

theorem search_secondParagraph :
    hungBackwards.Reachable ∧ hungForwards.Reachable ∧
    hungBackwards.Isomorphic hungForwards (Equiv.swap 1 3) ∧ 0 < hungBackwards.size ∧
    ∀ w ∈ [hungForwards.view, hungForwards.view.plain],
      (secondParagraph.holds w (Equiv.swap 1 3 0) = true ↔
        secondParagraph.holds hungBackwards.view 0 = true) ∧
      ∀ self, secondParagraph.matchAll w (Equiv.swap 1 3 0) self =
        (secondParagraph.matchAll hungBackwards.view 0 self).map (Equiv.swap 1 3) :=
  ⟨reachable_hungBackwards, reachable_ofEvents _, isomorphic_hungForwards, by decide,
    search_isomorphic reachable_hungBackwards (reachable_ofEvents _) isomorphic_hungForwards _
      (by decide)⟩

example : secondParagraph.matchAll hungBackwards.view 0 false = [1] ∧
    secondParagraph.matchAll hungForwards.view 0 false = [3] := by decide

end MarkupQuery
