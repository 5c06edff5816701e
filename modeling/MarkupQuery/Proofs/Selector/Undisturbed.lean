import MarkupQuery.Proofs.Selector.Isomorphism
import MarkupQuery.Proofs.Selector.Relational
import MarkupQuery.Proofs.Tree.Components
import MarkupQuery.Proofs.Tree.Text

/-!
Queries of one part of a tree while another part grows.

What a query asks about a node leads along links, and so to nodes that hang together with it. Adding
a node, or hanging nodes under each other elsewhere, leaves these alone, but the tree gets larger,
and with it the count after which every walk is cut off.

* `holds_resize`, `matchAll_resize`: on a linked tree a greater count makes no difference to any
  walk, and so to no selector and no search;
* `Keeps.undisturbed`: so whatever is asked about a node that is left alone has the same answer;
* `undisturbed_elsewhere`: this for both operations on a tree.
-/

namespace MarkupQuery

open MarkupQuery.Tree

namespace View

variable {N : Type} (v : View N) (size n : ℕ) (x : N)

lemma under_resize : (v.resize size).under n x = v.under n x := by
  induction n generalizing x with
  | zero => rfl
  | succ n ih => exact List.flatMap_congr fun y _ => by rw [ih]

lemma textsUnder_resize : (v.resize size).textsUnder n x = v.textsUnder n x := by
  induction n generalizing x with
  | zero => rfl
  | succ n ih => exact List.flatMap_congr fun y _ => by rw [ih]; rfl

lemma anyUnder_resize (test : N → Bool) :
    (v.resize size).anyUnder test n x = v.anyUnder test n x := by
  induction n generalizing x with
  | zero => rfl
  | succ n ih => exact any_eq_of_mem fun y _ => by rw [ih]; rfl

lemma tally_resize [BEq N] (last ofType : Bool) (t : Tally) (ys : List N) :
    (v.resize size).tally last ofType x t ys = v.tally last ofType x t ys := by
  have hcounts : (v.resize size).counts ofType x = v.counts ofType x := rfl
  induction ys generalizing t with
  | nil => rfl
  | cons y ys ih => simp only [tally, hcounts, ih]

lemma number?_resize [BEq N] (last ofType : Bool) :
    (v.resize size).number? last ofType x = v.number? last ofType x := by
  simp only [number?, tally_resize]
  rfl

end View

namespace Tree.Linked

variable {t : Tree} {n : ℕ} (h : t.Linked) (hn : t.size ≤ n) (x : NodeId)

include h hn

lemma ancestors_resize : (t.view.resize n).ancestors x = t.view.ancestors x :=
  View.walk_eq_of_length_lt (h.length_ancestors_lt x) hn

lemma preceding_resize : (t.view.resize n).preceding x = t.view.preceding x :=
  View.walk_eq_of_length_lt (h.length_preceding_lt x) hn

lemma descendants_resize : (t.view.resize n).descendants x = t.view.descendants x :=
  (View.under_resize _ _ _ _).trans (h.under_eq hn x)

lemma text_resize : (t.view.resize n).text x = t.view.text x := by
  have htexts : (t.view.resize n).textsUnder n x = t.view.textsUnder t.size x :=
    (View.textsUnder_resize _ _ _ _).trans (h.textsUnder_eq_of_le hn x)
  have hkind : (t.view.resize n).kind x = t.view.kind x := rfl
  rw [View.text, View.text, hkind]
  cases t.view.kind x with
  | element => exact congrArg String.join htexts
  | document => exact congrArg String.join htexts
  | _ => rfl

lemma scopedText_resize (own : Bool) :
    (t.view.resize n).scopedText own x = t.view.scopedText own x := by
  cases own with
  | true => rfl
  | false => exact h.text_resize hn x

lemma partners_resize (relation : Combinator) :
    relation.partners (t.view.resize n) x = relation.partners t.view x := by
  cases relation with
  | descendant => exact h.ancestors_resize hn x
  | child => rfl
  | nextSibling =>
      rw [Combinator.partners, h.preceding_resize hn]
      rfl
  | subsequentSibling => exact h.preceding_resize hn x

lemma test_holds_resize (test : Test) : test.holds (t.view.resize n) x = test.holds t.view x := by
  cases test with
  | contains needle own => rw [Test.holds, h.scopedText_resize hn, Test.holds]
  | textMatches pattern own => rw [Test.holds, h.scopedText_resize hn, Test.holds]
  | nthChild formula last ofType => rw [Test.holds, View.number?_resize, Test.holds]
  | _ => rfl

end Tree.Linked

namespace Selector

variable {t u : Tree} {n : ℕ} {x : NodeId} {live : NodeId → Prop}

/-- No selector feels where the walks are cut off. -/
lemma holds_resize (h : t.Linked) (hn : t.size ≤ n) (s : Selector) (x : NodeId) :
    s.holds (t.view.resize n) x = s.holds t.view x := by
  induction s using Selector.ind generalizing x with
  | universal => rfl
  | simple test => exact h.test_holds_resize hn x test
  | not inner ih => rw [holds_not, holds_not, ih]
  | has inner ih =>
      rw [holds, holds, funext ih, View.anyUnder_resize]
      exact congrArg _ (h.anyUnder_eq_of_le _ hn x)
  | hasChild inner ih =>
      rw [holds, holds, funext ih]
      rfl
  | all members ih =>
      rw [holds_all, holds_all]
      exact View.all_eq_of_mem fun s hs => ih s hs x
  | any members ih =>
      rw [holds_any, holds_any]
      exact View.any_eq_of_mem fun s hs => ih s hs x
  | complex relation left right ihleft ihright =>
      rw [holds_complex, holds_complex, ihright, funext ihleft, h.partners_resize hn]

lemma matchAll_resize (h : t.Linked) (hn : t.size ≤ n) (s : Selector) (x : NodeId) (self : Bool) :
    s.matchAll (t.view.resize n) x self = s.matchAll t.view x self := by
  rw [matchAll_eq_filter, matchAll_eq_filter, h.descendants_resize hn, funext (holds_resize h hn s)]

end Selector

namespace Tree

variable {t u : Tree} {live : NodeId → Prop} {s : Selector} {x : NodeId}

/-- Whatever is asked about the node has the same answer in both trees: whether the selector matches
it and what a search from it finds, its text, and what is above and beside it. -/
structure Undisturbed (t u : Tree) (s : Selector) (x : NodeId) : Prop where
  holds : s.holds u.view x = s.holds t.view x
  matchAll : ∀ self, s.matchAll u.view x self = s.matchAll t.view x self
  matchFirst : s.matchFirst u.view x = s.matchFirst t.view x
  text : u.view.text x = t.view.text x
  ownText : u.view.ownText x = t.view.ownText x
  ancestors : u.view.ancestors x = t.view.ancestors x
  preceding : u.view.preceding x = t.view.preceding x
  previous : u.previous x = t.previous x
  next : u.next x = t.next x
  siblings : (u.parent x).map u.children = (t.parent x).map t.children

/-- What is left alone is undisturbed. -/
lemma Keeps.undisturbed (h : Keeps t u live) (ht : t.Linked) (s : Selector) (hx : live x) :
    Undisturbed t u s x := by
  have hrenames := h.renames ht
  have hmatchAll : ∀ self, s.matchAll u.view x self = s.matchAll t.view x self := fun self =>
    calc s.matchAll u.view x self
        = (s.matchAll (t.view.resize u.size) x self).map id :=
          Selector.matchAll_map hrenames s hx self
      _ = s.matchAll (t.view.resize u.size) x self := List.map_id _
      _ = s.matchAll t.view x self := Selector.matchAll_resize ht h.size_le s x self
  constructor
  case holds =>
    exact (Selector.holds_eq hrenames s hx).trans (Selector.holds_resize ht h.size_le s x)
  case matchAll => exact hmatchAll
  case matchFirst =>
    rw [Selector.matchFirst_eq_head?, Selector.matchFirst_eq_head?, hmatchAll]
  case text => exact (hrenames.text_eq hx).trans (ht.text_resize h.size_le x)
  case ownText => exact hrenames.ownText_eq hx
  case ancestors =>
    calc u.view.ancestors x
        = ((t.view.resize u.size).ancestors x).map id := hrenames.ancestors_map hx
      _ = (t.view.resize u.size).ancestors x := List.map_id _
      _ = t.view.ancestors x := ht.ancestors_resize h.size_le x
  case preceding =>
    calc u.view.preceding x
        = ((t.view.resize u.size).preceding x).map id := hrenames.preceding_map hx
      _ = (t.view.resize u.size).preceding x := List.map_id _
      _ = t.view.preceding x := ht.preceding_resize h.size_le x
  case previous => exact h.previous_eq hx
  case next => exact h.next_eq hx
  case siblings =>
    rw [h.parent_eq hx]
    cases hp : t.parent x with
    | none => rfl
    | some p => exact congrArg some (h.children_eq (h.live_parent hx hp))

/-- **Work elsewhere does not disturb a query**: adding a node changes no answer about the nodes
there were, and hanging one node under another changes none about a node that hangs together with
neither. -/
theorem undisturbed_elsewhere (ht : t.Reachable) (s : Selector) (x : NodeId) :
    (∀ content, x < t.size → Undisturbed t (t.alloc content).1 s x) ∧
    ∀ p c, t.Attachable p c → t.view.root x ≠ t.view.root p → t.view.root x ≠ t.view.root c →
      Undisturbed t (t.append p c) s x :=
  ⟨fun content hx => (ht.linked.keeps_alloc content).undisturbed ht.linked s hx,
    fun p c _ hp hc => (ht.linked.keeps_append p c).undisturbed ht.linked s ⟨hp, hc⟩⟩

/-- The tree that hangs backwards, and beside it a list and an item that hang nowhere. -/
def besideList : Tree :=
  ((hungBackwards.alloc (.element ⟨"ul", []⟩)).1.alloc (.element ⟨"li", []⟩)).1

/-- A division that contains something and is the only element of its kind. -/
def fullDivision : Selector :=
  .all [.simple (.tag "div"), .has .universal, .simple (.onlyChild true)]

/-- Neither a new node nor the item under its list disturbs the division in the document. -/
theorem undisturbed_besideList :
    besideList.Reachable ∧ 3 < besideList.size ∧ besideList.Attachable 4 5 ∧
    besideList.view.root 3 ≠ besideList.view.root 4 ∧
    besideList.view.root 3 ≠ besideList.view.root 5 ∧
    fullDivision.holds besideList.view 3 = true ∧
    Undisturbed besideList (besideList.alloc (.text "a")).1 fullDivision 3 ∧
    Undisturbed besideList (besideList.append 4 5) fullDivision 3 := by
  have ht : besideList.Reachable := (reachable_hungBackwards.alloc _).alloc _
  have ha : besideList.Attachable 4 5 :=
    attachable_of_no_parent (by decide) (by decide) (by decide) (by decide) (by decide)
  have hp : besideList.view.root 3 ≠ besideList.view.root 4 := by decide
  have hc : besideList.view.root 3 ≠ besideList.view.root 5 := by decide
  obtain ⟨halloc, happend⟩ := undisturbed_elsewhere ht fullDivision 3
  exact ⟨ht, by decide, ha, hp, hc, by decide, halloc (.text "a") (by decide),
    happend 4 5 ha hp hc⟩

end Tree

end MarkupQuery
