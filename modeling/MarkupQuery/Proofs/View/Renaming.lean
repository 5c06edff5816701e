import Mathlib.Tactic
import MarkupQuery.View.Siblings
import MarkupQuery.View.Text
import MarkupQuery.View.Walk

/-!
Views of one tree under two names.

`View.Renames` says that a second view answers every question about a node as the first one does,
once the node and the nodes in the answer are called by their other names. What a query computes
from such answers is then the same but for the names:

* `ancestors_map`, `preceding_map`, `descendants_map`: the walks meet the same nodes;
* `text_eq`, `ownText_eq`: the characters are the same;
* `number?_eq`, `isOnly_eq`, `isEmpty_eq`, `isRoot_eq`: so is the place among the siblings. A node
  is found among its siblings by comparing nodes, and this is where no two nodes may get one name.

For two array trees it is enough to compare contents and links (`renames_of_trees`).
-/

namespace MarkupQuery.View

variable {N M : Type} {v : View N} {w : View M} {f : N → M} {live : N → Prop} {x y : N}

/-- The view `w` says of the node named `f x` what `v` says of `x`, for every `x` that is live. What
is met from live nodes is live, and no two live nodes have one name. -/
structure Renames (v : View N) (w : View M) (f : N → M) (live : N → Prop) : Prop where
  kind : ∀ {x}, live x → w.kind (f x) = v.kind x
  tag : ∀ {x}, live x → w.tag (f x) = v.tag x
  payload : ∀ {x}, live x → w.payload (f x) = v.payload x
  attributes : ∀ {x}, live x → w.attributes (f x) = v.attributes x
  valueOf : ∀ {x}, live x → ∀ name, w.valueOf (f x) name = v.valueOf x name
  children : ∀ {x}, live x → w.children (f x) = (v.children x).map f
  parent : ∀ {x}, live x → w.parent (f x) = (v.parent x).map f
  previous : ∀ {x}, live x → w.previous (f x) = (v.previous x).map f
  size : w.size = v.size
  live_children : ∀ {x y}, live x → y ∈ v.children x → live y
  live_parent : ∀ {x y}, live x → v.parent x = some y → live y
  live_previous : ∀ {x y}, live x → v.previous x = some y → live y
  injective : ∀ {x y}, live x → live y → f x = f y → x = y

/-- Some member passes a test if and only if one passes another test that agrees on the members. -/
lemma any_eq_of_mem {α : Type} {l : List α} {p q : α → Bool} (h : ∀ a ∈ l, p a = q a) :
    l.any p = l.any q := by
  induction l with
  | nil => rfl
  | cons a l ih =>
      rw [List.any_cons, List.any_cons, h a List.mem_cons_self,
        ih fun b hb => h b (List.mem_cons_of_mem _ hb)]

lemma all_eq_of_mem {α : Type} {l : List α} {p q : α → Bool} (h : ∀ a ∈ l, p a = q a) :
    l.all p = l.all q := by
  rw [Bool.eq_iff_iff, List.all_eq_true, List.all_eq_true]
  exact forall₂_congr fun a ha => by rw [h a ha]

/-! ### Walks -/

section Walk

variable {next : N → Option N} {next' : M → Option M}

lemma live_walk (hlive : ∀ {x y}, live x → next x = some y → live y) {n : ℕ} (hx : live x)
    (hy : y ∈ walk next n x) : live y := by
  induction n generalizing x with
  | zero => simp [walk] at hy
  | succ n ih =>
      rw [walk_succ] at hy
      cases hz : next x with
      | none => simp [hz] at hy
      | some z =>
          simp only [hz, Option.elim_some, List.mem_cons] at hy
          rcases hy with rfl | hy
          · exact hlive hx hz
          · exact ih (hlive hx hz) hy

lemma walk_map (hlive : ∀ {x y}, live x → next x = some y → live y)
    (hnext : ∀ {x}, live x → next' (f x) = (next x).map f) (n : ℕ) (hx : live x) :
    walk next' n (f x) = (walk next n x).map f := by
  induction n generalizing x with
  | zero => rfl
  | succ n ih =>
      rw [walk_succ, walk_succ, hnext hx]
      cases hz : next x with
      | none => rfl
      | some z => simp [ih (hlive hx hz)]

end Walk

namespace Renames

variable (h : Renames v w f live)

include h

lemma isElement_eq (hx : live x) : w.isElement (f x) = v.isElement x := by
  rw [isElement, isElement, h.kind hx]

lemma ancestors_map (hx : live x) : w.ancestors (f x) = (v.ancestors x).map f := by
  rw [ancestors, ancestors, h.size]
  exact walk_map h.live_parent h.parent _ hx

lemma preceding_map (hx : live x) : w.preceding (f x) = (v.preceding x).map f := by
  rw [preceding, preceding, h.size]
  exact walk_map h.live_previous h.previous _ hx

lemma live_ancestors (hx : live x) (hy : y ∈ v.ancestors x) : live y :=
  live_walk h.live_parent hx hy

lemma live_preceding (hx : live x) (hy : y ∈ v.preceding x) : live y :=
  live_walk h.live_previous hx hy

lemma under_map (n : ℕ) (hx : live x) : w.under n (f x) = (v.under n x).map f := by
  induction n generalizing x with
  | zero => rfl
  | succ n ih =>
      rw [under, under, h.children hx, List.flatMap_map, List.map_flatMap]
      refine List.flatMap_congr fun y hy => ?_
      rw [ih (h.live_children hx hy), List.map_cons]

lemma descendants_map (hx : live x) : w.descendants (f x) = (v.descendants x).map f := by
  rw [descendants, descendants, h.size]
  exact h.under_map _ hx

lemma live_under {n : ℕ} (hx : live x) (hy : y ∈ v.under n x) : live y := by
  induction n generalizing x with
  | zero => simp [under] at hy
  | succ n ih =>
      obtain ⟨z, hz, hy⟩ := List.mem_flatMap.mp hy
      have hlive := h.live_children hx hz
      rcases List.mem_cons.mp hy with rfl | hy
      · exact hlive
      · exact ih hlive hy

lemma live_descendants (hx : live x) (hy : y ∈ v.descendants x) : live y :=
  h.live_under hx hy

/-! ### Text -/

lemma textsUnder_eq (n : ℕ) (hx : live x) : w.textsUnder n (f x) = v.textsUnder n x := by
  induction n generalizing x with
  | zero => rfl
  | succ n ih =>
      rw [textsUnder, textsUnder, h.children hx, List.flatMap_map]
      refine List.flatMap_congr fun y hy => ?_
      have hlive := h.live_children hx hy
      rw [h.kind hlive, h.payload hlive, ih hlive]

lemma text_eq (hx : live x) : w.text (f x) = v.text x := by
  rw [text, text, h.kind hx, h.payload hx, h.size, h.textsUnder_eq _ hx]

lemma ownText_eq (hx : live x) : w.ownText (f x) = v.ownText x := by
  have hkind : ∀ y ∈ v.children x, (w.kind (f y) == .text) = (v.kind y == .text) :=
    fun y hy => by rw [h.kind (h.live_children hx hy)]
  rw [ownText, ownText, h.children hx, List.filter_map, List.map_map]
  congr 1
  rw [List.filter_congr (p := (fun y => w.kind y == .text) ∘ f) hkind]
  refine List.map_congr_left fun y hy => ?_
  exact h.payload (h.live_children hx (List.mem_of_mem_filter hy))

lemma scopedText_eq (own : Bool) (hx : live x) : w.scopedText own (f x) = v.scopedText own x := by
  rw [scopedText, scopedText, h.ownText_eq hx, h.text_eq hx]

/-! ### Siblings -/

lemma counts_eq (ofType : Bool) (hx : live x) (hy : live y) :
    w.counts ofType (f x) (f y) = v.counts ofType x y := by
  rw [counts, counts, h.isElement_eq hy, h.tag hy, h.tag hx]

/-- A count along siblings meets the node at the same place, because no sibling shares its name. -/
lemma tally_map [BEq N] [LawfulBEq N] [BEq M] [LawfulBEq M] (last ofType : Bool) (hx : live x)
    {ys : List N} (hys : ∀ y ∈ ys, live y) (t : Tally) :
    w.tally last ofType (f x) t (ys.map f) = v.tally last ofType x t ys := by
  induction ys generalizing t with
  | nil => rfl
  | cons y ys ih =>
      have hy := hys y List.mem_cons_self
      have hname : (f y == f x) = (y == x) := by
        rw [Bool.eq_iff_iff, beq_iff_eq, beq_iff_eq]
        exact ⟨h.injective hy hx, congrArg f⟩
      simp only [List.map_cons, tally, h.counts_eq ofType hx hy, hname,
        ih fun z hz => hys z (List.mem_cons_of_mem _ hz)]

lemma number?_eq [BEq N] [LawfulBEq N] [BEq M] [LawfulBEq M] (last ofType : Bool) (hx : live x) :
    w.number? last ofType (f x) = v.number? last ofType x := by
  rw [number?, number?, h.isElement_eq hx, h.parent hx]
  cases hp : v.parent x with
  | none => rfl
  | some p =>
      have hlive := h.live_parent hx hp
      rw [Option.map_some, Option.bind_some, Option.bind_some, h.children hlive,
        h.tally_map last ofType hx fun y hy => h.live_children hlive hy]

lemma isOnly_eq (ofType : Bool) (hx : live x) : w.isOnly ofType (f x) = v.isOnly ofType x := by
  rw [isOnly, isOnly, h.isElement_eq hx, h.parent hx]
  cases hp : v.parent x with
  | none => rfl
  | some p =>
      have hlive := h.live_parent hx hp
      have hcounts : ∀ y ∈ v.children p, (w.counts ofType (f x) ∘ f) y = v.counts ofType x y :=
        fun y hy => h.counts_eq ofType hx (h.live_children hlive hy)
      rw [Option.map_some, Option.any_some, Option.any_some, h.children hlive, List.filter_map,
        List.filter_congr hcounts, List.length_take, List.length_map, List.length_take]

lemma isEmpty_eq (hx : live x) : w.isEmpty (f x) = v.isEmpty x := by
  rw [isEmpty, isEmpty, h.isElement_eq hx, h.children hx, List.any_map]
  congr 2
  refine any_eq_of_mem fun y hy => ?_
  rw [Function.comp_apply, h.kind (h.live_children hx hy)]

lemma isRoot_eq (hx : live x) : w.isRoot (f x) = v.isRoot x := by
  rw [isRoot, isRoot, h.isElement_eq hx, h.parent hx]
  cases hp : v.parent x with
  | none => rfl
  | some p => simp [h.isElement_eq (h.live_parent hx hp)]

end Renames

/-! ### Trees -/

/-- The same answers, with another bound on the number of nodes. -/
def resize (v : View N) (size : ℕ) : View N :=
  { v with size }

/-- Of two trees the view of the one renames that of the other, cut off at as many steps, if
contents and links do. -/
lemma renames_of_trees {t u : Tree} {f : NodeId → NodeId} {live : NodeId → Prop}
    (content : ∀ {x}, live x → u.content? (f x) = t.content? x)
    (children : ∀ {x}, live x → u.children (f x) = (t.children x).map f)
    (parent : ∀ {x}, live x → u.parent (f x) = (t.parent x).map f)
    (previous : ∀ {x}, live x → u.previous (f x) = (t.previous x).map f)
    (live_children : ∀ {x y}, live x → y ∈ t.children x → live y)
    (live_parent : ∀ {x y}, live x → t.parent x = some y → live y)
    (live_previous : ∀ {x y}, live x → t.previous x = some y → live y)
    (injective : ∀ {x y}, live x → live y → f x = f y → x = y) :
    Renames (t.view.resize u.size) u.view f live := by
  have helement : ∀ {x}, live x → u.element? (f x) = t.element? x := fun {x} hx => by
    rw [Tree.element?, Tree.element?, content hx]
  constructor
  case kind => exact fun hx => congrArg (fun c => (c.map Content.kind).getD .error) (content hx)
  case tag => exact fun hx => congrArg (Option.map Element.tag) (helement hx)
  case payload => exact fun hx => congrArg (fun c => (c.map Content.payload).getD "") (content hx)
  case attributes =>
    exact fun hx => congrArg (fun e => (e.map Element.attributes).getD []) (helement hx)
  case valueOf => exact fun hx name => congrArg (·.bind (·.valueOf? name)) (helement hx)
  case children => exact children
  case parent => exact parent
  case previous => exact previous
  case size => rfl
  case live_children => exact live_children
  case live_parent => exact live_parent
  case live_previous => exact live_previous
  case injective => exact injective

end MarkupQuery.View
