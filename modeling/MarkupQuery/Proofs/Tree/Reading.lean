import MarkupQuery.Proofs.Tree.Walks

/-!
Trees read back as forests.

An `Item` is a piece of a document with everything inside it, and a forest is a list of items. A
forest is read off a tree through the questions of its view alone: `View.readItem` reads a node and
what is under it, `View.readForest` what is under a node. Both tell the nodes they meet, in the
order in which they meet them. Where a node is under one that holds nothing, or where the document
is under another node, there is no item to read.

* `Linked.readItem_eq`: on a linked tree the number of levels read is never felt.
* `Linked.met_eq_descendants`: the nodes met are the node and its descendants, in document order.
* `Linked.readItem_congr`: what is read at a node depends on the nodes it covers alone.
-/

namespace MarkupQuery

/-- A piece of a document with everything inside it. -/
inductive Item where
  /-- A document type declaration. -/
  | doctype (name : String)
  /-- Character data. -/
  | text (data : String)
  /-- A comment. -/
  | comment (data : String)
  /-- An element and the items inside it. -/
  | element (e : Element) (inside : List Item)

/-- The item that a node of this content is, given the items under it. -/
def Content.item? : Content → List Item → Option Item
  | .doctype name, [] => some (.doctype name)
  | .text data, [] => some (.text data)
  | .comment data, [] => some (.comment data)
  | .element e, inside => some (.element e inside)
  | _, _ => none

/-- Only an element holds items. -/
lemma Content.kind_of_item? {content : Content} {inside : List Item} {item : Item}
    (hitem : content.item? inside = some item) (hne : inside ≠ []) : content.kind = .element := by
  cases content with
  | element e => rfl
  | _ =>
      cases inside with
      | nil => exact absurd rfl hne
      | cons => cases hitem

namespace View

variable {N : Type}

/-- The item that a node is, given the items under it. -/
def item? (v : View N) (x : N) (inside : List Item) : Option Item :=
  match v.kind x, inside with
  | .doctype, [] => some (.doctype (v.payload x))
  | .text, [] => some (.text (v.payload x))
  | .comment, [] => some (.comment (v.payload x))
  | .element, inside => (v.tag x).map fun tag => .element ⟨tag, v.attributes x⟩ inside
  | _, _ => none

/-- Reads a node and what is under it, the node at the first of at most `n` levels: the nodes met,
and the item. -/
def readItem (v : View N) : Nat → N → Option (List N × Item)
  | 0, _ => none
  | n + 1, x => do
    let parts ← (v.children x).mapM (readItem v n)
    let item ← v.item? x (parts.map (·.2))
    return (x :: parts.flatMap (·.1), item)

/-- Reads what is under a node: the nodes met, itself first, and the items under it. -/
def readForest (v : View N) (x : N) : Option (List N × List Item) := do
  let parts ← (v.children x).mapM (v.readItem v.size)
  return (x :: parts.flatMap (·.1), parts.map (·.2))

end View

lemma mapM_congr {α β : Type} {f g : α → Option β} {l : List α} (h : ∀ x ∈ l, f x = g x) :
    l.mapM f = l.mapM g := by
  induction l with
  | nil => rfl
  | cons x l ih =>
      rw [List.mapM_cons, List.mapM_cons, h x List.mem_cons_self,
        ih fun y hy => h y (List.mem_cons_of_mem x hy)]

/-- Where several nodes are read, each of them is. -/
lemma exists_of_mapM {α β : Type} {f : α → Option β} {l : List α} {parts : List β} {x : α}
    (hl : l.mapM f = some parts) (hx : x ∈ l) : ∃ part ∈ parts, f x = some part := by
  induction l generalizing parts with
  | nil => cases hx
  | cons y l ih =>
      rw [List.mapM_cons] at hl
      obtain ⟨part, hpart, hl⟩ := Option.bind_eq_some_iff.mp hl
      obtain ⟨rest, hrest, hl⟩ := Option.bind_eq_some_iff.mp hl
      cases hl
      rcases List.mem_cons.mp hx with rfl | hx
      · exact ⟨part, List.mem_cons_self, hpart⟩
      · obtain ⟨q, hq, hread⟩ := ih hrest hx
        exact ⟨q, List.mem_cons_of_mem _ hq, hread⟩

/-- What a reading of several nodes collects, where what it collects of each is known. -/
lemma flatMap_of_mapM {α β γ : Type} {f : α → Option β} {collected : β → List γ} {g : α → List γ}
    {l : List α} {parts : List β} (hl : l.mapM f = some parts)
    (h : ∀ x ∈ l, ∀ part, f x = some part → collected part = g x) :
    parts.flatMap collected = l.flatMap g := by
  induction l generalizing parts with
  | nil =>
      cases hl
      rfl
  | cons x l ih =>
      rw [List.mapM_cons] at hl
      obtain ⟨part, hpart, hl⟩ := Option.bind_eq_some_iff.mp hl
      obtain ⟨rest, hrest, hl⟩ := Option.bind_eq_some_iff.mp hl
      cases hl
      rw [List.flatMap_cons, List.flatMap_cons, h x List.mem_cons_self part hpart,
        ih hrest fun y hy => h y (List.mem_cons_of_mem x hy)]

namespace Tree

open Relation

variable {t t' : Tree} {x y : NodeId}

/-- Reads a node of a tree and what is under it. -/
def readItem (t : Tree) (x : NodeId) : Option (List NodeId × Item) :=
  t.view.readItem t.size x

/-- The questions of the view come to the content of the node. -/
lemma item?_eq (t : Tree) (x : NodeId) (inside : List Item) :
    t.view.item? x inside = (t.content? x).bind (·.item? inside) := by
  simp only [View.item?, view, element?]
  cases t.content? x with
  | none => rfl
  | some content => cases content <;> cases inside <;> rfl

namespace Linked

variable (h : t.Linked)

include h

/-- Reading a node without a count. -/
lemma readItem_eq (x : NodeId) :
    t.readItem x = do
      let parts ← (t.children x).mapM t.readItem
      let item ← t.view.item? x (parts.map (·.2))
      return (x :: parts.flatMap (·.1), item) := by
  have hf : ∀ n m x, (∀ y ∈ t.children x, t.view.readItem n y = t.view.readItem m y) →
      t.view.readItem (n + 1) x = t.view.readItem (m + 1) x := by
    intro n m x hy
    have hparts : (t.children x).mapM (t.view.readItem n)
        = (t.children x).mapM (t.view.readItem m) := mapM_congr hy
    simp only [View.readItem, view] at hparts ⊢
    rw [hparts]
  exact (h.fuel_enough hf (Nat.le_succ t.size) x).symm

/-- What is read at a node depends on the nodes it covers alone. -/
lemma readItem_congr (h' : t'.Linked)
    (hsame : ∀ y, t.Covers x y → t'.content? y = t.content? y ∧ t'.children y = t.children y) :
    t'.readItem x = t.readItem x := by
  induction x using h.wellFounded_children.induction with
  | _ x ih =>
      obtain ⟨hcontent, hchildren⟩ := hsame x (Covers.refl t x)
      have hparts : (t.children x).mapM t'.readItem = (t.children x).mapM t.readItem :=
        mapM_congr fun y hy => ih y hy fun z hz =>
          hsame z ((above_of_parent (h.mem_children.mp hy)).covers.trans hz)
      rw [h'.readItem_eq, h.readItem_eq, hchildren, hparts]
      simp only [item?_eq, hcontent]

/-- The nodes met in a reading are those below, in document order. -/
lemma met_eq_descendants {met : List NodeId} {item : Item}
    (hread : t.readItem x = some (met, item)) : met = x :: t.view.descendants x := by
  induction x using h.wellFounded_children.induction generalizing met item with
  | _ x ih =>
      rw [h.readItem_eq] at hread
      obtain ⟨parts, hparts, hread⟩ := Option.bind_eq_some_iff.mp hread
      obtain ⟨_, _, hread⟩ := Option.bind_eq_some_iff.mp hread
      cases hread
      rw [h.descendants_eq, flatMap_of_mapM hparts fun y hy _ hpart => ih y hy hpart]

/-- Where a node is read, the nodes it covers that have anything under them are elements. -/
lemma kind_of_readItem {part : List NodeId × Item} (hread : t.readItem y = some part)
    (hc : t.Covers y x) (hx : t.children x ≠ []) : t.view.kind x = .element := by
  induction hc using ReflTransGen.head_induction_on generalizing part with
  | refl =>
      rw [h.readItem_eq] at hread
      obtain ⟨parts, hparts, hread⟩ := Option.bind_eq_some_iff.mp hread
      obtain ⟨item, hitem, _⟩ := Option.bind_eq_some_iff.mp hread
      obtain ⟨c, hc⟩ := List.exists_mem_of_ne_nil _ hx
      obtain ⟨p, hp, _⟩ := exists_of_mapM hparts hc
      have hsome : parts.map (·.2) ≠ [] := List.ne_nil_of_mem (List.mem_map_of_mem hp)
      rw [item?_eq] at hitem
      obtain ⟨content, hcontent, hitem⟩ := Option.bind_eq_some_iff.mp hitem
      simp [view, hcontent, Content.kind_of_item? hitem hsome]
  | @head y c hyc _ ih =>
      rw [h.readItem_eq] at hread
      obtain ⟨parts, hparts, _⟩ := Option.bind_eq_some_iff.mp hread
      obtain ⟨p, _, hp⟩ := exists_of_mapM hparts (h.mem_children.mpr hyc)
      exact ih hp

end Linked

end Tree

end MarkupQuery
