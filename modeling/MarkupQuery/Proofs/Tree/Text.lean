import MarkupQuery.Lenient
import MarkupQuery.Proofs.Tree.Order

/-!
The text of a tree that markup describes.

The text of an element is put together by a recursion that takes the character data under it and
goes down through elements alone. Nothing else under the element has nodes under it, so the
recursion meets all the text nodes there are, each once and in document order, which is the order of
the numbers.

* `Linked.textsUnder_eq_of_le`, `Linked.textsUnder_eq`: no greater count makes a difference, so the
  recursion goes without one;
* `textsUnder_eq_filter`: its pieces are what the text nodes among the descendants carry;
* `descendants_eq_filter`, `children_eq_filter`: the nodes under a node, by number;
* `texts_ofEvents`: the text nodes of the tree carry the pieces of character data in the markup, in
  their order;
* `text_ofEvents`: the text of a node, of the document and of a list of nodes.
-/

namespace MarkupQuery

open MarkupQuery.Tree

/-- The characters of a piece of markup that is character data. -/
def Event.textData? : Event → Option String
  | .text data => some data
  | _ => none

namespace Tree

variable {t : Tree} {x y : NodeId} {events : List Event}

/-! ### Pieces of text -/

/-- A greater count finds no more pieces of text. -/
lemma Linked.textsUnder_eq_of_le (h : t.Linked) {n : ℕ} (hn : t.size ≤ n) (x : NodeId) :
    t.view.textsUnder n x = t.view.textsUnder t.size x := by
  have hf : ∀ n m x, (∀ y ∈ t.children x, t.view.textsUnder n y = t.view.textsUnder m y) →
      t.view.textsUnder (n + 1) x = t.view.textsUnder (m + 1) x := by
    intro n m x hy
    exact List.flatMap_congr fun y hmem => by rw [hy y hmem]
  exact h.fuel_enough hf hn x

/-- The pieces of text under a node: its own, and those under its elements. -/
lemma Linked.textsUnder_eq (h : t.Linked) (x : NodeId) :
    t.view.textsUnder t.size x = (t.children x).flatMap fun y =>
      match t.view.kind y with
      | .text => [t.view.payload y]
      | .element => t.view.textsUnder t.size y
      | _ => [] :=
  (h.textsUnder_eq_of_le (Nat.le_succ t.size) x).symm

/-- The pieces of text under a node are what the text nodes among its descendants carry. -/
lemma textsUnder_eq_filter (x : NodeId) :
    (ofEvents events).view.textsUnder (ofEvents events).size x =
      (((ofEvents events).view.descendants x).filter
        fun y => (ofEvents events).view.kind y == .text).map (ofEvents events).view.payload := by
  have h := (reachable_ofEvents events).linked
  induction x using h.wellFounded_children.induction with
  | _ x ih =>
      rw [h.textsUnder_eq, h.descendants_eq, List.filter_flatMap, List.map_flatMap]
      refine List.flatMap_congr fun y hy => ?_
      cases hk : (ofEvents events).view.kind y with
      | element => rw [List.filter_cons_of_neg (by simp [hk]), ← ih y hy]
      | _ =>
          have hleaf : (ofEvents events).view.descendants y = [] :=
            descendants_of_not_isElement (h.mem_children.mp hy) (by rw [View.isElement, hk]; rfl)
          simp [hleaf, hk]

/-- What text nodes carry, in two ways. -/
lemma map_payload_filter_text (t : Tree) (l : List NodeId) :
    (l.filter fun y => t.view.kind y == .text).map t.view.payload = l.filterMap t.textData? := by
  induction l with
  | nil => rfl
  | cons y l ih =>
      have hk : t.view.kind y = ((t.content? y).map (·.kind)).getD .error := rfl
      have hp : t.view.payload y = ((t.content? y).map (·.payload)).getD "" := rfl
      rw [List.filter_cons, List.filterMap_cons, textData?, ← ih, hk]
      cases hc : t.content? y with
      | none => rfl
      | some content =>
          cases content with
          | text data => simp [Content.kind, Content.payload, hp, hc]
          | _ => rfl

/-! ### The order of the numbers -/

/-- Two lists of numbers that grow are the same if they have the same members. -/
lemma eq_filter_range {l : List NodeId} {n : ℕ} {p : NodeId → Bool} (hl : l.Pairwise (· < ·))
    (hmem : ∀ y, y ∈ l ↔ y < n ∧ p y = true) : l = (List.range n).filter p := by
  refine hl.eq_of_mem_iff (List.pairwise_lt_range.filter p) fun y => ?_
  rw [hmem, List.mem_filter, List.mem_range]

/-- The nodes under a node are those that have it above them, by number. -/
lemma descendants_eq_filter (events : List Event) (x : NodeId) :
    (ofEvents events).view.descendants x = (List.range (ofEvents events).size).filter
      fun y => decide (x ∈ (ofEvents events).view.ancestors y) := by
  have h := (reachable_ofEvents events).linked
  refine eq_filter_range (List.pairwise_cons.mp (pairwise_lt_ofEvents events x)).2 fun y => ?_
  rw [h.mem_descendants, decide_eq_true_eq, h.mem_ancestors]
  refine ⟨fun ha => ⟨?_, ha⟩, And.right⟩
  obtain ⟨p, _, hp⟩ := Relation.TransGen.tail'_iff.mp ha
  exact lt_size_of_parent hp

/-- The children of a node are those that have it as their parent, by number. -/
lemma children_eq_filter (events : List Event) (x : NodeId) :
    (ofEvents events).children x = (List.range (ofEvents events).size).filter
      fun y => decide ((ofEvents events).parent y = some x) := by
  have h := (reachable_ofEvents events).linked
  have hpair : ((ofEvents events).children x).Pairwise (· < ·) :=
    List.pairwise_iff_forall_sublist.mpr fun hab =>
      List.pairwise_iff_forall_sublist.mp (pairwise_lt_ofEvents events x)
        (h.sublist_of_siblings hab (Covers.refl _ _) (Covers.refl _ _))
  refine eq_filter_range hpair fun y => ?_
  rw [h.mem_children, decide_eq_true_eq]
  exact ⟨fun hp => ⟨lt_size_of_parent hp, hp⟩, And.right⟩

/-! ### Character data in the markup -/

/-- What the text nodes of a tree carry, by number. -/
def texts (t : Tree) : List String :=
  (List.range t.size).filterMap t.textData?

/-- A new node comes last. -/
lemma texts_insert (b : Builder) (content : Content) :
    (b.insert content).1.tree.texts =
      b.tree.texts ++ ((b.insert content).1.tree.textData? b.tree.size).toList := by
  rw [texts, Builder.size_insert, List.range_succ, List.filterMap_append, texts]
  congr 1
  refine List.filterMap_congr fun y hy => ?_
  have hne : y ≠ b.tree.size := (List.mem_range.mp hy).ne
  rw [textData?, Builder.content?_insert, if_neg hne, textData?]

lemma texts_take (b : Builder) (e : Event) :
    (b.take e).tree.texts = b.tree.texts ++ e.textData?.toList := by
  cases e with
  | endTag => exact (List.append_nil _).symm
  | _ =>
      refine (texts_insert b _).trans ?_
      rw [textData?, Builder.content?_insert_size]
      rfl

/-- The text nodes of a tree carry the character data of its markup, in its order. -/
lemma texts_ofEvents (events : List Event) :
    (ofEvents events).texts = events.filterMap Event.textData? := by
  rw [ofEvents]
  induction events using List.reverseRecOn with
  | nil => rfl
  | append_singleton events e ih =>
      rw [List.foldl_append, List.foldl_cons, List.foldl_nil, texts_take, ih,
        List.filterMap_append, List.filterMap_cons]
      cases e.textData? <;> rfl

/-! ### The text of a node -/

/-- The document stays in its place. -/
lemma Reachable.content?_root (h : t.Reachable) : t.content? root = some .document := by
  induction h with
  | bare => rfl
  | @alloc t content h ih =>
      have hne : root ≠ t.size := h.linked.size_pos.ne
      rw [content?, get?_alloc, if_neg hne]
      exact ih
  | append _ _ ih => rw [content?_append, ih]

/-- The text of an element or the document is put together from the pieces under it. -/
lemma text_eq_join (hx : t.view.kind x = .element ∨ t.view.kind x = .document) :
    t.view.text x = String.join (t.view.textsUnder t.size x) := by
  rcases hx with hx | hx <;> rw [View.text, hx] <;> rfl

/-- The text of the document is the character data of the markup. -/
lemma text_root_ofEvents (events : List Event) :
    (ofEvents events).view.text root = String.join (events.filterMap Event.textData?) := by
  have hroot := (reachable_ofEvents events).content?_root
  have hkind : (ofEvents events).view.kind root = .document := by
    show (((ofEvents events).content? root).map (·.kind)).getD .error = .document
    rw [hroot]
    rfl
  have hnone : (ofEvents events).textData? root = none := by rw [textData?, hroot]
  rw [text_eq_join (.inr hkind), textsUnder_eq_filter, map_payload_filter_text, ← texts_ofEvents,
    texts, ← descendants_root_ofEvents, List.filterMap_cons_none hnone]

/-- **The text of a node is the character data that has it above**, by number: that of an element or
the document takes what all text nodes under it carry, and their own text what those right under it
carry. So the text of the document is the character data of the markup in its order, wherever
elements begin and end and whatever else stands between, and the text of a list of nodes is theirs,
one after another. -/
theorem text_ofEvents (events : List Event) :
    (∀ x, (ofEvents events).view.kind x = .element ∨ (ofEvents events).view.kind x = .document →
      (ofEvents events).view.text x = String.join (((List.range (ofEvents events).size).filter
        fun y => (ofEvents events).view.kind y == .text &&
          decide (x ∈ (ofEvents events).view.ancestors y)).map (ofEvents events).view.payload) ∧
      (ofEvents events).view.ownText x = String.join (((List.range (ofEvents events).size).filter
        fun y => (ofEvents events).view.kind y == .text &&
          decide ((ofEvents events).view.parent y = some x)).map (ofEvents events).view.payload)) ∧
    (ofEvents events).view.text root = String.join (events.filterMap Event.textData?) ∧
    ∀ selection : Selection NodeId, selection.text (ofEvents events).view =
      String.join (selection.nodes.map (ofEvents events).view.text) := by
  refine ⟨fun x hx => ⟨?_, ?_⟩, text_root_ofEvents events, fun _ => rfl⟩
  · rw [text_eq_join hx, textsUnder_eq_filter, descendants_eq_filter, List.filter_filter]
  · rw [View.ownText, ← List.filter_filter, show (ofEvents events).view.children x = _ from
      children_eq_filter events x]
    rfl

/-- A paragraph after a declaration: words stand before it, in it and in an element inside of it, a
comment stands between them, one end tag ends nothing, and the one of the paragraph is missing. -/
def interleaved : List Event :=
  [.doctype "html", .text "a", .endTag, .startTag ⟨"p", []⟩, .text "b", .startTag ⟨"b", []⟩,
    .comment "no", .text "c", .endTag, .text "d"]

/-- The text of the paragraph leaves out the comment and what stands before it, and its own text
also what is inside of the element in it. -/
theorem text_interleaved :
    (ofEvents interleaved).view.kind 3 = .element ∧
    (ofEvents interleaved).view.text 3 = "bcd" ∧
    (ofEvents interleaved).view.ownText 3 = "bd" ∧
    (ofEvents interleaved).view.text root = "abcd" := by
  have hkind : (ofEvents interleaved).view.kind 3 = .element := by decide +kernel
  obtain ⟨htext, hown⟩ := (text_ofEvents interleaved).1 3 (.inl hkind)
  refine ⟨hkind, htext.trans ?_, hown.trans ?_, (text_ofEvents interleaved).2.1.trans ?_⟩ <;>
    decide +kernel

end Tree

end MarkupQuery
