import MarkupQuery.Proofs.Tree.Building
import MarkupQuery.Proofs.Tree.Reading

/-!
Forests written as markup and read back.

`Written` says which events are markup of a forest: every item in document order, an element with
nothing inside by one event or by two, and between items outside of all elements any number of end
tags that end nothing. In `Describes` end tags at the very end may be missing.

* `Builder.Grown`: what markup of some items does to a builder, wherever it stands: the same
  elements are open as before, no other node is touched, and the current node has got new children,
  from which these items are read.
* `Grown.single`, `Grown.element`, `Grown.trans`: one item, an element around items, and items
  behind one another.
* `grown_of_written`: hence markup of any items, by induction over how it is written.
* `read_ofEvents`: the forest is read back from the finished tree.
-/

namespace MarkupQuery

open Relation MarkupQuery.Tree

/-- The item that a piece of markup is by itself. -/
def Event.item? : Event → Option Item
  | .doctype name => some (.doctype name)
  | .text data => some (.text data)
  | .comment data => some (.comment data)
  | .emptyTag e => some (.element e [])
  | .startTag _ | .endTag => none

/-- The events are markup of the items, outside of all elements or inside one. -/
inductive Written : Bool → List Item → List Event → Prop where
  | nil {outside : Bool} : Written outside [] []
  | single {outside : Bool} {event : Event} {item : Item} {items : List Item} {events : List Event}
      (hitem : event.item? = some item) (h : Written outside items events) :
      Written outside (item :: items) (event :: events)
  | element {outside : Bool} {inside items : List Item} {within events : List Event} (e : Element)
      (hinside : Written false inside within) (h : Written outside items events) :
      Written outside (.element e inside :: items) (.startTag e :: within ++ .endTag :: events)
  | stray {items : List Item} {events : List Event} (h : Written true items events) :
      Written true items (.endTag :: events)

/-- The events are markup of the forest, but for end tags that may be missing at the end. -/
def Describes (events : List Event) (forest : List Item) : Prop :=
  ∃ missing, Written true forest (events ++ List.replicate missing .endTag)

namespace Builder

variable {b b₁ b₂ : Builder} {items items' inside : List Item} {x : NodeId}

/-! ### One more node -/

lemma Sound.children_insert (h : b.Sound) (content : Content) (x : NodeId) :
    (b.insert content).1.tree.children x =
      if b.current = x then b.tree.children x ++ [b.tree.size] else b.tree.children x := by
  show ((b.tree.alloc content).1.append b.current b.tree.size).children x = _
  rw [children_append (h.attachable content).parent_lt, children_alloc]

/-- The next place of a tree has nothing under it. -/
lemma children_size (t : Tree) : t.children t.size = [] := by
  rw [children, get?_size]
  rfl

lemma Sound.children_insert_size (h : b.Sound) (content : Content) :
    (b.insert content).1.tree.children b.tree.size = [] := by
  rw [h.children_insert, if_neg (Nat.ne_of_lt h.current_lt), children_size]

/-! ### What markup of items does -/

/-- The second builder is the first after markup of the items. -/
structure Grown (b b' : Builder) (items : List Item) : Prop where
  sound : b'.Sound
  open_eq : b'.openElements = b.openElements
  size_le : b.tree.size ≤ b'.tree.size
  content?_eq : ∀ x < b.tree.size, b'.tree.content? x = b.tree.content? x
  children_eq : ∀ x < b.tree.size, x ≠ b.current → b'.tree.children x = b.tree.children x
  read : ∃ new parts, b'.tree.children b.current = b.tree.children b.current ++ new ∧
    new.mapM b'.tree.readItem = some parts ∧ parts.map (·.2) = items

namespace Grown

lemma refl (h : b.Sound) : Grown b b [] where
  sound := h
  open_eq := rfl
  size_le := le_rfl
  content?_eq _ _ := rfl
  children_eq _ _ _ := rfl
  read := ⟨[], [], (List.append_nil _).symm, rfl, rfl⟩

lemma current_eq (h : Grown b b₁ items) : b₁.current = b.current := by
  rw [current, current, h.open_eq]

/-- A node that does not cover the current one is read as before. -/
lemma readItem_eq (hb : b.Sound) (h : Grown b b₁ items) (hx : x < b.tree.size)
    (hc : ¬ b.tree.Covers x b.current) : b₁.tree.readItem x = b.tree.readItem x := by
  refine hb.linked.readItem_congr h.sound.linked fun y hy => ?_
  have hlt : y < b.tree.size := by
    rcases covers_iff.mp hy with rfl | hxy
    · exact hx
    · obtain ⟨p, _, hp⟩ := TransGen.tail'_iff.mp hxy
      exact lt_size_of_parent hp
  have hne : y ≠ b.current := by
    rintro rfl
    exact hc hy
  exact ⟨h.content?_eq y hlt, h.children_eq y hlt hne⟩

/-- Items behind one another. -/
lemma trans (h : Grown b b₁ items) (h' : Grown b₁ b₂ items') : Grown b b₂ (items ++ items') where
  sound := h'.sound
  open_eq := h'.open_eq.trans h.open_eq
  size_le := h.size_le.trans h'.size_le
  content?_eq x hx := (h'.content?_eq x (hx.trans_le h.size_le)).trans (h.content?_eq x hx)
  children_eq x hx hne :=
    (h'.children_eq x (hx.trans_le h.size_le) (h.current_eq ▸ hne)).trans (h.children_eq x hx hne)
  read := by
    obtain ⟨new, parts, hchildren, hread, rfl⟩ := h.read
    obtain ⟨new', parts', hchildren', hread', rfl⟩ := h'.read
    rw [h.current_eq] at hchildren'
    have hl := h.sound.linked
    -- the children of the current node are complete: nothing more goes under them
    have hold : new.mapM b₂.tree.readItem = some parts := by
      rw [← hread]
      refine mapM_congr fun y hy => ?_
      have hmem : y ∈ b₁.tree.children b₁.current := by
        rw [h.current_eq, hchildren]
        exact List.mem_append_right _ hy
      have hp := hl.mem_children.mp hmem
      exact readItem_eq h.sound h' (hl.children_lt hmem) fun hc =>
        hl.not_above_self _ (TransGen.head' hp hc)
    refine ⟨new ++ new', parts ++ parts', ?_, ?_, List.map_append⟩
    · rw [hchildren', hchildren, List.append_assoc]
    · rw [List.mapM_append, hold, hread']
      rfl

/-- A new child of the current node, with what came under it since. -/
lemma of_child (content : Content) (met : List NodeId) {item : Item} (hb : b.Sound)
    (hsound : b₂.Sound) (hopen : b₂.openElements = b.openElements)
    (hsize : (b.insert content).1.tree.size ≤ b₂.tree.size)
    (hcontent : ∀ x < (b.insert content).1.tree.size,
      b₂.tree.content? x = (b.insert content).1.tree.content? x)
    (hchildren : ∀ x < b.tree.size,
      b₂.tree.children x = (b.insert content).1.tree.children x)
    (hread : b₂.tree.readItem b.tree.size = some (met, item)) : Grown b b₂ [item] where
  sound := hsound
  open_eq := hopen
  size_le := by
    rw [size_insert] at hsize
    omega
  content?_eq x hx := by
    rw [hcontent x (by rw [size_insert]; omega), content?_insert, if_neg (Nat.ne_of_lt hx)]
  children_eq x hx hne := by
    rw [hchildren x hx, hb.children_insert, if_neg (Ne.symm hne)]
  read := by
    refine ⟨[b.tree.size], [(met, item)], ?_, ?_, rfl⟩
    · rw [hchildren _ hb.current_lt, hb.children_insert, if_pos rfl]
    · rw [List.mapM_cons, hread, List.mapM_nil]
      rfl

/-- An item that is one piece of markup. -/
lemma single {event : Event} {item : Item} (h : b.Sound) (hitem : event.item? = some item) :
    Grown b (b.take event) [item] := by
  have hleaf : ∀ content : Content,
      content.item? [] = some item → Grown b (b.insert content).1 [item] := by
    intro content hcontent
    refine of_child content [b.tree.size] h (h.insert content) rfl le_rfl (fun _ _ => rfl)
      (fun _ _ => rfl) ?_
    rw [(h.insert content).linked.readItem_eq, h.children_insert_size, List.mapM_nil]
    simp [item?_eq, content?_insert_size, hcontent]
  cases event with
  | doctype name =>
      cases hitem
      exact hleaf (.doctype name) rfl
  | text data =>
      cases hitem
      exact hleaf (.text data) rfl
  | comment data =>
      cases hitem
      exact hleaf (.comment data) rfl
  | emptyTag e =>
      cases hitem
      exact hleaf (.element e) rfl
  | startTag e => cases hitem
  | endTag => cases hitem

/-- An element around items. -/
lemma element (h : b.Sound) (e : Element) (hinside : Grown (b.take (.startTag e)) b₁ inside) :
    Grown b (b₁.take .endTag) [.element e inside] := by
  have hcurrent : (b.take (.startTag e)).current = b.tree.size := rfl
  obtain ⟨new, parts, hchildren, hread, rfl⟩ := hinside.read
  rw [hcurrent] at hchildren
  have hnew : b₁.tree.children b.tree.size = new := by
    rw [hchildren]
    exact congrArg (· ++ new) (h.children_insert_size (.element e))
  have hlt : ∀ x ≤ b.tree.size, x < (b.take (.startTag e)).tree.size := by
    intro x hx
    exact (Nat.lt_succ_of_le hx).trans_eq (size_insert b (.element e)).symm
  refine of_child (.element e) (b.tree.size :: parts.flatMap (·.1)) h hinside.sound.pop ?_
    hinside.size_le hinside.content?_eq
    (fun x hx => hinside.children_eq x (hlt x hx.le) (Nat.ne_of_lt hx)) ?_
  · show b₁.openElements.tail = b.openElements
    rw [hinside.open_eq]
    rfl
  · have hcontent : b₁.tree.content? b.tree.size = some (.element e) :=
      (hinside.content?_eq _ (hlt _ le_rfl)).trans (content?_insert_size b _)
    show b₁.tree.readItem b.tree.size = _
    rw [hinside.sound.linked.readItem_eq, hnew, hread]
    simp [item?_eq, hcontent, Content.item?]

end Grown

/-- Markup of items does to a builder what `Grown` says. -/
lemma grown_of_written {outside : Bool} {events : List Event}
    (hw : Written outside items events) (h : b.Sound) (hout : outside = true → b.openElements = []) :
    Grown b (events.foldl take b) items := by
  induction hw generalizing b with
  | nil => exact Grown.refl h
  | single hitem _ ih =>
      have hfirst := Grown.single h hitem
      exact hfirst.trans (ih hfirst.sound fun ho => hfirst.open_eq.trans (hout ho))
  | element e _ _ ihinside ih =>
      have hfirst := Grown.element h e (ihinside (h.take (.startTag e)) fun ho => nomatch ho)
      rw [List.cons_append, List.foldl_cons, List.foldl_append]
      exact hfirst.trans (ih hfirst.sound fun ho => hfirst.open_eq.trans (hout ho))
  | stray _ ih =>
      have hsame : b.take .endTag = b := by
        rw [take, hout rfl, List.tail_nil, ← hout rfl]
      rw [List.foldl_cons, hsame]
      exact ih h hout

/-- End tags change no tree. -/
lemma tree_foldl_endTag (b : Builder) (n : ℕ) :
    ((List.replicate n Event.endTag).foldl take b).tree = b.tree := by
  induction n generalizing b with
  | zero => rfl
  | succ n ih => exact ih (b.take .endTag)

end Builder

namespace Tree

variable {forest : List Item} {events : List Event}

/-- The finished tree is that of a builder after markup of the whole forest. -/
lemma exists_grown_of_describes (h : Describes events forest) :
    ∃ b : Builder, b.tree = ofEvents events ∧ Builder.Grown {} b forest := by
  obtain ⟨missing, hw⟩ := h
  refine ⟨_, ?_, Builder.grown_of_written hw Builder.sound_start fun _ => rfl⟩
  rw [List.foldl_append, Builder.tree_foldl_endTag, ofEvents]

/-- **A forest is read back from its markup**: for all markup of a forest, whichever way its empty
elements are written, whatever end tags stand outside of its elements and however many are missing
at the end, the reading of the finished tree from the document is this forest. It meets the nodes
`0, 1, 2, …` in this order and leaves out none. Only the document and elements have anything under
them. -/
theorem read_ofEvents (h : Describes events forest) :
    (ofEvents events).view.kind root = .document ∧
      (ofEvents events).view.readForest root
        = some (List.range (ofEvents events).size, forest) ∧
      ∀ x, (ofEvents events).children x ≠ [] →
        x = root ∨ (ofEvents events).view.kind x = .element := by
  obtain ⟨b, htree, hgrown⟩ := exists_grown_of_describes h
  obtain ⟨new, parts, hchildren, hread, rfl⟩ := hgrown.read
  have hl := (reachable_ofEvents events).linked
  have hroot : (ofEvents events).content? root = some .document := by
    rw [← htree]
    exact hgrown.content?_eq root Nat.one_pos
  have hparts : ((ofEvents events).children root).mapM (ofEvents events).readItem
      = some parts := by
    rw [← htree, ← hread]
    exact congrArg (List.mapM b.tree.readItem) hchildren
  refine ⟨by simp [view, hroot, Content.kind], ?_, fun x hx => ?_⟩
  · have hforest : (ofEvents events).view.readForest root
        = some (root :: parts.flatMap (·.1), parts.map (·.2)) := by
      show ((ofEvents events).children root).mapM (ofEvents events).readItem >>= _ = _
      rw [hparts]
      rfl
    rw [hforest, flatMap_of_mapM hparts fun y _ _ hpart => hl.met_eq_descendants hpart,
      ← hl.descendants_eq, descendants_root_ofEvents]
  · have hcov : (ofEvents events).Covers root x := by
      rw [← hl.mem_cons_descendants, descendants_root_ofEvents, List.mem_range]
      by_contra hlt
      rw [children, get?_eq_none_iff.mpr (Nat.le_of_not_lt hlt)] at hx
      exact hx rfl
    rcases covers_iff.mp hcov with hx | habove
    · exact Or.inl hx
    · obtain ⟨c, hc, hcx⟩ := habove.exists_child
      obtain ⟨part, _, hpart⟩ := exists_of_mapM hparts (hl.mem_children.mpr hc)
      exact Or.inr (hl.kind_of_readItem hpart hcx hx)

/-- A list between a declaration and a comment: its entries are written in both ways, the second
with a name twice, end tags stand outside, and those of the last entry and of the list are
missing. -/
def menuMarkup : List Event :=
  [.endTag, .doctype "html", .endTag, .endTag, .emptyTag ⟨"hr", []⟩, .comment " menu ",
    .startTag ⟨"ul", [⟨"class", "menu"⟩]⟩, .startTag ⟨"li", []⟩, .endTag,
    .startTag ⟨"li", [⟨"id", "a"⟩, ⟨"id", "b"⟩]⟩, .text "one"]

/-- What the markup of the menu says. -/
def menu : List Item :=
  [.doctype "html", .element ⟨"hr", []⟩ [], .comment " menu ",
    .element ⟨"ul", [⟨"class", "menu"⟩]⟩
      [.element ⟨"li", []⟩ [],
        .element ⟨"li", [⟨"id", "a"⟩, ⟨"id", "b"⟩]⟩ [.text "one"]]]

lemma describes_menu : Describes menuMarkup menu := by
  have hsecond : Written false
      [.element ⟨"li", [⟨"id", "a"⟩, ⟨"id", "b"⟩]⟩ [.text "one"]]
      [.startTag ⟨"li", [⟨"id", "a"⟩, ⟨"id", "b"⟩]⟩, .text "one", .endTag] :=
    .element _ (.single rfl .nil) .nil
  have hlist : Written true
      [.element ⟨"ul", [⟨"class", "menu"⟩]⟩
        [.element ⟨"li", []⟩ [], .element ⟨"li", [⟨"id", "a"⟩, ⟨"id", "b"⟩]⟩ [.text "one"]]]
      [.startTag ⟨"ul", [⟨"class", "menu"⟩]⟩, .startTag ⟨"li", []⟩, .endTag,
        .startTag ⟨"li", [⟨"id", "a"⟩, ⟨"id", "b"⟩]⟩, .text "one", .endTag, .endTag] :=
    .element _ (.element _ .nil hsecond) .nil
  exact ⟨2, .stray (.single rfl (.stray (.stray (.single rfl (.single rfl hlist)))))⟩

theorem read_menu : Describes menuMarkup menu ∧
    (ofEvents menuMarkup).view.readForest root = some ([0, 1, 2, 3, 4, 5, 6, 7], menu) :=
  ⟨describes_menu, (read_ofEvents describes_menu).2.1⟩

end Tree

end MarkupQuery
