import MarkupQuery.Proofs.Tree.Frames
import MarkupQuery.Tree.Build

/-!
Trees from markup events.

A builder hangs every new node under the innermost open element, and only there. `Builder.Sound` is
what it keeps: its tree can be built by the two operations, the open elements are the ancestors of
the innermost one, none of them has a sibling behind it, and the nodes below the document are
numbered in document order.

* `Builder.Sound.take`: every piece of markup keeps it.
* `Builder.Nested.take`: nothing but the document and elements gets nodes under it.
* `reachable_ofEvents`, `descendants_root_ofEvents`: what a sequence of markup describes can be
  built, and its nodes are `0, 1, 2, …` in document order.
* `parent_root_ofEvents`, `isElement_of_parent_ofEvents`: the document is under nothing, and every
  other node that has one under it is an element. So a way down goes through elements only
  (`isElement_of_between`), and ends at whatever else it meets (`descendants_of_not_isElement`).
-/

namespace MarkupQuery

open Relation MarkupQuery.Tree

variable {b : Builder} {t : Tree} {x y p c : NodeId}

namespace Builder

/-- What holds of a builder after any sequence of markup. -/
structure Sound (b : Builder) : Prop where
  reachable : b.tree.Reachable
  open_eq : b.openElements ++ [root] = b.current :: b.tree.view.ancestors b.current
  next_none : ∀ x, b.tree.Covers x b.current → b.tree.next x = none
  listed : root :: b.tree.view.descendants root = List.range b.tree.size

lemma sound_start : Sound {} where
  reachable := Reachable.bare
  open_eq := rfl
  next_none x _ := by cases x <;> rfl
  listed := rfl

lemma current_of_open_eq {first : NodeId} {rest : List NodeId}
    (h : b.openElements ++ [root] = first :: rest) : b.current = first := by
  rw [current]
  cases ho : b.openElements with
  | nil =>
      rw [ho] at h
      exact (List.cons.inj h).1
  | cons y ys =>
      rw [ho] at h
      exact (List.cons.inj h).1

namespace Sound

variable (h : b.Sound)

include h

lemma linked : b.tree.Linked := h.reachable.linked

lemma covers_root : b.tree.Covers root b.current := by
  have hroot : root ∈ b.current :: b.tree.view.ancestors b.current := by
    rw [← h.open_eq]
    simp
  rw [List.mem_cons, h.linked.mem_ancestors] at hroot
  rcases hroot with hroot | hroot
  · rw [hroot]
    exact Covers.refl _ _
  · exact hroot.covers

lemma current_lt : b.current < b.tree.size := by
  rcases covers_iff.mp h.covers_root with hroot | hroot
  · rw [hroot]
    exact h.linked.size_pos
  · obtain ⟨q, _, hq⟩ := TransGen.tail'_iff.mp hroot
    exact lt_size_of_parent hq

/-- The next node of a tree is under nothing and has nothing under it, so it may be hung. -/
lemma attachable (content : Content) :
    (b.tree.alloc content).1.Attachable b.current b.tree.size where
  parent_lt := by
    rw [size_alloc]
    exact Nat.lt_succ_of_lt h.current_lt
  child_lt := by
    rw [size_alloc]
    exact Nat.lt_succ_self _
  hangs_nowhere := by
    rw [parent_alloc, Tree.parent, get?_size]
    rfl
  not_covers hc := by
    rcases covers_iff.mp hc with hc | hc
    · exact absurd h.current_lt (by rw [hc]; exact Nat.lt_irrefl _)
    · obtain ⟨d, hd, _⟩ := hc.exists_child
      rw [parent_alloc] at hd
      exact absurd (h.linked.parent_lt hd) (Nat.lt_irrefl _)

/-! ### One piece of markup -/

lemma insert (content : Content) : (b.insert content).1.Sound := by
  have ha := h.attachable content
  have hl := h.linked.alloc content
  refine ⟨(h.reachable.alloc content).append ha, ?_, fun x hx => ?_, ?_⟩
  · show b.openElements ++ [root] = b.current ::
      ((b.tree.alloc content).1.append b.current b.tree.size).view.ancestors b.current
    rw [hl.ancestors_append_of_not_covers ha ha.not_covers, h.linked.ancestors_alloc]
    exact h.open_eq
  · replace hx : b.tree.Covers x b.current :=
      (covers_alloc content).mp ((covers_append_iff ha ha.not_covers).mp hx)
    show ((b.tree.alloc content).1.append b.current b.tree.size).next x = none
    rw [next_append (getLast?_children_lt hl), children_alloc, next_alloc]
    have hlast : (b.tree.children b.current).getLast? ≠ some x := by
      intro hm
      have hp := h.linked.mem_children.mp (List.mem_of_getLast? hm)
      exact h.linked.not_above_self x (TransGen.tail' hx hp)
    rw [if_neg hlast]
    exact h.next_none x hx
  · have hnil : b.tree.view.descendants b.tree.size = [] := by
      rw [h.linked.descendants_eq, children, get?_size]
      rfl
    have hcov := (covers_alloc content).mpr h.covers_root
    have hnext : ∀ y, (b.tree.alloc content).1.Covers y b.current →
        (b.tree.alloc content).1.next y = none := by
      intro y hy
      rw [next_alloc]
      exact h.next_none y ((covers_alloc content).mp hy)
    show root :: ((b.tree.alloc content).1.append b.current b.tree.size).view.descendants root
      = List.range ((b.tree.alloc content).1.append b.current b.tree.size).size
    rw [hl.descendants_append_of_covers ha hnext hcov, h.linked.descendants_alloc,
      h.linked.descendants_alloc, hnil, size_append, size_alloc, List.range_succ, ← h.listed,
      List.cons_append]

/-- A child of the current node without a sibling behind it may become the current node. -/
lemma push (hp : b.tree.parent x = some b.current) (hn : b.tree.next x = none) :
    Sound { b with openElements := x :: b.openElements } where
  reachable := h.reachable
  open_eq := by
    show x :: (b.openElements ++ [root]) = x :: b.tree.view.ancestors x
    rw [h.linked.ancestors_of_parent hp, h.open_eq]
  next_none y hy := by
    rcases covers_iff.mp hy with hxy | hxy
    · rw [← hxy]
      exact hn
    · exact h.next_none y ((above_iff_of_parent hp).mp hxy)
  listed := h.listed

/-- Where an element is open, its parent may become the current node again. -/
lemma pop : Sound { b with openElements := b.openElements.tail } := by
  cases ho : b.openElements with
  | nil =>
      have heq : { b with openElements := ([] : List NodeId).tail } = b := by
        rw [List.tail_nil, ← ho]
      rw [heq]
      exact h
  | cons e rest =>
      have hcur : b.current = e := by
        rw [current, ho]
        rfl
      have hopen := h.open_eq
      rw [ho, hcur, List.cons_append, List.cons.injEq] at hopen
      obtain ⟨q, hq⟩ : ∃ q, b.tree.parent e = some q := by
        rw [h.linked.ancestors_eq] at hopen
        cases hp : b.tree.parent e with
        | none =>
            rw [hp] at hopen
            exact absurd hopen.2 (by simp)
        | some q => exact ⟨q, rfl⟩
      have hup := hopen.2
      rw [h.linked.ancestors_of_parent hq] at hup
      have hcur' : current { b with openElements := rest } = q := current_of_open_eq hup
      refine ⟨h.reachable, ?_, fun x hx => ?_, h.listed⟩
      · rw [List.tail_cons, hcur']
        exact hup
      · rw [List.tail_cons, hcur'] at hx
        refine h.next_none x ?_
        rw [hcur]
        exact ReflTransGen.tail hx hq

lemma take (e : Event) : (b.take e).Sound := by
  cases e with
  | doctype name => exact h.insert _
  | startTag e =>
      have ha := h.attachable (.element e)
      have hl := h.linked.alloc (.element e)
      refine (h.insert (.element e)).push (x := b.tree.size) ?_ ?_
      · show ((b.tree.alloc (.element e)).1.append b.current b.tree.size).parent b.tree.size = _
        rw [parent_append ha.child_lt, if_pos rfl]
        rfl
      · show ((b.tree.alloc (.element e)).1.append b.current b.tree.size).next b.tree.size = none
        have hlast : ((b.tree.alloc (.element e)).1.children b.current).getLast?
            ≠ some b.tree.size := by
          intro hm
          exact hl.notMem_children ha (List.mem_of_getLast? hm)
        rw [next_append (getLast?_children_lt hl), if_neg hlast]
        exact hl.next_of_no_parent ha.hangs_nowhere
  | emptyTag e => exact h.insert _
  | text data => exact h.insert _
  | comment data => exact h.insert _
  | endTag => exact h.pop

end Sound

/-- Every sequence of markup leaves a sound builder. -/
lemma sound_foldl (events : List Event) : Sound (events.foldl take {}) := by
  induction events using List.reverseRecOn with
  | nil => exact sound_start
  | append_singleton events e ih =>
      rw [List.foldl_append]
      exact ih.take e

/-! ### What has nodes under it -/

lemma content?_insert (b : Builder) (content : Content) (x : NodeId) :
    (b.insert content).1.tree.content? x =
      if x = b.tree.size then some content else b.tree.content? x := by
  show ((b.tree.alloc content).1.append b.current b.tree.size).content? x = _
  rw [content?_append, content?, get?_alloc]
  split <;> rfl

lemma content?_insert_size (b : Builder) (content : Content) :
    (b.insert content).1.tree.content? b.tree.size = some content := by
  rw [content?_insert, if_pos rfl]

lemma isElement_iff {t : Tree} {x : NodeId} :
    t.view.isElement x = true ↔ ∃ e, t.content? x = some (.element e) := by
  show (((t.content? x).map (·.kind)).getD .error == .element) = true ↔ _
  cases t.content? x with
  | none => simp
  | some content => cases content <;> simp [Content.kind]

/-- An element stays one when a node is added. -/
lemma isElement_insert (content : Content) (hx : b.tree.view.isElement x = true) :
    (b.insert content).1.tree.view.isElement x = true := by
  obtain ⟨e, he⟩ := isElement_iff.mp hx
  have hne : x ≠ b.tree.size := by
    rintro rfl
    rw [content?, get?_size] at he
    cases he
  exact isElement_iff.mpr ⟨e, by rw [content?_insert, if_neg hne, he]⟩

/-- The open nodes of a builder are elements, and so is whatever has nodes under it, but for the
document. -/
structure Nested (b : Builder) : Prop where
  opened : ∀ x ∈ b.openElements, b.tree.view.isElement x = true
  parents : ∀ x p, b.tree.parent x = some p → p = root ∨ b.tree.view.isElement p = true

lemma nested_start : Nested {} where
  opened := nofun
  parents x p hp := by cases x <;> cases hp

namespace Nested

lemma current_eq (h : b.Nested) : b.current = root ∨ b.tree.view.isElement b.current = true := by
  rw [current]
  cases ho : b.openElements with
  | nil => exact .inl rfl
  | cons x rest => exact .inr (h.opened x (by rw [ho]; exact List.mem_cons_self))

lemma insert (hs : b.Sound) (h : b.Nested) (content : Content) : (b.insert content).1.Nested where
  opened x hx := isElement_insert content (h.opened x hx)
  parents x p hp := by
    replace hp : ((b.tree.alloc content).1.append b.current b.tree.size).parent x = some p := hp
    rw [parent_append (hs.attachable content).child_lt, parent_alloc] at hp
    split at hp
    · cases hp
      exact h.current_eq.imp_right (isElement_insert content)
    · exact (h.parents x p hp).imp_right (isElement_insert content)

lemma take (hs : b.Sound) (h : b.Nested) (e : Event) : (b.take e).Nested := by
  cases e with
  | startTag e =>
      have hi := h.insert hs (.element e)
      refine ⟨fun x hx => ?_, hi.parents⟩
      rcases List.mem_cons.mp hx with rfl | hx
      · exact isElement_iff.mpr ⟨e, content?_insert_size b _⟩
      · exact hi.opened x hx
  | endTag => exact ⟨fun x hx => h.opened x (List.mem_of_mem_tail hx), h.parents⟩
  | _ => exact h.insert hs _

end Nested

lemma nested_foldl (events : List Event) : Nested (events.foldl take {}) := by
  induction events using List.reverseRecOn with
  | nil => exact nested_start
  | append_singleton events e ih =>
      rw [List.foldl_append]
      exact ih.take (sound_foldl events) e

end Builder

namespace Tree

/-- What markup describes can be built by the two operations. -/
lemma reachable_ofEvents (events : List Event) : (ofEvents events).Reachable :=
  (Builder.sound_foldl events).reachable

/-- In a tree that markup describes the nodes are numbered in document order. -/
lemma descendants_root_ofEvents (events : List Event) :
    root :: (ofEvents events).view.descendants root = List.range (ofEvents events).size :=
  (Builder.sound_foldl events).listed

/-- The document is under nothing. -/
lemma parent_root_ofEvents (events : List Event) : (ofEvents events).parent root = none := by
  have h := Builder.sound_foldl events
  have htop : (ofEvents events).view.root (events.foldl Builder.take {}).current = root := by
    have hlast := congrArg (·.getLastD root) h.open_eq
    rw [List.getLastD_concat, List.getLastD_cons] at hlast
    exact hlast.symm
  rw [← htop]
  exact h.linked.parent_root _

/-- Whatever has a node under it is the document or an element. -/
lemma isElement_of_parent_ofEvents {events : List Event}
    (hp : (ofEvents events).parent x = some p) :
    p = root ∨ (ofEvents events).view.isElement p = true :=
  (Builder.nested_foldl events).parents x p hp

/-- What is under a node and has one under it is an element. -/
lemma isElement_of_between {events : List Event} (hx : (ofEvents events).parent x = some p)
    (hc : (ofEvents events).parent c = some x) : (ofEvents events).view.isElement x = true := by
  refine (isElement_of_parent_ofEvents hc).resolve_left ?_
  rintro rfl
  rw [parent_root_ofEvents] at hx
  cases hx

/-- What is under a node and no element has nothing under it. -/
lemma descendants_of_not_isElement {events : List Event}
    (hx : (ofEvents events).parent x = some p) (he : (ofEvents events).view.isElement x = false) :
    (ofEvents events).view.descendants x = [] := by
  have h := (reachable_ofEvents events).linked
  rw [List.eq_nil_iff_forall_not_mem]
  intro y hy
  obtain ⟨c, hc, _⟩ := (h.mem_descendants.mp hy).exists_child
  rw [isElement_of_between hx hc] at he
  cases he

end Tree

end MarkupQuery
