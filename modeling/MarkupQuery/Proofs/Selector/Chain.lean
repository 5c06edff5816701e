import MarkupQuery.Proofs.Selector.Shape
import MarkupQuery.Proofs.Tree.Consistency
import MarkupQuery.Selector.Matching

/-!
Chains of combinators.

A chain is tested from its right end: each selector to the left is looked for among the nodes that
the combinator leads to. `Tree.Related` says the four relations over parents and ordered lists of
children alone, and `Linked.mem_partners` that the walks of the matcher find exactly the nodes so
related. Since every related node is tried, no choice made on the right can miss a match on the
left: `holds_chain_iff` reads a match as a row of nodes, one for each selector, whatever the
combinators and however long the chain.
-/

namespace MarkupQuery

variable {t : Tree} {x y p : NodeId}

namespace Tree

/-- The node `y` stands before `x` among the children of their parent, with `between` between
them. -/
def StandsBefore (t : Tree) (y : NodeId) (between : List NodeId) (x : NodeId) : Prop :=
  ∃ p before after, t.parent x = some p ∧ t.parent y = some p ∧
    t.children p = before ++ y :: (between ++ x :: after)

/-- The node is a text or a comment. -/
def IsCharacterData (t : Tree) (x : NodeId) : Prop :=
  ∃ data, t.content? x = some (.text data) ∨ t.content? x = some (.comment data)

/-- The node `y` is what a combinator to the left of `x` asks for. -/
def Related (t : Tree) : Combinator → NodeId → NodeId → Prop
  | .descendant, y, x => t.Above y x
  | .child, y, x => t.parent x = some y
  | .nextSibling, y, x => ∃ between, t.StandsBefore y between x ∧ ¬ t.IsCharacterData y ∧
      ∀ z ∈ between, t.IsCharacterData z
  | .subsequentSibling, y, x => ∃ between, t.StandsBefore y between x

lemma kind_eq_iff_isCharacterData :
    (t.view.kind x == .text || t.view.kind x == .comment) = true ↔ t.IsCharacterData x := by
  show (((t.content? x).map (·.kind)).getD .error == .text
    || ((t.content? x).map (·.kind)).getD .error == .comment) = true ↔ _
  rw [IsCharacterData]
  cases hc : t.content? x with
  | none => simp
  | some content => cases content <;> simp [Content.kind]

namespace Linked

variable (h : t.Linked)

include h

/-- The siblings before a node are read off the list it stands in. -/
lemma preceding_of_standsBefore {between : List NodeId} (hs : t.StandsBefore y between x) :
    ∃ before, t.view.preceding x = between.reverse ++ y :: before := by
  obtain ⟨p, before, after, _, _, hs⟩ := hs
  rw [← List.cons_append, ← List.append_assoc] at hs
  exact ⟨before.reverse, by rw [h.preceding_eq hs]; simp⟩

/-- Each node that the walk to the left meets stands before the node, with what the walk met sooner
between them. -/
lemma standsBefore_of_preceding {nearer farther : List NodeId}
    (hs : t.view.preceding x = nearer ++ y :: farther) : t.StandsBefore y nearer.reverse x := by
  cases hp : t.parent x with
  | none =>
      rw [h.preceding_of_no_parent hp] at hs
      exact absurd hs (by simp)
  | some p =>
      obtain ⟨before, after, hc⟩ := List.mem_iff_append.mp (h.mem_children.mpr hp)
      rw [h.preceding_eq hc, List.reverse_eq_iff] at hs
      have hsplit : t.children p = farther.reverse ++ y :: (nearer.reverse ++ x :: after) := by
        rw [hc, hs]
        simp
      have hy : t.parent y = some p := h.mem_children.mp (by simp [hsplit])
      exact ⟨p, farther.reverse, after, hp, hy, hsplit⟩

/-- The nodes that the matcher tries are the nodes that the combinator asks for. -/
lemma mem_partners {relation : Combinator} :
    y ∈ relation.partners t.view x ↔ t.Related relation y x := by
  cases relation with
  | descendant => exact h.mem_ancestors
  | child => exact Option.mem_toList
  | nextSibling =>
      rw [Combinator.partners, Option.mem_toList, List.find?_eq_some_iff_append]
      constructor
      · rintro ⟨hy, nearer, farther, hs, hnearer⟩
        refine ⟨nearer.reverse, h.standsBefore_of_preceding hs, fun hdata => ?_, fun z hz => ?_⟩
        · rw [kind_eq_iff_isCharacterData.mpr hdata] at hy
          exact absurd hy (by decide)
        · have hdata := hnearer z (List.mem_reverse.mp hz)
          rw [Bool.not_not] at hdata
          exact kind_eq_iff_isCharacterData.mp hdata
      · rintro ⟨between, hs, hy, hbetween⟩
        obtain ⟨before, hpre⟩ := h.preceding_of_standsBefore hs
        refine ⟨?_, between.reverse, before, hpre, fun z hz => ?_⟩
        · rw [Bool.not_eq_true', ← Bool.not_eq_true, kind_eq_iff_isCharacterData]
          exact hy
        · rw [Bool.not_not, kind_eq_iff_isCharacterData]
          exact hbetween z (List.mem_reverse.mp hz)
  | subsequentSibling =>
      rw [Combinator.partners]
      constructor
      · intro hy
        obtain ⟨nearer, farther, hs⟩ := List.mem_iff_append.mp hy
        exact ⟨nearer.reverse, h.standsBefore_of_preceding hs⟩
      · rintro ⟨between, hs⟩
        obtain ⟨before, hpre⟩ := h.preceding_of_standsBefore hs
        rw [hpre]
        simp

end Linked

end Tree

namespace Selector

/-- The nodes `node 0, …, node links.length` bear a chain: each is matched by the selector of its
place, and related to the one before it as the combinator between them asks. -/
structure Bears (t : Tree) (first : Selector) (links : List (Combinator × Selector))
    (node : ℕ → NodeId) : Prop where
  first_holds : first.holds t.view (node 0) = true
  right_holds : ∀ i (hi : i < links.length), (links[i].2).holds t.view (node (i + 1)) = true
  related : ∀ i (hi : i < links.length), t.Related links[i].1 (node i) (node (i + 1))

variable {first right : Selector} {links : List (Combinator × Selector)} {relation : Combinator}
  {node : ℕ → NodeId}

/-- A row of nodes that bears a chain bears all of it but the last link. -/
lemma Bears.init (h : Bears t first (links ++ [(relation, right)]) node) :
    Bears t first links node where
  first_holds := h.first_holds
  right_holds i hi := by
    have hr := h.right_holds i (by rw [List.length_append]; omega)
    rwa [List.getElem_append_left hi] at hr
  related i hi := by
    have hr := h.related i (by rw [List.length_append]; omega)
    rwa [List.getElem_append_left hi] at hr

/-- A row of nodes that bears a chain is longer by a node that the last of them is related to. -/
lemma Bears.concat (h : Bears t first links node) (hx : right.holds t.view x = true)
    (hr : t.Related relation (node links.length) x) :
    Bears t first (links ++ [(relation, right)])
      (fun i => if i ≤ links.length then node i else x) := by
  refine ⟨by simpa using h.first_holds, fun i hi => ?_, fun i hi => ?_⟩
  all_goals rw [List.length_append, List.length_singleton] at hi
  all_goals by_cases hlast : i < links.length
  · rw [List.getElem_append_left hlast, if_pos (by omega)]
    exact h.right_holds i hlast
  · obtain rfl : i = links.length := by omega
    rw [List.getElem_concat_length rfl, if_neg (by omega)]
    exact hx
  · rw [List.getElem_append_left hlast, if_pos (by omega), if_pos (by omega)]
    exact h.related i hlast
  · obtain rfl : i = links.length := by omega
    rw [List.getElem_concat_length rfl, if_pos le_rfl, if_neg (by omega)]
    exact hr

/-- **A chain of combinators matches a node** exactly when a row of nodes that ends there bears
it. -/
theorem holds_chain_iff (h : t.Reachable) (first : Selector)
    (links : List (Combinator × Selector)) (x : NodeId) :
    (chain first links).holds t.view x = true ↔
      ∃ node : ℕ → NodeId, node links.length = x ∧ Bears t first links node := by
  induction links using List.reverseRecOn generalizing x with
  | nil =>
      constructor
      · exact fun hx => ⟨fun _ => x, rfl, hx, nofun, nofun⟩
      · rintro ⟨node, rfl, hb⟩
        exact hb.first_holds
  | append_singleton links link ih =>
      obtain ⟨relation, right⟩ := link
      rw [chain_concat, holds_complex, Bool.and_eq_true, List.any_eq_true, List.length_append]
      constructor
      · rintro ⟨hx, y, hy, hleft⟩
        obtain ⟨node, rfl, hb⟩ := (ih y).mp hleft
        exact ⟨_, if_neg (by simp), hb.concat hx (h.linked.mem_partners.mp hy)⟩
      · rintro ⟨node, rfl, hb⟩
        have hlen : links.length < (links ++ [(relation, right)]).length := by simp
        have hx := hb.right_holds links.length hlen
        have hr := hb.related links.length hlen
        rw [List.getElem_concat_length rfl] at hx hr
        exact ⟨hx, _, h.linked.mem_partners.mpr hr, (ih _).mpr ⟨node, rfl, hb.init⟩⟩

/-- Two items of a list, a text between them, and bold type in the second. -/
theorem bears_item_behind_item :
    (Tree.ofEvents [.startTag ⟨"ul", []⟩, .emptyTag ⟨"li", []⟩, .text ",", .startTag ⟨"li", []⟩,
      .emptyTag ⟨"b", []⟩]).Reachable ∧
    ∃ node : ℕ → NodeId, node 3 = 5 ∧
      Bears (Tree.ofEvents [.startTag ⟨"ul", []⟩, .emptyTag ⟨"li", []⟩, .text ",",
          .startTag ⟨"li", []⟩, .emptyTag ⟨"b", []⟩])
        (.simple (.tag "ul")) [(.child, .simple (.tag "li")), (.nextSibling, .simple (.tag "li")),
          (.descendant, .simple (.tag "b"))] node :=
  ⟨Tree.reachable_ofEvents _,
    (holds_chain_iff (Tree.reachable_ofEvents _) _
      [(.child, .simple (.tag "li")), (.nextSibling, .simple (.tag "li")),
        (.descendant, .simple (.tag "b"))] 5).mp (by decide)⟩

end Selector

end MarkupQuery
