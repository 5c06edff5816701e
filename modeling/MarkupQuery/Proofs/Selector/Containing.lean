import Mathlib
import MarkupQuery.Proofs.Text.Lowercase
import MarkupQuery.Proofs.Tree.Text

/-!
Needles in the text of a tree.

In a tree that markup describes only elements stand between an element and the character data under
it, so this is a piece of the text of the element. Needle and text are turned into small letters
apart from each other. A needle that occurs in character data is therefore found there, and in every
element around it, if it settles by itself which of its sigmas end a word; one that does not is
missed somewhere.

* `payload_mem_textsUnder`, `payload_infix_text`: character data is one of these pieces for every
  node above it, and stands in the text of every element above it;
* `containing_iff_settlesSigmas`: which needles are found wherever they occur.
-/

namespace MarkupQuery

open MarkupQuery.Tree

namespace Tree

variable {x y : NodeId} {events : List Event}

/-- Character data is one of the pieces under every node above it. -/
lemma payload_mem_textsUnder (hy : (ofEvents events).view.kind y = .text)
    (ha : (ofEvents events).Above x y) :
    (ofEvents events).view.payload y ∈
      (ofEvents events).view.textsUnder (ofEvents events).size x := by
  rw [textsUnder_eq_filter]
  refine List.mem_map_of_mem (List.mem_filter.mpr ⟨?_, beq_iff_eq.mpr hy⟩)
  exact (reachable_ofEvents events).linked.mem_descendants.mpr ha

/-- Character data stands in the text of every element above it. -/
lemma payload_infix_text (hy : (ofEvents events).view.kind y = .text)
    (hx : (ofEvents events).view.isElement x = true) (ha : (ofEvents events).Above x y) :
    ((ofEvents events).view.payload y).toList <:+: ((ofEvents events).view.text x).toList := by
  have hkind : (ofEvents events).view.kind x = .element := beq_iff_eq.mp hx
  rw [text_eq_join (.inl hkind), String.toList_join, List.flatMap_def]
  exact List.infix_of_mem_flatten (List.mem_map_of_mem (payload_mem_textsUnder hy ha))

end Tree

/-- The text of character data is what it carries itself. -/
lemma View.text_of_kind {N : Type} {v : View N} {x : N} (h : v.kind x = .text) :
    v.text x = v.payload x := by
  rw [View.text, h]

namespace Selector

variable {N : Type} [BEq N]

lemma holds_containing (v : View N) (needle : String) (x : N) :
    (containing needle false).holds v x = true ↔
      (lowercase needle).toList <:+: (lowercase (v.text x)).toList :=
  occursIn_iff

/-- **A needle is found wherever it occurs just if it settles its sigmas**: in the character data
that it occurs in, and in the elements around that. -/
theorem containing_iff_settlesSigmas (needle : String) :
    (∀ (events : List Event) (y : NodeId), (ofEvents events).view.kind y = .text →
      needle.toList <:+: ((ofEvents events).view.payload y).toList →
      (containing needle false).holds (ofEvents events).view y = true ∧
      ∀ x, (ofEvents events).Above x y → (ofEvents events).view.isElement x = true →
        (containing needle false).holds (ofEvents events).view x = true) ↔
    SettlesSigmas needle.toList := by
  rw [← lowercase_infix_iff]
  constructor
  · intro h text htext
    -- the text as the only node under the document
    have hkind : (ofEvents [.text text]).view.kind 1 = .text := rfl
    have hpayload : (ofEvents [.text text]).view.payload 1 = text := rfl
    have hfound := (h [.text text] 1 hkind (hpayload ▸ htext)).1
    rw [holds_containing, View.text_of_kind hkind, hpayload] at hfound
    exact hfound
  · intro h events y hy hoccurs
    have hown := View.text_of_kind hy
    refine ⟨(holds_containing _ needle y).mpr (hown ▸ h _ hoccurs), fun x ha hx => ?_⟩
    exact (holds_containing _ needle x).mpr (h _ (hoccurs.trans (payload_infix_text hy hx ha)))

/-- A paragraph with a word of three letters, of which the sigma stands in the middle. -/
def paragraphOfThree : List Event :=
  [.startTag ⟨"p", []⟩, .text "ΑΣΑ", .endTag]

/-- The sigma ends the needle and does not end the word that the needle occurs in, and so neither
the word nor the paragraph is found. -/
theorem containing_misses_sigma :
    (ofEvents paragraphOfThree).view.kind 2 = .text ∧
    "ΑΣ".toList <:+: ((ofEvents paragraphOfThree).view.payload 2).toList ∧
    (ofEvents paragraphOfThree).Above 1 2 ∧
    (ofEvents paragraphOfThree).view.isElement 1 = true ∧
    (containing "ΑΣ" false).holds (ofEvents paragraphOfThree).view 2 = false ∧
    (containing "ΑΣ" false).holds (ofEvents paragraphOfThree).view 1 = false := by
  refine ⟨by cbv, ?_, above_of_parent (by cbv), by cbv, by decide +kernel, by decide +kernel⟩
  exact ⟨[], ['Α'], by cbv⟩

end Selector

end MarkupQuery
