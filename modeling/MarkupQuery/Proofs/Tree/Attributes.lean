import Mathlib.Tactic
import MarkupQuery.Proofs.Tree.Building

/-!
Tags and attributes of the nodes of a tree.

Only elements have any. An attribute is looked up in the default way, among those listed, where the
first of the name counts.

* `isElement_of_tag`, `isElement_of_mem_attributes`: what has a tag or an attribute is an element;
* `valueOf_eq`: a tree looks attributes up in the default way;
* `Attribute.exists_of_valueOf?`, `Attribute.valueOf?_of_mem`: what is found is the value of an
  attribute of the name, and that of each such attribute if no two names are the same.
-/

namespace MarkupQuery

namespace Attribute

variable {name value : String} {a : Attribute} {attributes : List Attribute}

/-- No two of the attributes have one name but for the case of ASCII letters. -/
def NamesDiffer (attributes : List Attribute) : Prop :=
  attributes.Pairwise fun a b => sameName a.name b.name = false

instance (attributes : List Attribute) : Decidable (NamesDiffer attributes) :=
  inferInstanceAs (Decidable (List.Pairwise _ _))

lemma exists_of_valueOf? (h : valueOf? name attributes = some value) :
    ∃ a ∈ attributes, a.isNamed name = true ∧ a.value = value := by
  obtain ⟨a, ha, rfl⟩ := Option.map_eq_some_iff.mp h
  have hn := List.find?_some ha
  exact ⟨a, List.mem_of_find?_eq_some ha, hn, rfl⟩

/-- With no two names the same, an attribute of the name is the first one of it. -/
lemma valueOf?_of_mem (hd : NamesDiffer attributes) (ha : a ∈ attributes)
    (hn : a.isNamed name = true) : valueOf? name attributes = some a.value := by
  induction attributes with
  | nil => cases ha
  | cons b attributes ih =>
      obtain ⟨hb, hrest⟩ := List.pairwise_cons.mp hd
      rw [valueOf?_cons]
      rcases List.mem_cons.mp ha with rfl | hmem
      · rw [if_pos hn]
      · have hbn : ¬ b.isNamed name = true := fun hbn => by
          have hsame : sameName b.name a.name = true :=
            sameName_trans hbn ((sameName_comm name a.name).trans hn)
          rw [hb a hmem] at hsame
          cases hsame
        rw [if_neg hbn, ih hrest hmem]

end Attribute

namespace Tree

variable {t : Tree} {x : NodeId}

lemma isElement_of_element? {e : Element} (hx : t.element? x = some e) :
    t.view.isElement x = true := by
  obtain ⟨content, hc, hce⟩ := Option.bind_eq_some_iff.mp hx
  cases content with
  | element e => exact Builder.isElement_iff.mpr ⟨e, hc⟩
  | _ => cases hce

lemma isElement_of_tag {name : String} (hx : t.view.tag x = some name) :
    t.view.isElement x = true := by
  obtain ⟨e, he, _⟩ := Option.map_eq_some_iff.mp hx
  exact isElement_of_element? he

lemma isElement_of_mem_attributes {a : Attribute} (ha : a ∈ t.view.attributes x) :
    t.view.isElement x = true := by
  change a ∈ ((t.element? x).map (·.attributes)).getD [] at ha
  cases he : t.element? x with
  | none =>
      rw [he] at ha
      cases ha
  | some e => exact isElement_of_element? he

/-- An element finds its attributes in the default way. -/
lemma valueOf_eq (t : Tree) (x : NodeId) (name : String) :
    t.view.valueOf x name = Attribute.valueOf? name (t.view.attributes x) := by
  show (t.element? x).bind (·.valueOf? name)
    = Attribute.valueOf? name (((t.element? x).map (·.attributes)).getD [])
  cases t.element? x <;> rfl

end Tree

end MarkupQuery
