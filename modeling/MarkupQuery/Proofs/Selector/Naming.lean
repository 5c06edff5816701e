import Mathlib
import MarkupQuery.Proofs.Text.Lowercase
import MarkupQuery.Selector.Matching
import MarkupQuery.Tree.Build

/-!
Elements and attributes found by their names.

A selector keeps the small form of a name, and compares it with the names of a tree but for the case
of ASCII letters. The small form changes the letters of every script, so a name need not even be
found by itself. It is just if all its capital letters are ASCII (`CaseInAscii`).

* `toLower_eq_iff_of_not_ascii`: what is compared but for ASCII case is the same beyond ASCII;
* `map_toLower_lowerFrom_iff`: at the first character beyond ASCII that has a small form, a text and
  its small form go on with different characters;
* `sameName_lowercase_iff`: which names are the same as their small forms but for ASCII case;
* `finds_bearers_iff`: which names find all that bears them.
-/

namespace MarkupQuery

open MarkupQuery.Tree

variable {c d : Char} {before after : List Char} {name : String}

/-! ### Names and their small forms -/

/-- No character of the name beyond ASCII has a small form other than itself. -/
def CaseInAscii (name : String) : Prop :=
  ∀ c ∈ name.toList, 128 ≤ c.toNat → lowercase (String.singleton c) = String.singleton c

lemma lowercase_singleton_eq_iff :
    lowercase (String.singleton c) = String.singleton c ↔ lowerAt [] c [] = [c] := by
  rw [lowercase, ← String.toList_inj, String.toList_ofList, String.toList_singleton, lowerFrom,
    lowerFrom, List.append_nil]

lemma toLower_eq_iff_of_not_ascii (hc : 128 ≤ c.toNat) : d.toLower = c ↔ d = c := by
  by_cases hd : d.isUpper = true
  · have hle := toNat_le_of_isUpper hd
    rw [Char.toLower_eq_of_isUpper hd]
    constructor
    · rintro rfl
      rw [Char.toNat_ofNat] at hc
      split at hc <;> omega
    · rintro rfl
      omega
  · rw [Char.toLower_eq_of_not_isUpper hd]

lemma map_toLower_lowerAt_of_ascii (hc : c.toNat < 128) :
    (lowerAt before c after).map Char.toLower = [c.toLower] := by
  rw [lowerAt_of_ascii hc, List.map_singleton, Char.toLower_toLower_eq_toLower]

/-- A character that is its own small form is so wherever it stands. -/
lemma lowerAt_of_kept (hc : lowerAt [] c [] = [c]) : lowerAt before c after = [c] := by
  rw [← hc]
  refine lowerAt_eq_iff.mpr ?_
  rintro rfl
  exact absurd hc (by decide +kernel)

/-- The small form of any other character begins with a different one. -/
lemma lowerAt_of_not_kept (before after : List Char) (h : 128 ≤ c.toNat) (hc : lowerAt [] c [] ≠ [c]) :
    ∃ d ds, lowerAt before c after = d :: ds ∧ d.toLower ≠ c := by
  rw [lowerAt] at hc ⊢
  by_cases hsigma : c = 'Σ'
  · subst hsigma
    rw [if_pos rfl]
    split <;> exact ⟨_, _, rfl, by decide⟩
  · by_cases hdotted : c = 'İ'
    · subst hdotted
      exact ⟨'i', ['\u0307'], rfl, by decide⟩
    · rw [if_neg hsigma, if_neg hdotted] at hc ⊢
      refine ⟨_, _, rfl, fun heq => hc ?_⟩
      rw [(toLower_eq_iff_of_not_ascii h).mp heq]

lemma map_toLower_lowerFrom_iff (before text : List Char) :
    (lowerFrom before text).map Char.toLower = text.map Char.toLower ↔
      ∀ c ∈ text, 128 ≤ c.toNat → lowerAt [] c [] = [c] := by
  induction text generalizing before with
  | nil => exact iff_of_true rfl (by simp)
  | cons c r ih =>
      rw [lowerFrom, List.map_append, List.map_cons, List.forall_mem_cons, ← ih (c :: before)]
      by_cases hascii : c.toNat < 128
      · rw [map_toLower_lowerAt_of_ascii hascii, List.singleton_append, List.cons.injEq]
        simp [Nat.not_le_of_lt hascii]
      · rw [Nat.not_lt] at hascii
        have hself : c.toLower = c := (toLower_eq_iff_of_not_ascii hascii).mpr rfl
        by_cases hc : lowerAt [] c [] = [c]
        · rw [lowerAt_of_kept hc, List.map_singleton, List.singleton_append, List.cons.injEq]
          simp [hc]
        · obtain ⟨d, ds, hd, hne⟩ := lowerAt_of_not_kept before r hascii hc
          rw [hd, List.map_cons, List.cons_append, List.cons.injEq, hself]
          simp [hne, hc, hascii]

/-- A name and its small form differ in the case of ASCII letters alone just if the name has no
other capital letters. -/
theorem sameName_lowercase_iff : sameName name (lowercase name) = true ↔ CaseInAscii name := by
  rw [sameName_iff, eq_comm, foldName, foldName, lowercase, String.toList_ofList,
    map_toLower_lowerFrom_iff]
  simp only [CaseInAscii, lowercase_singleton_eq_iff]

/-! ### What a name finds -/

namespace Selector

section

variable {N : Type} [BEq N]

lemma holds_tagged (v : View N) (name : String) (x : N) :
    (tagged name).holds v x = true ↔
      ∃ own, v.tag x = some own ∧ sameName own (lowercase name) = true :=
  Option.any_eq_true _ _

lemma holds_withAttribute_present (v : View N) (name : String) (x : N) :
    (withAttribute name .present).holds v x = true ↔
      v.isElement x = true ∧ ∃ a ∈ v.attributes x, a.isNamed (lowercase name) = true := by
  rw [withAttribute, holds_simple, Test.holds, Bool.and_eq_true, List.any_eq_true]
  simp [ValueTest.accepts]

end

/-- An element with an attribute, both of the name. -/
def bearer (name : String) : List Event :=
  [.emptyTag ⟨name, [⟨name, ""⟩]⟩]

lemma tag_bearer (name : String) : (ofEvents (bearer name)).view.tag 1 = some name := rfl

lemma isElement_bearer (name : String) : (ofEvents (bearer name)).view.isElement 1 = true := rfl

lemma attributes_bearer (name : String) :
    (ofEvents (bearer name)).view.attributes 1 = [⟨name, ""⟩] := rfl

/-- **A name finds all that bears it just if its capital letters are ASCII**: the elements of that
tag but for the case of ASCII letters, and the elements with an attribute of that name. -/
theorem finds_bearers_iff (name : String) :
    ((∀ (N : Type) (_ : BEq N) (v : View N) (x : N) (own : String), v.tag x = some own →
      sameName own name = true → (tagged name).holds v x = true) ↔ CaseInAscii name) ∧
    ((∀ (N : Type) (_ : BEq N) (v : View N) (x : N), v.isElement x = true →
      (∃ a ∈ v.attributes x, a.isNamed name = true) →
        (withAttribute name .present).holds v x = true) ↔ CaseInAscii name) := by
  rw [← sameName_lowercase_iff]
  refine ⟨⟨fun h => ?_, fun h N _ v x own hx hown => ?_⟩,
    ⟨fun h => ?_, fun h N _ v x hx hown => ?_⟩⟩
  · have hself := h NodeId inferInstance _ 1 name (tag_bearer name) (sameName_refl name)
    rw [holds_tagged, tag_bearer] at hself
    obtain ⟨own, ⟨⟩, hsame⟩ := hself
    exact hsame
  · exact (holds_tagged v name x).mpr ⟨own, hx, sameName_trans hown h⟩
  · have hself := h NodeId inferInstance _ 1 (isElement_bearer name)
      ⟨⟨name, ""⟩, by rw [attributes_bearer]; exact List.mem_singleton_self _, sameName_refl name⟩
    rw [holds_withAttribute_present, attributes_bearer] at hself
    obtain ⟨_, a, ha, hsame⟩ := hself
    rw [List.mem_singleton.mp ha] at hsame
    exact hsame
  · obtain ⟨a, ha, hsame⟩ := hown
    exact (holds_withAttribute_present v name x).mpr ⟨hx, a, ha, sameName_trans hsame h⟩

/-- An element of one capital letter that is not ASCII, with an attribute of the same name, is found
neither by its tag nor by its attribute. -/
theorem finds_no_bearer_of_capital :
    (ofEvents (bearer "É")).view.tag 1 = some "É" ∧ sameName "É" "É" = true ∧
    (tagged "É").holds (ofEvents (bearer "É")).view 1 = false ∧
    (ofEvents (bearer "É")).view.isElement 1 = true ∧
    (∃ a ∈ (ofEvents (bearer "É")).view.attributes 1, a.isNamed "É" = true) ∧
    (withAttribute "É" .present).holds (ofEvents (bearer "É")).view 1 = false := by
  refine ⟨rfl, sameName_refl _, by decide +kernel, rfl, ⟨⟨"É", ""⟩, ?_, sameName_refl _⟩,
    by decide +kernel⟩
  rw [attributes_bearer]
  exact List.mem_singleton_self _

end Selector

end MarkupQuery
