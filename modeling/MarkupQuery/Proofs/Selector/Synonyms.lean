import Mathlib
import MarkupQuery.Proofs.Selector.Position
import MarkupQuery.Proofs.Tree.Attributes
import MarkupQuery.Query.Compile

/-!
Several ways to ask for the same.

* An element is alone among its peers just if it is the first and the last of them
  (`Linked.isOnly_iff`), so there are two ways to ask for such elements (`holds_onlyChild_iff`).
* A selector by attribute asks any attribute of the name, and the look-up takes the first. They
  agree on whether there is one, and where no two names are the same they agree on its value
  (`holds_withAttribute_iff`).
* Hence controls and links are asked for by their attributes with the same outcome
  (`synonymous_disabled`, `synonymous_enabled`, `synonymous_link`). `lookUps_agree` puts together
  all that is said of attributes.
-/

namespace MarkupQuery

open MarkupQuery.Tree

/-- Both queries are accepted, whatever patterns are, and match the same nodes of the tree. -/
def Query.Synonymous (t : Tree) (q r : String) : Prop :=
  ∀ engine, ∃ a b, compileWith engine q = .ok a ∧ compileWith engine r = .ok b ∧
    ∀ x, a.holds t.view x = b.holds t.view x

open Query

/-! ### Alone among peers -/

namespace Tree.Linked

variable {t : Tree} {x : NodeId} {ofType : Bool}

/-- An element that is alone among its peers has the number one from both ends, and no other has. -/
lemma isOnly_iff (h : t.Linked) :
    t.view.isOnly ofType x = true ↔
      t.view.rank? false ofType x = some 1 ∧ t.view.rank? true ofType x = some 1 := by
  by_cases hx : t.view.isElement x = true
  · cases hp : t.view.parent x with
    | none =>
        rw [View.isOnly_eq, View.peers_of_no_parent hp, View.rank?_eq_none_of_parent hp]
        simp
    | some p =>
        obtain ⟨i, hi, _, hrank⟩ := h.exists_index hx hp ofType
        rw [View.isOnly_eq, hx, Bool.true_and, beq_iff_eq, hrank, hrank, Option.some_inj,
          Option.some_inj, if_neg Bool.false_ne_true, if_pos rfl]
        omega
  · rw [Bool.not_eq_true] at hx
    rw [View.isOnly_eq, hx, View.rank?_eq_none_of_not_isElement hx]
    simp

end Tree.Linked

namespace Selector

variable {t : Tree} {x : NodeId} {ofType : Bool}

/-- The formula of the first position picks out the number one alone. -/
lemma holds_nthChild_first (h : t.Linked) (hsize : t.size ≤ 2 ^ 64) {last : Bool} :
    (nthChild .first last ofType).holds t.view x = true ↔
      t.view.rank? last ofType x = some 1 := by
  rw [holds_nthChild h]
  constructor
  · rintro ⟨rank, hrank, hpicked⟩
    have hbounds := h.rank_bounds hrank
    have hone : rank = 1 :=
      ofNat_injOn (by omega) (by omega) (Formula.picks_constant.mp hpicked)
    rw [hrank, hone]
  · exact fun hone => ⟨1, hone, by decide⟩

/-- **An element is alone among its peers just if it is the first of them and the last**, whether
they are all elements beside it or those of its own type. So queries may ask for it in two ways.

Elements are counted in words of 64 bits, so among more than `2 ^ 64` peers another one would have
the number one again. The bound on the size is there for this. It leaves out no tree that can be
stored, since a node is named by a word of 64 bits too. -/
theorem holds_onlyChild_iff (ht : t.Reachable) :
    (∀ (x : NodeId) (ofType : Bool), (onlyChild ofType).holds t.view x = true ↔
      t.view.rank? false ofType x = some 1 ∧ t.view.rank? true ofType x = some 1) ∧
    (t.size ≤ 2 ^ 64 →
      (∀ (x : NodeId) (ofType : Bool), (onlyChild ofType).holds t.view x = true ↔
        (nthChild .first false ofType).holds t.view x = true ∧
          (nthChild .first true ofType).holds t.view x = true) ∧
      Synonymous t ":only-child" ":first-child:last-child" ∧
      Synonymous t ":only-of-type" ":first-of-type:last-of-type") := by
  have h := ht.linked
  refine ⟨fun x ofType => h.isOnly_iff, fun hsize => ?_⟩
  have hiff : ∀ (x : NodeId) (ofType : Bool), (onlyChild ofType).holds t.view x = true ↔
      (nthChild .first false ofType).holds t.view x = true ∧
        (nthChild .first true ofType).holds t.view x = true := fun x ofType => by
    rw [holds_nthChild_first h hsize, holds_nthChild_first h hsize]
    exact h.isOnly_iff
  have hjoined : ∀ (ofType : Bool) (x : NodeId), (onlyChild ofType).holds t.view x =
      ((nthChild .first false ofType).inter (nthChild .first true ofType)).holds t.view x :=
    fun ofType x => by rw [Bool.eq_iff_iff, hiff, holds_inter, Bool.and_eq_true]
  refine ⟨hiff, fun engine => ⟨onlyChild false, _, by cbv, ?_, hjoined false⟩,
    fun engine => ⟨onlyChild true, _, by cbv, ?_, hjoined true⟩⟩
  · cbv
  · cbv

/-- The paragraph between two items is alone among its type, and it is no item. -/
theorem holds_onlyChild_mixedList :
    (ofEvents mixedList).Reachable ∧ (ofEvents mixedList).size ≤ 2 ^ 64 ∧
    (onlyChild true).holds (ofEvents mixedList).view 4 = true ∧
    (nthChild .first false true).holds (ofEvents mixedList).view 4 = true ∧
    (nthChild .first true true).holds (ofEvents mixedList).view 4 = true ∧
    Synonymous (ofEvents mixedList) ":only-of-type" ":first-of-type:last-of-type" := by
  have hsize : (ofEvents mixedList).size ≤ 2 ^ 64 := by decide
  have honly : (onlyChild true).holds (ofEvents mixedList).view 4 = true := by cbv
  obtain ⟨hiff, _, hqueries⟩ := (holds_onlyChild_iff (reachable_ofEvents mixedList)).2 hsize
  obtain ⟨hfirst, hlast⟩ := (hiff 4 true).mp honly
  exact ⟨reachable_ofEvents mixedList, hsize, honly, hfirst, hlast, hqueries⟩

example : (onlyChild false).holds (ofEvents mixedList).view 4 = false := by cbv

/-! ### Attributes -/

/-- A name of ASCII characters is not told from its small form. -/
lemma sameName_lowercase_of_ascii {name : String} (h : ∀ c ∈ name.toList, c.toNat < 128)
    (own : String) : sameName own (lowercase name) = sameName own name := by
  have hkept : sameName name (lowercase name) = true :=
    sameName_lowercase_iff.mpr fun c hc hc' => absurd (h c hc) (Nat.not_lt_of_le hc')
  rw [sameName, sameName, ← sameName_iff.mp hkept]

/-- A selector by attribute asks any attribute of the name. -/
lemma holds_withAttribute_iff {name : String} (h : ∀ c ∈ name.toList, c.toNat < 128)
    {test : ValueTest} :
    (withAttribute name test).holds t.view x = true ↔
      ∃ a ∈ t.view.attributes x, a.isNamed name = true ∧ test.accepts a.value = true := by
  have hnamed : ∀ a : Attribute, a.isNamed (lowercase name) = a.isNamed name :=
    fun a => sameName_lowercase_of_ascii h a.name
  rw [withAttribute, holds_simple, Test.holds, Bool.and_eq_true, List.any_eq_true]
  simp only [hnamed, Bool.and_eq_true]
  constructor
  · exact And.right
  · rintro ⟨a, ha, hany⟩
    exact ⟨isElement_of_mem_attributes ha, a, ha, hany⟩

/-- There is an attribute of the name just if the look-up finds one. -/
lemma holds_withAttribute_present_eq {name : String} (h : ∀ c ∈ name.toList, c.toNat < 128) :
    (withAttribute name .present).holds t.view x = t.view.has name x := by
  rw [Bool.eq_iff_iff, holds_withAttribute_iff h, View.has, valueOf_eq, Attribute.isSome_valueOf?]
  simp [ValueTest.accepts]

/-- A value that is looked up is the value of an attribute that a selector asks. -/
lemma holds_withAttribute_of_valueOf {name value : String} (h : ∀ c ∈ name.toList, c.toNat < 128)
    {test : ValueTest} (hvalue : t.view.valueOf x name = some value)
    (htest : test.accepts value = true) : (withAttribute name test).holds t.view x = true := by
  rw [valueOf_eq] at hvalue
  obtain ⟨a, ha, hnamed, rfl⟩ := Attribute.exists_of_valueOf? hvalue
  exact (holds_withAttribute_iff h).mpr ⟨a, ha, hnamed, htest⟩

/-- Where no two names are the same, the attribute that passes the test is the one that is looked
up. -/
lemma exists_valueOf_of_holds {name : String} (h : ∀ c ∈ name.toList, c.toNat < 128)
    {test : ValueTest} (hdiffer : Attribute.NamesDiffer (t.view.attributes x))
    (hholds : (withAttribute name test).holds t.view x = true) :
    ∃ value, t.view.valueOf x name = some value ∧ test.accepts value = true := by
  obtain ⟨a, ha, hnamed, htest⟩ := (holds_withAttribute_iff h).mp hholds
  exact ⟨a.value, by rw [valueOf_eq, Attribute.valueOf?_of_mem hdiffer ha hnamed], htest⟩

/-! ### Controls and links -/

lemma synonymous_disabled (t : Tree) : Synonymous t ":disabled" ":input[disabled]" := by
  refine fun engine => ⟨simple .disabled,
    (simple .input).inter (withAttribute "disabled" .present), by cbv, by cbv, fun x => ?_⟩
  rw [holds_inter, holds_withAttribute_present_eq (by simp)]
  rfl

lemma synonymous_enabled (t : Tree) : Synonymous t ":enabled" ":input:not([disabled])" := by
  refine fun engine => ⟨simple .enabled,
    (simple .input).inter (.not (withAttribute "disabled" .present)), by cbv, by cbv, fun x => ?_⟩
  rw [holds_inter, holds_not, holds_withAttribute_present_eq (by simp)]
  rfl

/-- A tag is one of those listed just if the selector of one of them matches. -/
lemma hasTagIn_eq {N : Type} [BEq N] (v : View N) (tags : List String) (x : N) :
    v.hasTagIn tags x = tags.any fun name => (simple (.tag name)).holds v x := by
  simp only [View.hasTagIn, holds_simple, Test.holds]
  cases v.tag x with
  | none => simp
  | some own => rfl

lemma synonymous_link (t : Tree) : Synonymous t ":link" "a[href], area[href]" := by
  refine fun engine => ⟨simple .link,
    (inter (simple (.tag "a")) (withAttribute "href" .present)).union
      (inter (simple (.tag "area")) (withAttribute "href" .present)), by cbv, by cbv, fun x => ?_⟩
  rw [holds_union, holds_inter, holds_inter, holds_withAttribute_present_eq (by simp),
    ← Bool.and_or_distrib_right, holds_simple, Test.holds, hasTagIn_eq]
  simp [View.linkTags]

/-- Each control is either disabled or not. -/
lemma holds_input_eq (t : Tree) (x : NodeId) :
    (simple .input).holds t.view x =
        ((simple .enabled).holds t.view x || (simple .disabled).holds t.view x) ∧
      ((simple .enabled).holds t.view x && (simple .disabled).holds t.view x) = false := by
  simp only [holds_simple, Test.holds]
  cases t.view.has "disabled" x <;> simp

/-- **Attributes are found in one way.** An element looks them up among those that it lists, and a
selector by attribute finds what the look-up does: it matches an element with an attribute of the
name, and if the value that is looked up passes the test; the converse is true where no two
attributes have one name. Controls that are disabled, those that are not, and links can be asked for
by their attributes, and each control is either disabled or not. -/
theorem lookUps_agree (t : Tree) (x : NodeId) :
    (∀ name, t.view.valueOf x name = t.view.plain.valueOf x name) ∧
    (∀ name : String, (∀ c ∈ name.toList, c.toNat < 128) →
      ((withAttribute name .present).holds t.view x = true ↔
        (t.view.valueOf x name).isSome = true) ∧
      ∀ test : ValueTest,
        (∀ value, t.view.valueOf x name = some value → test.accepts value = true →
          (withAttribute name test).holds t.view x = true) ∧
        (Attribute.NamesDiffer (t.view.attributes x) →
          (withAttribute name test).holds t.view x = true →
            ∃ value, t.view.valueOf x name = some value ∧ test.accepts value = true)) ∧
    Synonymous t ":disabled" ":input[disabled]" ∧
    Synonymous t ":enabled" ":input:not([disabled])" ∧
    Synonymous t ":link" "a[href], area[href]" ∧
    (simple .input).holds t.view x =
      ((simple .enabled).holds t.view x || (simple .disabled).holds t.view x) ∧
    ((simple .enabled).holds t.view x && (simple .disabled).holds t.view x) = false := by
  obtain ⟨hsplit, hapart⟩ := holds_input_eq t x
  refine ⟨valueOf_eq t x, fun name hname => ⟨?_, fun test => ⟨fun value => ?_, ?_⟩⟩,
    synonymous_disabled t, synonymous_enabled t, synonymous_link t, hsplit, hapart⟩
  · rw [holds_withAttribute_present_eq hname, View.has]
  · exact holds_withAttribute_of_valueOf hname
  · exact exists_valueOf_of_holds hname

/-- A control with two classes, its names in capital letters. -/
def control : List Event :=
  [.emptyTag ⟨"INPUT", [⟨"Class", "a b"⟩, ⟨"DISABLED", ""⟩]⟩]

theorem lookUps_agree_control :
    (∀ c ∈ "CLASS".toList, c.toNat < 128) ∧
    (ofEvents control).view.valueOf 1 "CLASS" = some "a b" ∧
    (ValueTest.includes "b").accepts "a b" = true ∧
    Attribute.NamesDiffer ((ofEvents control).view.attributes 1) ∧
    (withAttribute "CLASS" (.includes "b")).holds (ofEvents control).view 1 = true ∧
    ∃ value, (ofEvents control).view.valueOf 1 "CLASS" = some value ∧
      (ValueTest.includes "b").accepts value = true := by
  have hname : ∀ c ∈ "CLASS".toList, c.toNat < 128 := by simp
  have hvalue : (ofEvents control).view.valueOf 1 "CLASS" = some "a b" := by cbv
  have htest : (ValueTest.includes "b").accepts "a b" = true := by cbv
  have hdiffer : Attribute.NamesDiffer ((ofEvents control).view.attributes 1) := by decide +kernel
  obtain ⟨hfound, hback⟩ :=
    ((lookUps_agree (ofEvents control) 1).2.1 "CLASS" hname).2 (.includes "b")
  have hholds := hfound "a b" hvalue htest
  exact ⟨hname, hvalue, htest, hdiffer, hholds, hback hdiffer hholds⟩

/-- Of two attributes of one name the look-up takes the first, and a selector asks both. -/
example :
    (ofEvents [.emptyTag ⟨"p", [⟨"class", "a"⟩, ⟨"CLASS", "b"⟩]⟩]).view.valueOf 1 "class" = some "a" ∧
    (withAttribute "class" (.equals "b")).holds
      (ofEvents [.emptyTag ⟨"p", [⟨"class", "a"⟩, ⟨"CLASS", "b"⟩]⟩]).view 1 = true := by
  decide +kernel

end Selector

end MarkupQuery
