import Mathlib.Tactic
import MarkupQuery.Proofs.Selector.Patterns
import MarkupQuery.Selector.Outline

/-!
What the outline of a selector tells of it.

Of a pattern the outline keeps the source and leaves the test out, and nothing else is lost. Whether
two outlines hold the same data is for `Outline.agrees` to say, which looks fields up by their
labels, so that their order is of no account.

* `Outline.agrees_labelled`: constructions agree just if they have the same label and their parts
  agree. Every construction of a selector has a label of its own, and so outlines agree just where
  the selectors are the same (`Selector.agrees_outline`);
* `Selector.bare`: the selector with patterns that are nothing but their sources. Selectors are the
  same just if their bare forms are equal (`Selector.same_iff_bare_eq`), and a selector and its bare
  form have one outline (`Selector.outline_bare`);
* `Selector.outline_determines`: so the outline determines the selector up to the tests of its
  patterns, to a reader that minds the order of fields and to one that does not.
-/

namespace MarkupQuery

/-! ### Outlines that hold the same data -/

namespace Outline

mutual

/-- Whether two outlines hold the same data, the order of fields being of no account. The labels of
an outline are taken to differ. -/
def agrees : Outline → Outline → Bool
  | .text a, .text b => a == b
  | .number m, .number n => m == n
  | .flag a, .flag b => a == b
  | .items as, .items bs => agreeAll as bs
  | .fields ps, .fields qs => ps.length == qs.length && agreesIn qs ps
  | _, _ => false

/-- Whether two lists hold the same data in the same order. -/
def agreeAll : List Outline → List Outline → Bool
  | [], [] => true
  | a :: as, b :: bs => a.agrees b && agreeAll as bs
  | _, _ => false

/-- Whether each of the fields is among the given ones, with a part that holds the same data. -/
def agreesIn (given : List (String × Outline)) : List (String × Outline) → Bool
  | [] => true
  | (label, part) :: rest => (given.lookup label).any part.agrees && agreesIn given rest

end

variable {a b : String} {o p : Outline}

@[simp] lemma agrees_text : (text a).agrees (text b) = (a == b) := by
  rw [agrees]

@[simp] lemma agrees_number {m n : ℤ} : (number m).agrees (number n) = (m == n) := by
  rw [agrees]

@[simp] lemma agrees_flag {a b : Bool} : (flag a).agrees (flag b) = (a == b) := by
  rw [agrees]

@[simp] lemma agrees_items {as bs : List Outline} :
    (items as).agrees (items bs) = agreeAll as bs := by
  rw [agrees]

@[simp] lemma agrees_fields {ps qs : List (String × Outline)} :
    (fields ps).agrees (fields qs) = (ps.length == qs.length && agreesIn qs ps) := by
  rw [agrees]

example : (fields [("a", .number 2), ("b", .number 1)]).agrees
    (fields [("b", .number 1), ("a", .number 2)]) = true := by decide

/-- Constructions agree just if they have the same label and their parts agree. -/
@[simp] lemma agrees_labelled :
    (labelled a o).agrees (labelled b p) = (a == b && o.agrees p) := by
  cases h : a == b <;> simp [labelled, agreesIn, List.lookup_cons, h]

@[simp] lemma agrees_text_labelled : (text a).agrees (labelled b p) = false := rfl

@[simp] lemma agrees_labelled_text : (labelled a o).agrees (text b) = false := rfl

end Outline

open Outline

/-! ### The parts of selectors -/

lemma Pattern.beq_eq (p q : Pattern) : (p == q) = (p.source == q.source) := rfl

lemma ValueTest.beq_eq (s t : ValueTest) : (s == t) = s.same t := rfl

lemma Test.beq_eq (s t : Test) : (s == t) = s.same t := rfl

lemma Formula.agrees_outline (f g : Formula) : f.outline.agrees g.outline = (f == g) := by
  rcases f with ⟨a, b⟩
  rcases g with ⟨c, d⟩
  rw [Bool.eq_iff_iff]
  simp [Formula.outline, agreesIn, List.lookup_cons, Int64.toInt_inj]

lemma Combinator.agrees_outline (c d : Combinator) : c.outline.agrees d.outline = (c == d) := by
  cases c <;> cases d <;> rfl

lemma ValueTest.agrees_outline (s t : ValueTest) : s.outline.agrees t.outline = s.same t := by
  cases s <;> cases t <;> simp [ValueTest.outline, ValueTest.same, Pattern.beq_eq]

lemma Test.agrees_outline (s t : Test) : s.outline.agrees t.outline = s.same t := by
  cases s <;> cases t <;>
    simp [Test.outline, Test.same, pseudoClass, agreesIn, List.lookup_cons, Bool.and_assoc,
      Formula.agrees_outline, ValueTest.agrees_outline, ValueTest.beq_eq, Pattern.beq_eq]

namespace Selector

/-! ### Selectors whose outlines agree -/

lemma agrees_outline_test (s : Selector) (test : Test) :
    s.outline.agrees test.outline = s.same (simple test) := by
  cases s with
  | simple own => exact own.agrees_outline test
  | _ => cases test <;> simp [outline, Test.outline, pseudoClass, same]

lemma test_agrees_outline (test : Test) (s : Selector) :
    test.outline.agrees s.outline = (simple test).same s := by
  cases s with
  | simple own => exact test.agrees_outline own
  | _ => cases test <;> simp [outline, Test.outline, pseudoClass, same]

lemma agreeAll_outlines {as bs : List Selector}
    (h : ∀ s ∈ as, ∀ t, s.outline.agrees t.outline = s.same t) :
    agreeAll (outlines as) (outlines bs) = sameMembers as bs := by
  induction as generalizing bs with
  | nil => cases bs <;> rfl
  | cons a as ih =>
      rw [List.forall_mem_cons] at h
      cases bs with
      | nil => rfl
      | cons b bs => rw [outlines, outlines, agreeAll, sameMembers, h.1, ih h.2]

/-- Outlines agree just where the selectors are the same. -/
lemma agrees_outline (s t : Selector) : s.outline.agrees t.outline = s.same t := by
  induction s using Selector.ind generalizing t with
  | universal =>
      cases t with
      | simple test => exact agrees_outline_test _ test
      | _ => simp [outline, pseudoClass, same]
  | simple test => exact test_agrees_outline test t
  | not inner ih | has inner ih | hasChild inner ih =>
      cases t with
      | simple test => exact agrees_outline_test _ test
      | _ => simp [outline, pseudoClass, same, ih]
  | all members ih | any members ih =>
      cases t with
      | simple test => exact agrees_outline_test _ test
      | _ => simp [outline, pseudoClass, same, agreeAll_outlines ih]
  | complex relation left right ihl ihr =>
      cases t with
      | simple test => exact agrees_outline_test _ test
      | complex other _ _ =>
          simp [outline, same, agreesIn, List.lookup_cons, Combinator.agrees_outline, ihl, ihr,
            Bool.and_assoc]
      | _ => simp [outline, pseudoClass, same]

end Selector

/-! ### Patterns that are only their sources -/

/-- The source of the pattern, as a pattern that matches nothing. -/
def Pattern.bare (p : Pattern) : Pattern :=
  ⟨p.source, fun _ => false⟩

lemma Pattern.bare_eq_iff {p q : Pattern} : p.bare = q.bare ↔ p.source = q.source := by
  simp [Pattern.bare]

lemma ValueTest.same_iff_bare_eq (s t : ValueTest) :
    s.same t = true ↔ s.mapPatterns Pattern.bare = t.mapPatterns Pattern.bare := by
  cases s <;> cases t <;>
    simp [ValueTest.same, ValueTest.mapPatterns, Pattern.beq_eq, Pattern.bare_eq_iff]

lemma Test.same_iff_bare_eq (s t : Test) :
    s.same t = true ↔ s.mapPatterns Pattern.bare = t.mapPatterns Pattern.bare := by
  cases s <;> cases t <;>
    simp [Test.same, Test.mapPatterns, ValueTest.beq_eq, ValueTest.same_iff_bare_eq, Pattern.beq_eq,
      Pattern.bare_eq_iff, and_assoc]

lemma ValueTest.outline_mapPatterns_bare (test : ValueTest) :
    (test.mapPatterns Pattern.bare).outline = test.outline := by
  cases test <;> rfl

lemma Test.outline_mapPatterns_bare (test : Test) :
    (test.mapPatterns Pattern.bare).outline = test.outline := by
  cases test with
  | hasAttribute name value =>
      rw [mapPatterns, outline, value.outline_mapPatterns_bare, outline]
  | _ => rfl

namespace Selector

/-- The selector with patterns that are only their sources. -/
def bare (s : Selector) : Selector :=
  s.mapPatterns Pattern.bare

lemma sameMembers_iff_bare_eq {as bs : List Selector}
    (h : ∀ s ∈ as, ∀ t, s.same t = true ↔ s.bare = t.bare) :
    sameMembers as bs = true ↔
      mapAllPatterns Pattern.bare as = mapAllPatterns Pattern.bare bs := by
  induction as generalizing bs with
  | nil => cases bs <;> simp [sameMembers, mapAllPatterns]
  | cons a as ih =>
      rw [List.forall_mem_cons] at h
      cases bs with
      | nil => simp [sameMembers, mapAllPatterns]
      | cons b bs =>
          rw [sameMembers, Bool.and_eq_true, h.1, ih h.2, mapAllPatterns, mapAllPatterns,
            List.cons.injEq, bare, bare]

/-- Selectors are the same just if their bare forms are equal. -/
lemma same_iff_bare_eq (s t : Selector) : s.same t = true ↔ s.bare = t.bare := by
  induction s using Selector.ind generalizing t with
  | universal => cases t <;> simp [same, bare, mapPatterns]
  | simple test => cases t <;> simp [same, bare, mapPatterns, Test.beq_eq, Test.same_iff_bare_eq]
  | not inner ih | has inner ih | hasChild inner ih =>
      cases t <;> simp [same, bare, mapPatterns, ih]
  | all members ih | any members ih =>
      cases t <;> simp [same, bare, mapPatterns, sameMembers_iff_bare_eq ih]
  | complex relation left right ihl ihr =>
      cases t <;> simp [same, bare, mapPatterns, ihl, ihr, and_assoc]

/-- The outline keeps nothing of a pattern but its source. -/
lemma outline_bare (s : Selector) : s.bare.outline = s.outline := by
  have hmembers : ∀ members : List Selector, (∀ s ∈ members, s.bare.outline = s.outline) →
      outlines (mapAllPatterns Pattern.bare members) = outlines members := by
    intro members h
    induction members with
    | nil => rfl
    | cons s members ih =>
        rw [List.forall_mem_cons] at h
        rw [mapAllPatterns, outlines, outlines, ih h.2, ← bare, h.1]
  induction s using Selector.ind with
  | universal => rfl
  | simple test => exact test.outline_mapPatterns_bare
  | not inner ih => exact congrArg (labelled "Not") ih
  | has inner ih => exact congrArg (fun o => pseudoClass (labelled "Has" o)) ih
  | hasChild inner ih => exact congrArg (fun o => pseudoClass (labelled "HasChild" o)) ih
  | all members ih => exact congrArg (fun os => labelled "And" (items os)) (hmembers members ih)
  | any members ih => exact congrArg (fun os => labelled "Or" (items os)) (hmembers members ih)
  | complex relation left right ihl ihr =>
      rw [bare] at ihl ihr ⊢
      rw [mapPatterns, outline, ihl, ihr, outline]

/-- **The outline determines the selector**, patterns being known by their sources: the outlines of
two selectors are equal, and agree even if the order of fields does not count, just if the selectors
are the same. That is to say that they differ at most in the tests of their patterns. -/
theorem outline_determines (s t : Selector) :
    (s.outline = t.outline ↔ (s == t) = true) ∧
    (s.outline.agrees t.outline = true ↔ (s == t) = true) ∧
    ((s == t) = true ↔ s.bare = t.bare) := by
  have hbare : (s == t) = true ↔ s.bare = t.bare := same_iff_bare_eq s t
  have hagrees : s.outline.agrees t.outline = (s == t) := agrees_outline s t
  refine ⟨⟨fun h => ?_, fun h => ?_⟩, by rw [hagrees], hbare⟩
  · rw [← hagrees, ← h, agrees_outline]
    exact same_self s
  · rw [← outline_bare s, hbare.mp h, outline_bare]

end Selector

end MarkupQuery
