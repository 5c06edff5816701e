import MarkupQuery.Proofs.Selector.Shape

/-!
The patterns that a selector asks for.

A value may hold patterns (`Patterned`): `patterns` lists them in the order in which they are
written, and `mapPatterns` puts others in their places.

* `mapPatterns_inter`, `mapPatterns_union`, `patterns_inter`, `patterns_union`: conjunctions and
  disjunctions leave every pattern at its place. `mapPatterns_foldl` and `patterns_foldl` follow
  this through a selector that grows by one part after the other.
* `patterns_mapPatterns`, `patterns_eq_nil_iff`, `mapPatterns_eq_self`: what is listed after others
  were put in, that nothing is listed where there are no patterns, and that a selector stays as it
  is where each pattern does.
* `same_mapPatterns`: selectors that differ in their patterns alone are the same, as long as the
  sources are. So every selector is the same as itself (`same_self`).
-/

namespace MarkupQuery

/-- Values that hold patterns. -/
class Patterned (α : Type) where
  /-- The value with other patterns in the places of its own. -/
  mapPatterns : (Pattern → Pattern) → α → α
  /-- Its patterns, in the order in which they are written. -/
  patterns : α → List Pattern

/-- The test with another pattern in the place of its own. -/
def ValueTest.mapPatterns (f : Pattern → Pattern) : ValueTest → ValueTest
  | pattern p => pattern (f p)
  | value => value

/-- The pattern of the test, if it has one. -/
def ValueTest.patterns : ValueTest → List Pattern
  | pattern p => [p]
  | _ => []

/-- The test with another pattern in the place of its own. -/
def Test.mapPatterns (f : Pattern → Pattern) : Test → Test
  | hasAttribute name value => hasAttribute name (value.mapPatterns f)
  | textMatches p own => textMatches (f p) own
  | test => test

/-- The pattern of the test, if it has one. -/
def Test.patterns : Test → List Pattern
  | hasAttribute _ value => value.patterns
  | textMatches p _ => [p]
  | _ => []

namespace Selector

mutual

/-- The selector with other patterns in the places of its own. -/
def mapPatterns (f : Pattern → Pattern) : Selector → Selector
  | universal => universal
  | simple test => simple (test.mapPatterns f)
  | not inner => not (inner.mapPatterns f)
  | has inner => has (inner.mapPatterns f)
  | hasChild inner => hasChild (inner.mapPatterns f)
  | all members => all (mapAllPatterns f members)
  | any members => any (mapAllPatterns f members)
  | complex relation left right => complex relation (left.mapPatterns f) (right.mapPatterns f)

/-- The selectors with other patterns in the places of theirs. -/
def mapAllPatterns (f : Pattern → Pattern) : List Selector → List Selector
  | [] => []
  | s :: rest => s.mapPatterns f :: mapAllPatterns f rest

end

mutual

/-- The patterns of the selector, in the order in which they are written. -/
def patterns : Selector → List Pattern
  | universal => []
  | simple test => test.patterns
  | not inner => inner.patterns
  | has inner => inner.patterns
  | hasChild inner => inner.patterns
  | all members => allPatterns members
  | any members => allPatterns members
  | complex _ left right => left.patterns ++ right.patterns

/-- The patterns of the selectors, in the order in which they are written. -/
def allPatterns : List Selector → List Pattern
  | [] => []
  | s :: rest => s.patterns ++ allPatterns rest

end

end Selector

instance : Patterned Pattern := ⟨fun f p => f p, fun p => [p]⟩

instance : Patterned ValueTest := ⟨ValueTest.mapPatterns, ValueTest.patterns⟩

instance : Patterned Selector := ⟨Selector.mapPatterns, Selector.patterns⟩

instance {κ α : Type} [Patterned α] : Patterned (κ × α) :=
  ⟨fun f p => (p.1, Patterned.mapPatterns f p.2), fun p => Patterned.patterns p.2⟩

instance {α : Type} [Patterned α] : Patterned (List α) :=
  ⟨fun f l => l.map (Patterned.mapPatterns f), fun l => l.flatMap Patterned.patterns⟩

namespace Selector

variable (f g : Pattern → Pattern)

/-! ### Growing selectors -/

lemma mapAllPatterns_eq (ss : List Selector) : mapAllPatterns f ss = ss.map (mapPatterns f) := by
  induction ss with
  | nil => rfl
  | cons s ss ih => rw [mapAllPatterns, ih, List.map_cons]

lemma allPatterns_eq (ss : List Selector) : allPatterns ss = ss.flatMap patterns := by
  induction ss with
  | nil => rfl
  | cons s ss ih => rw [allPatterns, ih, List.flatMap_cons]

lemma conjuncts_mapPatterns (s : Selector) :
    (s.mapPatterns f).conjuncts = s.conjuncts.map (mapPatterns f) := by
  cases s with
  | all members => exact mapAllPatterns_eq f members
  | _ => rfl

lemma patterns_eq_conjuncts (s : Selector) : s.patterns = s.conjuncts.flatMap patterns := by
  cases s with
  | universal => rfl
  | all members => exact allPatterns_eq members
  | _ => exact (List.flatMap_singleton _ _).symm

lemma mapPatterns_ne_universal {s : Selector} (hs : s ≠ universal) :
    s.mapPatterns f ≠ universal := by
  cases s with
  | universal => exact absurd rfl hs
  | _ => nofun

lemma mapPatterns_inter (a b : Selector) :
    (a.inter b).mapPatterns f = (a.mapPatterns f).inter (b.mapPatterns f) := by
  by_cases ha : a = universal
  · rw [ha, universal_inter, mapPatterns, universal_inter]
  by_cases hb : b = universal
  · rw [hb, inter_universal, mapPatterns, inter_universal]
  rw [inter_of_ne_universal ha hb, inter_of_ne_universal (mapPatterns_ne_universal f ha)
    (mapPatterns_ne_universal f hb), mapPatterns, mapAllPatterns_eq, List.map_append,
    conjuncts_mapPatterns, conjuncts_mapPatterns]

lemma mapPatterns_union (a b : Selector) :
    (a.union b).mapPatterns f = (a.mapPatterns f).union (b.mapPatterns f) := by
  cases a <;> cases b <;> simp [union, mapPatterns, mapAllPatterns_eq]

lemma patterns_inter (a b : Selector) : (a.inter b).patterns = a.patterns ++ b.patterns := by
  rw [patterns_eq_conjuncts, conjuncts_inter, List.flatMap_append, ← patterns_eq_conjuncts,
    ← patterns_eq_conjuncts]

lemma patterns_union (a b : Selector) : (a.union b).patterns = a.patterns ++ b.patterns := by
  unfold union
  split <;> simp [patterns, allPatterns_eq]

section

variable {β : Type} [Patterned β] {grow : Selector → β → Selector}

/-- A selector that grows by parts takes their patterns as they are. -/
lemma mapPatterns_foldl
    (h : ∀ a b, (grow a b).mapPatterns f = grow (a.mapPatterns f) (Patterned.mapPatterns f b))
    (parts : List β) (a : Selector) :
    (parts.foldl grow a).mapPatterns f
      = (Patterned.mapPatterns f parts).foldl grow (a.mapPatterns f) := by
  induction parts generalizing a with
  | nil => rfl
  | cons b parts ih =>
      rw [List.foldl_cons, ih, h]
      rfl

/-- A selector that grows by parts puts their patterns behind those it has. -/
lemma patterns_foldl (h : ∀ a b, (grow a b).patterns = a.patterns ++ Patterned.patterns b)
    (parts : List β) (a : Selector) :
    (parts.foldl grow a).patterns = a.patterns ++ Patterned.patterns parts := by
  induction parts generalizing a with
  | nil => exact (List.append_nil _).symm
  | cons b parts ih =>
      rw [List.foldl_cons, ih, h, List.append_assoc]
      rfl

end

lemma mapPatterns_chain (first : Selector) (links : List (Combinator × Selector)) :
    (chain first links).mapPatterns f
      = chain (first.mapPatterns f) (Patterned.mapPatterns f links) := by
  have hlink : ∀ a (l : Combinator × Selector), (complex l.1 a l.2).mapPatterns f
      = complex l.1 (a.mapPatterns f) (Patterned.mapPatterns f l).2 := fun _ _ => rfl
  exact mapPatterns_foldl f hlink links first

lemma patterns_chain (first : Selector) (links : List (Combinator × Selector)) :
    (chain first links).patterns = first.patterns ++ Patterned.patterns links := by
  have hlink : ∀ a (l : Combinator × Selector),
      (complex l.1 a l.2).patterns = a.patterns ++ Patterned.patterns l := fun _ _ => rfl
  exact patterns_foldl hlink links first

/-! ### Selectors that differ in their patterns -/

variable {f g}

lemma same_mapPatterns_value (hf : ∀ p, (f p).source = p.source)
    (hg : ∀ p, (g p).source = p.source) (value : ValueTest) :
    (value.mapPatterns f).same (value.mapPatterns g) = true := by
  cases value with
  | pattern p => exact Pattern.beq_iff.mpr ((hf p).trans (hg p).symm)
  | present => rfl
  | _ operand => exact beq_self_eq_true operand

lemma same_mapPatterns_test (hf : ∀ p, (f p).source = p.source)
    (hg : ∀ p, (g p).source = p.source) (test : Test) :
    (test.mapPatterns f).same (test.mapPatterns g) = true := by
  cases test with
  | hasAttribute name value =>
      exact Bool.and_eq_true_iff.mpr
        ⟨beq_self_eq_true name, same_mapPatterns_value hf hg value⟩
  | textMatches p own =>
      exact Bool.and_eq_true_iff.mpr
        ⟨Pattern.beq_iff.mpr ((hf p).trans (hg p).symm), beq_self_eq_true own⟩
  | _ => simp [Test.mapPatterns, Test.same]

/-- Selectors that differ in what became of their patterns are the same. -/
lemma same_mapPatterns (hf : ∀ p, (f p).source = p.source) (hg : ∀ p, (g p).source = p.source)
    (s : Selector) : (s.mapPatterns f).same (s.mapPatterns g) = true := by
  have hmembers : ∀ members : List Selector,
      (∀ s ∈ members, (s.mapPatterns f).same (s.mapPatterns g) = true) →
      sameMembers (mapAllPatterns f members) (mapAllPatterns g members) = true := by
    intro members h
    induction members with
    | nil => rfl
    | cons s members ih =>
        exact Bool.and_eq_true_iff.mpr ⟨h s List.mem_cons_self,
          ih fun t ht => h t (List.mem_cons_of_mem s ht)⟩
  induction s using Selector.ind with
  | universal => rfl
  | simple test => exact same_mapPatterns_test hf hg test
  | not inner ih => exact ih
  | has inner ih => exact ih
  | hasChild inner ih => exact ih
  | all members ih => exact hmembers members ih
  | any members ih => exact hmembers members ih
  | complex relation left right ihl ihr => simp [mapPatterns, same, ihl, ihr]

/-- What becomes of other patterns is of no account. -/
lemma mapPatterns_eq_self {s : Selector} (h : ∀ p ∈ s.patterns, f p = p) :
    s.mapPatterns f = s := by
  have hmembers : ∀ members : List Selector, (∀ p ∈ allPatterns members, f p = p) →
      (∀ s ∈ members, (∀ p ∈ s.patterns, f p = p) → s.mapPatterns f = s) →
      mapAllPatterns f members = members := by
    intro members hkeep hself
    have hid : ∀ s ∈ members, s.mapPatterns f = id s := by
      refine fun s hs => hself s hs fun p hp => hkeep p ?_
      rw [allPatterns_eq]
      exact List.mem_flatMap.mpr ⟨s, hs, hp⟩
    rw [mapAllPatterns_eq, List.map_congr_left hid, List.map_id]
  induction s using Selector.ind with
  | universal => rfl
  | simple test =>
      cases test with
      | hasAttribute name value =>
          cases value with
          | pattern p =>
              have hp : f p = p := h p (List.mem_singleton_self p)
              rw [mapPatterns, Test.mapPatterns, ValueTest.mapPatterns, hp]
          | _ => rfl
      | textMatches p own =>
          have hp : f p = p := h p (List.mem_singleton_self p)
          rw [mapPatterns, Test.mapPatterns, hp]
      | _ => rfl
  | not inner ih => exact congrArg Selector.not (ih h)
  | has inner ih => exact congrArg Selector.has (ih h)
  | hasChild inner ih => exact congrArg Selector.hasChild (ih h)
  | all members ih => exact congrArg Selector.all (hmembers members h ih)
  | any members ih => exact congrArg Selector.any (hmembers members h ih)
  | complex relation left right ihl ihr =>
      rw [patterns, List.forall_mem_append] at h
      rw [mapPatterns, ihl h.1, ihr h.2]

/-- Every selector is the same as itself. -/
lemma same_self (s : Selector) : s.same s = true := by
  have h := same_mapPatterns (f := id) (g := id) (fun _ => rfl) (fun _ => rfl) s
  rwa [mapPatterns_eq_self (f := id) fun _ _ => rfl] at h

lemma patterns_eq_nil_iff (s : Selector) : s.patterns = [] ↔ s.patternFree = true := by
  have hmembers : ∀ members : List Selector,
      (∀ s ∈ members, s.patterns = [] ↔ s.patternFree = true) →
      (allPatterns members = [] ↔ allPatternFree members = true) := by
    intro members h
    rw [allPatterns_eq, List.flatMap_eq_nil_iff, allPatternFree_iff]
    exact forall₂_congr h
  induction s using Selector.ind with
  | universal => exact iff_of_true rfl rfl
  | simple test =>
      cases test with
      | hasAttribute name value =>
          cases value with
          | pattern p => exact iff_of_false (List.cons_ne_nil _ _) Bool.false_ne_true
          | _ => exact iff_of_true rfl rfl
      | textMatches p own => exact iff_of_false (List.cons_ne_nil _ _) Bool.false_ne_true
      | _ => exact iff_of_true rfl rfl
  | not inner ih => exact ih
  | has inner ih => exact ih
  | hasChild inner ih => exact ih
  | all members ih => exact hmembers members ih
  | any members ih => exact hmembers members ih
  | complex relation left right ihl ihr =>
      rw [patterns, patternFree, List.append_eq_nil_iff, Bool.and_eq_true_iff]
      exact and_congr ihl ihr

lemma mapPatterns_of_patternFree {s : Selector} (h : s.patternFree = true) :
    s.mapPatterns f = s := by
  refine mapPatterns_eq_self fun p hp => ?_
  rw [(patterns_eq_nil_iff s).mpr h] at hp
  cases hp

/-- The patterns put in are those of the selector, one by one. -/
lemma patterns_mapPatterns (s : Selector) : (s.mapPatterns f).patterns = s.patterns.map f := by
  have hmembers : ∀ members : List Selector,
      (∀ s ∈ members, (s.mapPatterns f).patterns = s.patterns.map f) →
      allPatterns (mapAllPatterns f members) = (allPatterns members).map f := by
    intro members h
    rw [mapAllPatterns_eq, allPatterns_eq, allPatterns_eq, List.flatMap_map, List.map_flatMap]
    exact List.flatMap_congr h
  induction s using Selector.ind with
  | universal => rfl
  | simple test =>
      cases test with
      | hasAttribute name value =>
          cases value with
          | pattern p => rfl
          | _ => rfl
      | textMatches p own => rfl
      | _ => rfl
  | not inner ih => exact ih
  | has inner ih => exact ih
  | hasChild inner ih => exact ih
  | all members ih => exact hmembers members ih
  | any members ih => exact hmembers members ih
  | complex relation left right ihl ihr =>
      rw [mapPatterns, patterns, ihl, ihr, patterns, List.map_append]

end Selector

end MarkupQuery
