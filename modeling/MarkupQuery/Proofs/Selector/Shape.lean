import Mathlib.Tactic
import MarkupQuery.Selector.Basic

/-!
The shape of selectors that are built step by step.

* `Selector.ind`: a property holds of every selector once it is inherited from the parts;
* `Selector.patternFree`: no pattern is asked for anywhere in a selector;
* `Selector.conjuncts`: the parts of a conjunction. Joining puts those of both sides together
  (`inter_of_ne_universal`, `conjuncts_inter`);
* `Selector.isCompound`: neither a disjunction nor a complex, which conjunctions keep
  (`isCompound_foldl_inter`);
* `Selector.members`: the parts of a disjunction. Alternatives that are no disjunctions themselves
  are put behind the parts there are (`members_foldl_union`, `foldl_union_cons`);
* `Selector.chain`: selectors joined by combinators, which make a complex unless there is only one
  (`chain_cases`).
-/

namespace MarkupQuery

/-- The induction principle of selectors, in which the members of a list are parts like any
other. -/
@[elab_as_elim]
theorem Selector.ind {P : Selector → Prop} (universal : P .universal)
    (simple : ∀ test, P (.simple test)) (not : ∀ inner, P inner → P (.not inner))
    (has : ∀ inner, P inner → P (.has inner)) (hasChild : ∀ inner, P inner → P (.hasChild inner))
    (all : ∀ members, (∀ s ∈ members, P s) → P (.all members))
    (any : ∀ members, (∀ s ∈ members, P s) → P (.any members))
    (complex : ∀ relation left right, P left → P right → P (.complex relation left right))
    (s : Selector) : P s :=
  Selector.rec (motive_1 := P) (motive_2 := fun members => ∀ s ∈ members, P s)
    universal simple not has hasChild all any complex
    (fun _ hs => absurd hs List.not_mem_nil)
    (fun _ _ hfirst hrest s hs => by
      rcases List.mem_cons.mp hs with rfl | hs
      · exact hfirst
      · exact hrest s hs)
    s

/-! ### Patterns in a selector -/

/-- Whether the value is tested without a pattern. -/
def ValueTest.patternFree : ValueTest → Bool
  | pattern _ => false
  | _ => true

/-- Whether the test asks for no pattern. -/
def Test.patternFree : Test → Bool
  | hasAttribute _ value => value.patternFree
  | textMatches _ _ => false
  | _ => true

namespace Selector

mutual

/-- Whether no pattern is asked for anywhere in the selector. -/
def patternFree : Selector → Bool
  | universal => true
  | simple test => test.patternFree
  | not inner => inner.patternFree
  | has inner => inner.patternFree
  | hasChild inner => inner.patternFree
  | all members => allPatternFree members
  | any members => allPatternFree members
  | complex _ left right => left.patternFree && right.patternFree

/-- Whether no pattern is asked for in any of the selectors. -/
def allPatternFree : List Selector → Bool
  | [] => true
  | s :: rest => s.patternFree && allPatternFree rest

end

lemma allPatternFree_iff {ss : List Selector} :
    allPatternFree ss = true ↔ ∀ s ∈ ss, s.patternFree = true := by
  induction ss with
  | nil => simp [allPatternFree]
  | cons s ss ih => rw [allPatternFree, Bool.and_eq_true, ih, List.forall_mem_cons]

/-! ### Conjunctions -/

/-- The parts of a conjunction. The universal selector has none, and any other is its own only
part. -/
def conjuncts : Selector → List Selector
  | universal => []
  | all members => members
  | s => [s]

/-- Whether the selector is neither a conjunction nor the universal selector. -/
def isConjunct : Selector → Bool
  | universal => false
  | all _ => false
  | _ => true

lemma conjuncts_of_isConjunct {s : Selector} (h : s.isConjunct = true) : s.conjuncts = [s] := by
  cases s with
  | universal => cases h
  | all => cases h
  | _ => rfl

lemma ne_universal_of_isConjunct {s : Selector} (h : s.isConjunct = true) : s ≠ universal := by
  rintro rfl
  cases h

/-- Unless a side is universal, joining makes one conjunction of the parts of both. -/
lemma inter_of_ne_universal {a b : Selector} (ha : a ≠ universal) (hb : b ≠ universal) :
    a.inter b = all (a.conjuncts ++ b.conjuncts) := by
  cases a with
  | universal => exact absurd rfl ha
  | _ =>
      cases b with
      | universal => exact absurd rfl hb
      | _ => rfl

/-- The parts of what is joined are those of the first side and then those of the second. -/
lemma conjuncts_inter (a b : Selector) : (a.inter b).conjuncts = a.conjuncts ++ b.conjuncts := by
  by_cases ha : a = universal
  · rw [ha, universal_inter, conjuncts, List.nil_append]
  by_cases hb : b = universal
  · rw [hb, inter_universal, conjuncts, List.append_nil]
  rw [inter_of_ne_universal ha hb, conjuncts]

/-! ### Disjunctions -/

/-- The parts of a disjunction; any other selector is its own only part. -/
def members : Selector → List Selector
  | any members => members
  | s => [s]

/-- Whether the selector is a disjunction. -/
def isAny : Selector → Bool
  | any _ => true
  | _ => false

lemma members_of_not_isAny {s : Selector} (h : s.isAny = false) : s.members = [s] := by
  cases s with
  | any => cases h
  | _ => rfl

lemma union_of_not_isAny (a : Selector) {b : Selector} (h : b.isAny = false) :
    a.union b = any (a.members ++ [b]) := by
  cases b with
  | any => cases h
  | _ => cases a <;> rfl

lemma members_foldl_union (a : Selector) {bs : List Selector} (h : ∀ b ∈ bs, b.isAny = false) :
    (bs.foldl union a).members = a.members ++ bs := by
  induction bs generalizing a with
  | nil => rw [List.foldl_nil, List.append_nil]
  | cons b bs ih =>
      rw [List.foldl_cons, ih _ fun b' hb' => h b' (List.mem_cons_of_mem _ hb'),
        union_of_not_isAny a (h b List.mem_cons_self), members, List.append_assoc,
        List.singleton_append]

/-- With at least one alternative added the outcome is a disjunction. -/
lemma foldl_union_cons (a : Selector) {b : Selector} {bs : List Selector}
    (h : ∀ b' ∈ b :: bs, b'.isAny = false) :
    (b :: bs).foldl union a = any (a.members ++ b :: bs) := by
  induction bs using List.reverseRecOn with
  | nil => exact union_of_not_isAny a (h b List.mem_cons_self)
  | append_singleton bs c ih =>
      have hc : c.isAny = false := h c (by simp)
      have hbs : ∀ b' ∈ b :: bs, b'.isAny = false := by
        intro b' hb'
        refine h b' ?_
        rw [← List.cons_append]
        exact List.mem_append_left _ hb'
      rw [← List.cons_append, List.foldl_append, ih hbs, List.foldl_cons, List.foldl_nil,
        union_of_not_isAny _ hc, members, List.append_assoc]

/-! ### Compounds -/

/-- Whether the selector is neither a disjunction nor a complex. -/
def isCompound : Selector → Bool
  | any _ => false
  | complex _ _ _ => false
  | _ => true

lemma not_isAny_of_isCompound {s : Selector} (h : s.isCompound = true) : s.isAny = false := by
  cases s with
  | any => cases h
  | _ => rfl

lemma isCompound_inter {a b : Selector} (ha : a.isCompound = true) (hb : b.isCompound = true) :
    (a.inter b).isCompound = true := by
  by_cases hau : a = universal
  · rwa [hau, universal_inter]
  by_cases hbu : b = universal
  · rwa [hbu, inter_universal]
  rw [inter_of_ne_universal hau hbu]
  rfl

lemma isCompound_foldl_inter {a : Selector} {bs : List Selector} (ha : a.isCompound = true)
    (h : ∀ b ∈ bs, b.isCompound = true) : (bs.foldl inter a).isCompound = true := by
  induction bs generalizing a with
  | nil => exact ha
  | cons b bs ih =>
      exact ih (isCompound_inter ha (h b List.mem_cons_self))
        fun b' hb' => h b' (List.mem_cons_of_mem _ hb')

/-! ### Chains -/

/-- Selectors joined by combinators, grouped to the left. -/
def chain (first : Selector) (links : List (Combinator × Selector)) : Selector :=
  links.foldl (fun left (relation, right) => .complex relation left right) first

lemma chain_append (first : Selector) (links more : List (Combinator × Selector)) :
    chain first (links ++ more) = chain (chain first links) more := by
  rw [chain, List.foldl_append]
  rfl

lemma chain_concat (first : Selector) (links : List (Combinator × Selector))
    (relation : Combinator) (right : Selector) :
    chain first (links ++ [(relation, right)]) = .complex relation (chain first links) right :=
  chain_append first links [(relation, right)]

/-- Without links a chain is its first selector, and with links it is a complex. -/
lemma chain_cases (first : Selector) (links : List (Combinator × Selector)) :
    links = [] ∨ ∃ relation left right, chain first links = .complex relation left right := by
  rcases List.eq_nil_or_concat' links with rfl | ⟨init, ⟨relation, right⟩, rfl⟩
  · exact Or.inl rfl
  · exact Or.inr ⟨_, _, _, chain_concat first init relation right⟩

end Selector

end MarkupQuery
