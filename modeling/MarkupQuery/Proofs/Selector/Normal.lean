import Mathlib.Tactic
import MarkupQuery.Proofs.Selector.Shape

/-!
The normal form of selectors.

A selector in normal form is put together on four ranks: qualifiers make compounds, compounds make
complexes, complexes make lists, and a list may stand in a qualifier (`Selector.Normal`).

* `Selector.Normal.flat`: nowhere in such a selector does a conjunction hold a conjunction or the
  universal selector, or a disjunction a disjunction, and neither has fewer than two members;
* `Selector.Normal.patternFree`: where no pattern is accepted there is none;
* `Selector.conj`: the conjunction of some selectors, with nothing around a single one;
* `Selector.foldl_inter`: what is joined one by one is the conjunction of all;
* `Selector.normal_conj`, `Selector.normal_chain`, `Selector.normal_foldl_union`: what is built of
  normal forms is one of the next rank.
-/

namespace MarkupQuery

/-! ### Tests -/

/-- The small form of some name, which is not empty. -/
def LoweredName (name : String) : Prop :=
  ∃ word, word ≠ "" ∧ name = lowercase word

/-- The number is at most 2147483647, with either sign. -/
def BoundedNumber (n : Int64) : Prop :=
  n.toInt.natAbs ≤ 2147483647

instance (n : Int64) : Decidable (BoundedNumber n) :=
  inferInstanceAs (Decidable (_ ≤ _))

/-- Both numbers of the formula are bounded. -/
def Formula.Bounded (f : Formula) : Prop :=
  BoundedNumber f.step ∧ BoundedNumber f.offset

instance (f : Formula) : Decidable f.Bounded :=
  inferInstanceAs (Decidable (_ ∧ _))

/-- What may be asked for in a qualifier: anything but a tag. Names and needles are in small
letters, the numbers of formulas are bounded, and the patterns are accepted ones. -/
def Test.Qualifies (accepted : Pattern → Prop) : Test → Prop
  | tag _ => False
  | hasAttribute name value => LoweredName name ∧ ∀ p, value = .pattern p → accepted p
  | nthChild formula _ _ => formula.Bounded
  | contains needle _ => ∃ text, needle = lowercase text
  | textMatches pattern _ => accepted pattern
  | _ => True

namespace Selector

/-! ### Normal forms -/

/-- The ranks of selectors. -/
inductive Rank where
  /-- A test on the node, or a list behind a pseudo-class. -/
  | qualifier
  /-- Qualifiers of one node, perhaps behind a tag. -/
  | compound
  /-- Compounds joined by combinators. -/
  | complex
  /-- Complexes, any of which may match. -/
  | list
deriving DecidableEq, Repr

/-- A selector in normal form, of the given rank. -/
inductive Normal (accepted : Pattern → Prop) : Rank → Selector → Prop
  | test {t : Test} (h : t.Qualifies accepted) : Normal accepted .qualifier (.simple t)
  | not {s : Selector} (h : Normal accepted .list s) : Normal accepted .qualifier (.not s)
  | has {s : Selector} (h : Normal accepted .list s) : Normal accepted .qualifier (.has s)
  | hasChild {s : Selector} (h : Normal accepted .list s) : Normal accepted .qualifier (.hasChild s)
  | universal : Normal accepted .compound .universal
  | tag {name : String} (hn : LoweredName name) : Normal accepted .compound (.simple (.tag name))
  | qualifier {s : Selector} (h : Normal accepted .qualifier s) : Normal accepted .compound s
  | tagged {name : String} {qs : List Selector} (hn : LoweredName name) (hne : qs ≠ [])
      (h : ∀ q ∈ qs, Normal accepted .qualifier q) :
      Normal accepted .compound (.all (.simple (.tag name) :: qs))
  | all {qs : List Selector} (hlen : 2 ≤ qs.length) (h : ∀ q ∈ qs, Normal accepted .qualifier q) :
      Normal accepted .compound (.all qs)
  | compound {s : Selector} (h : Normal accepted .compound s) : Normal accepted .complex s
  | complex {relation : Combinator} {left right : Selector} (hl : Normal accepted .complex left)
      (hr : Normal accepted .compound right) :
      Normal accepted .complex (.complex relation left right)
  | single {s : Selector} (h : Normal accepted .complex s) : Normal accepted .list s
  | any {ss : List Selector} (hlen : 2 ≤ ss.length) (h : ∀ s ∈ ss, Normal accepted .complex s) :
      Normal accepted .list (.any ss)

variable {accepted : Pattern → Prop} {s t : Selector} {qs : List Selector}

/-! ### Parts -/

/-- The first selector is the second one or stands somewhere in it. -/
inductive Occurs : Selector → Selector → Prop
  | refl (s : Selector) : Occurs s s
  | not {t s : Selector} (h : Occurs t s) : Occurs t (.not s)
  | has {t s : Selector} (h : Occurs t s) : Occurs t (.has s)
  | hasChild {t s : Selector} (h : Occurs t s) : Occurs t (.hasChild s)
  | all {t m : Selector} {members : List Selector} (hm : m ∈ members) (h : Occurs t m) :
      Occurs t (.all members)
  | any {t m : Selector} {members : List Selector} (hm : m ∈ members) (h : Occurs t m) :
      Occurs t (.any members)
  | left {t left right : Selector} {relation : Combinator} (h : Occurs t left) :
      Occurs t (.complex relation left right)
  | right {t left right : Selector} {relation : Combinator} (h : Occurs t right) :
      Occurs t (.complex relation left right)

/-- A conjunction has at least two members, none of them a conjunction or the universal selector; a
disjunction has at least two members, none of them a disjunction. -/
def Flat : Selector → Prop
  | .all members =>
      2 ≤ members.length ∧ ∀ m ∈ members, (∀ inner, m ≠ .all inner) ∧ m ≠ .universal
  | .any members => 2 ≤ members.length ∧ ∀ m ∈ members, ∀ inner, m ≠ .any inner
  | _ => True

/-! ### Qualifiers -/

/-- Whether the selector has the form of a qualifier. -/
def isQualifier : Selector → Bool
  | simple (.tag _) => false
  | simple _ => true
  | not _ => true
  | has _ => true
  | hasChild _ => true
  | _ => false

lemma Normal.isQualifier (h : Normal accepted .qualifier s) : s.isQualifier = true := by
  cases h with
  | @test t h =>
      cases t with
      | tag => exact h.elim
      | _ => rfl
  | _ => rfl

lemma Normal.isCompound (h : Normal accepted .compound s) : s.isCompound = true := by
  cases h with
  | qualifier h =>
      have hq := h.isQualifier
      cases s with
      | any => cases hq
      | complex => cases hq
      | _ => rfl
  | _ => rfl

lemma Normal.not_isAny (h : Normal accepted .complex s) : s.isAny = false := by
  cases h with
  | compound h => exact not_isAny_of_isCompound h.isCompound
  | complex => rfl

/-! ### No nesting -/

lemma isConjunct_of_isQualifier (h : s.isQualifier = true) : s.isConjunct = true := by
  cases s with
  | universal => cases h
  | all => cases h
  | _ => rfl

lemma not_nested_of_isQualifier (h : s.isQualifier = true) :
    (∀ inner, s ≠ .all inner) ∧ s ≠ .universal := by
  refine ⟨?_, ne_universal_of_isConjunct (isConjunct_of_isQualifier h)⟩
  rintro inner rfl
  cases h

/-- **Nothing in a normal form is nested in one of its kind**, and nothing is joined that is
alone. -/
theorem Normal.flat {r : Rank} (h : Normal accepted r s) (ht : Occurs t s) : t.Flat := by
  induction h with
  | test => cases ht; trivial
  | universal => cases ht; trivial
  | tag => cases ht; trivial
  | not _ ih =>
      cases ht with
      | refl => trivial
      | not ht => exact ih ht
  | has _ ih =>
      cases ht with
      | refl => trivial
      | has ht => exact ih ht
  | hasChild _ ih =>
      cases ht with
      | refl => trivial
      | hasChild ht => exact ih ht
  | qualifier _ ih => exact ih ht
  | @tagged name qs _ hne h ih =>
      cases ht with
      | refl =>
          refine ⟨?_, fun m hm => ?_⟩
          · have := List.length_pos_iff.2 hne
            rw [List.length_cons]
            omega
          · rcases List.mem_cons.1 hm with rfl | hm
            · simp
            · exact not_nested_of_isQualifier (h m hm).isQualifier
      | all hm ht =>
          rcases List.mem_cons.1 hm with rfl | hm
          · cases ht
            trivial
          · exact ih _ hm ht
  | all hlen h ih =>
      cases ht with
      | refl => exact ⟨hlen, fun m hm => not_nested_of_isQualifier (h m hm).isQualifier⟩
      | all hm ht => exact ih _ hm ht
  | compound _ ih => exact ih ht
  | complex _ _ ihl ihr =>
      cases ht with
      | refl => trivial
      | left ht => exact ihl ht
      | right ht => exact ihr ht
  | single _ ih => exact ih ht
  | any hlen h ih =>
      cases ht with
      | refl =>
          refine ⟨hlen, fun m hm inner heq => ?_⟩
          have hany := (h m hm).not_isAny
          rw [heq] at hany
          cases hany
      | any hm ht => exact ih _ hm ht

/-! ### Patterns -/

lemma Normal.mono {accepted' : Pattern → Prop} {r : Rank} (h : Normal accepted r s)
    (hp : ∀ p, accepted p → accepted' p) : Normal accepted' r s := by
  induction h with
  | @test t h =>
      refine .test ?_
      cases t with
      | hasAttribute => exact ⟨h.1, fun p hv => hp p (h.2 p hv)⟩
      | textMatches => exact hp _ h
      | _ => exact h
  | not _ ih => exact .not ih
  | has _ ih => exact .has ih
  | hasChild _ ih => exact .hasChild ih
  | universal => exact .universal
  | tag hn => exact .tag hn
  | qualifier _ ih => exact .qualifier ih
  | tagged hn hne _ ih => exact .tagged hn hne ih
  | all hlen _ ih => exact .all hlen ih
  | compound _ ih => exact .compound ih
  | complex _ _ ihl ihr => exact .complex ihl ihr
  | single _ ih => exact .single ih
  | any hlen _ ih => exact .any hlen ih

/-- Where no pattern is accepted there is none in a normal form. -/
lemma Normal.patternFree {r : Rank} (h : Normal accepted r s) (hnone : ∀ p, ¬ accepted p) :
    s.patternFree = true := by
  induction h with
  | @test t h =>
      cases t with
      | hasAttribute name v =>
          cases v with
          | pattern p => exact absurd (h.2 p rfl) (hnone p)
          | _ => rfl
      | textMatches p => exact absurd h (hnone p)
      | _ => rfl
  | not _ ih => exact ih
  | has _ ih => exact ih
  | hasChild _ ih => exact ih
  | universal => rfl
  | tag => rfl
  | qualifier _ ih => exact ih
  | tagged _ _ _ ih => exact allPatternFree_iff.2 (List.forall_mem_cons.2 ⟨rfl, ih⟩)
  | all _ _ ih => exact allPatternFree_iff.2 ih
  | compound _ ih => exact ih
  | complex _ _ ihl ihr => exact Bool.and_eq_true_iff.2 ⟨ihl, ihr⟩
  | single _ ih => exact ih
  | any _ _ ih => exact allPatternFree_iff.2 ih

/-! ### Conjunctions -/

/-- The conjunction of selectors: of none it is the universal one, and one stands for itself. -/
def conj : List Selector → Selector
  | [] => universal
  | [s] => s
  | s :: t :: ss => all (s :: t :: ss)

lemma conj_of_two_le (h : 2 ≤ qs.length) : conj qs = all qs := by
  match qs, h with
  | s :: t :: ss, _ => rfl

/-- Qualifiers that are joined to a selector one by one make a conjunction with it. -/
lemma foldl_inter {a : Selector} (ha : a.isConjunct = true)
    (h : ∀ q ∈ qs, q.isQualifier = true) : qs.foldl inter a = conj (a :: qs) := by
  induction qs using List.reverseRecOn with
  | nil => rfl
  | append_singleton qs q ih =>
      have hq := isConjunct_of_isQualifier (h q (by simp))
      have hqu := ne_universal_of_isConjunct hq
      rw [List.foldl_append, ih fun b hb => h b (List.mem_append_left _ hb), List.foldl_cons,
        List.foldl_nil]
      cases qs with
      | nil =>
          rw [conj, inter_of_ne_universal (ne_universal_of_isConjunct ha) hqu,
            conjuncts_of_isConjunct ha, conjuncts_of_isConjunct hq]
          rfl
      | cons b qs =>
          have hall : all (a :: b :: qs) ≠ universal := nofun
          rw [conj, inter_of_ne_universal hall hqu, conjuncts, conjuncts_of_isConjunct hq]
          rfl

lemma foldl_inter_universal (h : ∀ q ∈ qs, q.isQualifier = true) :
    qs.foldl inter universal = conj qs := by
  cases qs with
  | nil => rfl
  | cons q qs =>
      rw [List.foldl_cons, universal_inter]
      exact foldl_inter (isConjunct_of_isQualifier (h q List.mem_cons_self))
        fun b hb => h b (List.mem_cons_of_mem _ hb)

/-- The conjunction of qualifiers is a compound. -/
lemma normal_conj (h : ∀ q ∈ qs, Normal accepted .qualifier q) :
    Normal accepted .compound (conj qs) := by
  match qs, h with
  | [], _ => exact .universal
  | [q], h => exact .qualifier (h q List.mem_cons_self)
  | q :: r :: qs, h => exact .all (by simp) h

/-- The conjunction of a tag and qualifiers is a compound. -/
lemma normal_conj_tag {name : String} (hn : LoweredName name)
    (h : ∀ q ∈ qs, Normal accepted .qualifier q) :
    Normal accepted .compound (conj (.simple (.tag name) :: qs)) := by
  cases qs with
  | nil => exact .tag hn
  | cons q qs => exact .tagged hn (List.cons_ne_nil _ _) h

/-! ### Chains and disjunctions -/

/-- Compounds joined by combinators make a complex. -/
lemma normal_chain {first : Selector} {links : List (Combinator × Selector)}
    (hf : Normal accepted .compound first) (h : ∀ l ∈ links, Normal accepted .compound l.2) :
    Normal accepted .complex (chain first links) := by
  induction links using List.reverseRecOn with
  | nil => exact .compound hf
  | append_singleton links l ih =>
      obtain ⟨relation, right⟩ := l
      rw [chain_concat]
      exact .complex (ih fun l hmem => h l (List.mem_append_left _ hmem))
        (h (relation, right) (by simp))

/-- Complexes joined one by one make a list. -/
lemma normal_foldl_union {first : Selector} {others : List Selector}
    (hf : Normal accepted .complex first) (h : ∀ o ∈ others, Normal accepted .complex o) :
    Normal accepted .list (others.foldl union first) := by
  cases others with
  | nil => exact .single hf
  | cons o others =>
      rw [foldl_union_cons _ fun o' hmem => (h o' hmem).not_isAny,
        members_of_not_isAny hf.not_isAny]
      refine .any (by simp) fun m hmem => ?_
      rcases List.mem_append.1 hmem with hmem | hmem
      · rw [List.mem_singleton.1 hmem]
        exact hf
      · exact h m hmem

end Selector

end MarkupQuery
