import Mathlib.Tactic
import MarkupQuery.Proofs.Selector.Patterns
import MarkupQuery.Selector.Matching

/-!
The algebra of selectors.

Joining two selectors tells cases apart, as either side is universal, a conjunction or neither. Read
as lists of conditions (`conjuncts`) the cases are one: the list of what is joined is that of the
first side and then that of the second (`conjuncts_inter`).

* `inter_assoc`: so it makes no difference which two of three are joined first;
* `joinsFlat_inter`: what is joined nests something just if one of its sides did;
* `inter_laws`: joining is associative, the universal selector is its unit on both sides, and what
  is joined asks for both.

Uniting tells two cases apart. Behind a disjunction the alternatives of the second side are lined up
with those of the first (`union_of_isAny`); behind any other selector the second side is one
alternative, even if it is a disjunction (`union_of_isAny_eq_false`).

* `members_union_iff`, `unitesFlat_union`: so alternatives are lined up, and nothing is nested,
  unless the second side alone is a disjunction;
* `union_assoc`, `regroups_of_same`: when it makes no difference which two of three are united
  first;
* `union_laws`: all this, and that what is united asks for either.
-/

namespace MarkupQuery.Selector

variable {a b c : Selector}

/-! ### Conjunctions -/

lemma inter_ne_universal (ha : a ≠ universal) (hb : b ≠ universal) : a.inter b ≠ universal := by
  rw [inter_of_ne_universal ha hb]
  nofun

lemma inter_assoc (a b c : Selector) : a.inter (b.inter c) = (a.inter b).inter c := by
  by_cases ha : a = universal
  · rw [ha, universal_inter, universal_inter]
  by_cases hb : b = universal
  · rw [hb, universal_inter, inter_universal]
  by_cases hc : c = universal
  · rw [hc, inter_universal, inter_universal]
  -- both groupings are conjunctions now, so their conditions decide
  rw [inter_of_ne_universal ha (inter_ne_universal hb hc),
    inter_of_ne_universal (inter_ne_universal ha hb) hc, conjuncts_inter, conjuncts_inter,
    List.append_assoc]

/-- Whether no member of the selector, if that is a conjunction, is universal or a conjunction. -/
def joinsFlat : Selector → Bool
  | all members => members.all isConjunct
  | _ => true

lemma joinsFlat_eq (s : Selector) : s.joinsFlat = s.conjuncts.all isConjunct := by
  cases s <;> rfl

lemma joinsFlat_inter (a b : Selector) :
    (a.inter b).joinsFlat = (a.joinsFlat && b.joinsFlat) := by
  rw [joinsFlat_eq, joinsFlat_eq, joinsFlat_eq, conjuncts_inter, List.all_append]

/-- **Joining selectors is conjunction**: it is associative and has the universal selector for its
unit, what is joined matches where both sides do, and it nests something only where a side did. -/
theorem inter_laws (a b c : Selector) :
    a.inter (b.inter c) = (a.inter b).inter c ∧
    universal.inter a = a ∧ a.inter universal = a ∧
    (∀ {N : Type} [BEq N] (v : View N) (x : N),
      (a.inter b).holds v x = true ↔ a.holds v x = true ∧ b.holds v x = true) ∧
    (a.inter b).joinsFlat = (a.joinsFlat && b.joinsFlat) := by
  refine ⟨inter_assoc a b c, universal_inter a, inter_universal a, fun v x => ?_,
    joinsFlat_inter a b⟩
  rw [holds_inter, Bool.and_eq_true]

/-! ### Disjunctions -/

/-- Whether the alternatives of the second selector come to stand beside those of the first. They do
not where the second alone is a disjunction. -/
def merges (a b : Selector) : Bool :=
  a.isAny || !b.isAny

/-- Whether no member of the selector, if that is a disjunction, is a disjunction. -/
def unitesFlat : Selector → Bool
  | any members => members.all fun s => !s.isAny
  | _ => true

/-- Whether three selectors may be united in either order: behind a disjunction just if the
alternatives of the other two line up, behind any other selector just if these are a disjunction and
an empty one. -/
def regroups (a b c : Selector) : Bool :=
  if a.isAny then b.merges c else b.isAny && c.members.isEmpty

lemma unitesFlat_eq (s : Selector) : s.unitesFlat = s.members.all fun m => !m.isAny := by
  cases s <;> rfl

lemma eq_any_members (h : a.isAny = true) : a = any a.members := by
  cases a with
  | any => rfl
  | _ => cases h

lemma isAny_union (a b : Selector) : (a.union b).isAny = true := by
  unfold union
  split <;> rfl

lemma union_of_isAny (h : a.isAny = true) (b : Selector) :
    a.union b = any (a.members ++ b.members) := by
  cases hb : b.isAny with
  | false => rw [union_of_not_isAny a hb, members_of_not_isAny hb]
  | true =>
      rw [eq_any_members h, eq_any_members hb]
      rfl

/-- Whatever is united with a selector that is no disjunction stays in one piece. -/
lemma union_of_isAny_eq_false (h : a.isAny = false) (b : Selector) : a.union b = any [a, b] := by
  cases a with
  | any => cases h
  | _ => rfl

lemma members_union_iff (a b : Selector) :
    (a.union b).members = a.members ++ b.members ↔ a.merges b = true := by
  cases ha : a.isAny with
  | true => simp [union_of_isAny ha, members, merges, ha]
  | false =>
      rw [union_of_isAny_eq_false ha, members_of_not_isAny ha, merges, ha, members]
      cases hb : b.isAny with
      | false => simp [members_of_not_isAny hb]
      | true =>
          -- a disjunction is larger than each of its members
          simp only [List.cons_append, List.nil_append, List.cons.injEq, true_and]
          refine iff_of_false (fun h => ?_) (by simp)
          have hsize := congrArg sizeOf (eq_any_members hb)
          rw [← h] at hsize
          simp only [any.sizeOf_spec, List.cons.sizeOf_spec, List.nil.sizeOf_spec] at hsize
          omega

lemma unitesFlat_union (a b : Selector) :
    (a.union b).unitesFlat = (a.unitesFlat && b.unitesFlat && a.merges b) := by
  rw [unitesFlat_eq, unitesFlat_eq a, unitesFlat_eq b, merges]
  cases ha : a.isAny with
  | true => simp [union_of_isAny ha, members]
  | false =>
      rw [union_of_isAny_eq_false ha, members_of_not_isAny ha, members]
      cases hb : b.isAny with
      | true => simp [hb]
      | false => simp [members_of_not_isAny hb, ha, hb]

lemma union_assoc (h : a.regroups b c = true) : a.union (b.union c) = (a.union b).union c := by
  rw [regroups] at h
  cases ha : a.isAny with
  | true =>
      rw [if_pos ha, ← members_union_iff] at h
      rw [union_of_isAny ha, h, union_of_isAny (isAny_union a b), union_of_isAny ha, members,
        List.append_assoc]
  | false =>
      simp only [ha, Bool.false_eq_true, if_false, Bool.and_eq_true, List.isEmpty_iff] at h
      obtain ⟨hb, hc⟩ := h
      rw [union_of_isAny hb, union_of_isAny (isAny_union a b), hc, List.append_nil,
        List.append_nil, ← eq_any_members hb, ← eq_any_members (isAny_union a b)]

lemma sameMembers_of_append (shared : List Selector) {as bs : List Selector}
    (h : sameMembers (shared ++ as) (shared ++ bs) = true) : sameMembers as bs = true := by
  induction shared with
  | nil => exact h
  | cons s shared ih =>
      rw [List.cons_append, List.cons_append, sameMembers, Bool.and_eq_true] at h
      exact ih h.2

/-- No disjunction is its own only member, also where patterns are known by their sources. -/
lemma same_any_singleton (s : Selector) : (any [s]).same s = false := by
  induction s using Selector.ind with
  | any members ih =>
      match members with
      | [] => rfl
      | [m] => simp [same, sameMembers, ih m List.mem_cons_self]
      | _ :: _ :: _ => simp [same, sameMembers]
  | _ => rfl

/-- Selectors that are the same however they are grouped may be regrouped. -/
lemma regroups_of_same (h : (a.union (b.union c)).same ((a.union b).union c) = true) :
    a.regroups b c = true := by
  rw [regroups]
  cases ha : a.isAny with
  | true =>
      rw [if_pos rfl]
      by_contra hbc
      obtain ⟨hb, hc⟩ : b.isAny = false ∧ c.isAny = true := by simpa [merges] using hbc
      rw [union_of_isAny ha, union_of_isAny (isAny_union a b), union_of_isAny ha, members, same,
        union_of_isAny_eq_false hb, members_of_not_isAny hb, members, List.append_assoc] at h
      -- behind what both begin with, the one goes on with `c` and the other with its members
      have hself : (any [c]).same (any c.members) = true :=
        sameMembers_of_append [b] (sameMembers_of_append a.members h)
      rw [← eq_any_members hc, same_any_singleton] at hself
      cases hself
  | false =>
      rw [union_of_isAny_eq_false ha, union_of_isAny (isAny_union a b),
        union_of_isAny_eq_false ha, members, same] at h
      have htail : ((b.union c).same b && sameMembers [] c.members) = true :=
        sameMembers_of_append [a] h
      obtain ⟨hb, hc⟩ := Bool.and_eq_true_iff.mp htail
      rw [eq_any_members (isAny_union b c)] at hb
      cases b with
      | any bs =>
          cases hm : c.members with
          | nil => rfl
          | cons d ds => simp [hm, sameMembers] at hc
      | _ => cases hb

/-- **Uniting selectors is disjunction**, and it is flat as far as the first selector is a
disjunction or the second is none: then the alternatives of both stand side by side. A disjunction
behind another selector stays in one piece, and there it makes a difference which selectors are
united first. -/
theorem union_laws (a b c : Selector) :
    (∀ {N : Type} [BEq N] (v : View N) (x : N),
      (a.union b).holds v x = true ↔ a.holds v x = true ∨ b.holds v x = true) ∧
    (a.union b).isAny = true ∧
    ((a.union b).members = a.members ++ b.members ↔ a.merges b = true) ∧
    (a.union b).unitesFlat = (a.unitesFlat && b.unitesFlat && a.merges b) ∧
    (a.union (b.union c) = (a.union b).union c ↔ a.regroups b c = true) ∧
    (a.union (b.union c) == (a.union b).union c) = a.regroups b c := by
  have hsame : a.regroups b c = true ↔ (a.union (b.union c) == (a.union b).union c) = true := by
    constructor
    · intro h
      rw [union_assoc h]
      exact same_self _
    · exact regroups_of_same
  refine ⟨fun v x => ?_, isAny_union a b, members_union_iff a b, unitesFlat_union a b,
    ⟨fun h => ?_, union_assoc⟩, Bool.eq_iff_iff.mpr hsame.symm⟩
  · rw [holds_union, Bool.or_eq_true]
  · rw [hsame, h]
    exact same_self _

/-- The first of three tags does not take in the alternatives of the other two, none of which nests
another. -/
theorem union_nests_second :
    (union (simple (.tag "a")) (union (simple (.tag "b")) (simple (.tag "c"))) ==
      union (union (simple (.tag "a")) (simple (.tag "b"))) (simple (.tag "c"))) = false ∧
    (simple (.tag "a")).unitesFlat = true ∧
    (union (simple (.tag "b")) (simple (.tag "c"))).unitesFlat = true ∧
    (union (simple (.tag "a")) (union (simple (.tag "b")) (simple (.tag "c")))).unitesFlat =
      false := by
  decide

end MarkupQuery.Selector
