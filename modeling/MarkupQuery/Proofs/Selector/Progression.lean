import Mathlib
import MarkupQuery.Proofs.Query.NormalForm
import MarkupQuery.Proofs.Selector.Position

/-!
Which positions a formula picks out, and that it is worked out in words.

A formula asks whether the distance of a position from the offset is the step taken some number of
times. One subtraction and one division of words settle it. `difference?`, `quotient?` and
`remainder?` give the exact result of a step of this calculation, or none.

* `Formula.picks_eq_calculate`: the formula answers as the calculation does, and no where a step of
  it has no result;
* `Formula.isWord_tdiv_iff`: of all quotients of words one alone is no word, that of the least word
  by `-1`;
* `Formula.picks_spec`: so the formula picks out the members of its progression, apart from
  positions too far from the offset and from one distance with the step `-1`. A formula that is read
  from a query is bounded, and then nothing is left out.
-/

namespace MarkupQuery.Formula

variable {f : Formula} {position : Int64} {a b w : Int64}

/-! ### Exact words -/

/-- The difference of two words, if it is a word. -/
def difference? (a b : Int64) : Option Int64 :=
  if isWord (a.toInt - b.toInt) then some (a - b) else none

/-- The quotient of two words, rounded to zero, if there is one and it is a word. -/
def quotient? (a b : Int64) : Option Int64 :=
  if b ≠ 0 ∧ isWord (a.toInt.tdiv b.toInt) then some (a / b) else none

/-- What the division of two words leaves, if it has a quotient. -/
def remainder? (a b : Int64) : Option Int64 :=
  if b ≠ 0 ∧ isWord (a.toInt.tdiv b.toInt) then some (a % b) else none

/-- Works out with words whether the formula picks the position out. -/
def calculate (f : Formula) (position : Int64) : Bool :=
  (difference? position f.offset).any fun distance =>
    if f.step = 0 then distance == 0
    else
      (remainder? distance f.step).any fun left =>
        (quotient? distance f.step).any fun times => left == 0 && decide (0 ≤ times)

lemma isWord_toInt (w : Int64) : isWord w.toInt = true :=
  isWord_iff.mpr ⟨w.le_toInt, w.toInt_lt⟩

/-- A number that is a word is what it wraps to, and no other number is a word. -/
lemma isWord_and_bmod_iff {n : ℤ} :
    isWord n = true ∧ n.bmod (2 ^ 64) = w.toInt ↔ w.toInt = n := by
  have hbmod : isWord n = true → n.bmod (2 ^ 64) = n := by
    rw [isWord_iff]
    exact fun h => Int.bmod_eq_of_le (by omega) (by omega)
  constructor
  · rintro ⟨hword, hw⟩
    rw [← hw, hbmod hword]
  · intro hw
    have hword : isWord n = true := hw ▸ isWord_toInt w
    exact ⟨hword, (hbmod hword).trans hw.symm⟩

/-- The difference is exact, and there is none only if it is no word. -/
lemma difference?_eq_some_iff : difference? a b = some w ↔ w.toInt = a.toInt - b.toInt := by
  have hsub : (a - b).toInt = (a.toInt - b.toInt).bmod (2 ^ 64) := Int64.toInt_sub a b
  rw [difference?, Option.ite_none_right_eq_some, Option.some_inj, ← Int64.toInt_inj, hsub,
    isWord_and_bmod_iff]

/-- The quotient is exact, and there is none only for a division by zero and if it is no word. -/
lemma quotient?_eq_some_iff :
    quotient? a b = some w ↔ b ≠ 0 ∧ w.toInt = a.toInt.tdiv b.toInt := by
  have hdiv : (a / b).toInt = (a.toInt.tdiv b.toInt).bmod (2 ^ 64) := Int64.toInt_div a b
  rw [quotient?, Option.ite_none_right_eq_some, Option.some_inj, ← Int64.toInt_inj, hdiv, and_assoc,
    isWord_and_bmod_iff]

/-- What a division leaves is exact, and is there together with the quotient. -/
lemma remainder?_eq_some_iff :
    remainder? a b = some w ↔
      (b ≠ 0 ∧ isWord (a.toInt.tdiv b.toInt) = true) ∧ w.toInt = a.toInt.tmod b.toInt := by
  rw [remainder?, Option.ite_none_right_eq_some, Option.some_inj, ← Int64.toInt_inj,
    Int64.toInt_mod, eq_comm (a := w.toInt)]

lemma toInt_eq_zero_iff : w.toInt = 0 ↔ w = 0 := by
  rw [← Int64.toInt_zero, Int64.toInt_inj]

lemma toInt_beq_zero (w : Int64) : (w.toInt == 0) = (w == 0) := by
  rw [Bool.eq_iff_iff, beq_iff_eq, beq_iff_eq, toInt_eq_zero_iff]

/-- The formula answers as the calculation with words does. -/
lemma picks_eq_calculate (f : Formula) (position : Int64) :
    f.picks position = f.calculate position := by
  rw [picks, calculate]
  by_cases hword : isWord (position.toInt - f.offset.toInt) = true
  · have hsome : difference? position f.offset = some (position - f.offset) := if_pos hword
    rw [hsome, Option.any_some, hword, Bool.true_and, ← difference?_eq_some_iff.mp hsome]
    generalize position - f.offset = distance
    by_cases hs : f.step = 0
    · rw [if_pos hs, if_pos (toInt_eq_zero_iff.mpr hs), toInt_beq_zero]
    · rw [if_neg hs, if_neg (mt toInt_eq_zero_iff.mp hs)]
      by_cases hq : isWord (distance.toInt.tdiv f.step.toInt) = true
      · have htimes : quotient? distance f.step = some (distance / f.step) := if_pos ⟨hs, hq⟩
        have hleft : remainder? distance f.step = some (distance % f.step) := if_pos ⟨hs, hq⟩
        rw [hleft, htimes, Option.any_some, Option.any_some, hq, Bool.true_and,
          ← (quotient?_eq_some_iff.mp htimes).2, ← (remainder?_eq_some_iff.mp hleft).2,
          toInt_beq_zero]
        simp only [Int64.le_iff_toInt_le, Int64.toInt_zero]
      · simp [remainder?, hq]
  · simp [difference?, hword]

/-! ### The progression -/

/-- Of the quotients of words by words one alone is no word. -/
lemma isWord_tdiv_iff {d : ℤ} (hd : isWord d = true) (s : ℤ) :
    isWord (d.tdiv s) = true ↔ ¬ (s = -1 ∧ d = -2 ^ 63) := by
  rw [isWord_iff] at hd ⊢
  have hstep : s = 0 ∨ s = 1 ∨ s = -1 ∨ 2 ≤ s.natAbs := by omega
  rcases hstep with rfl | rfl | rfl | hs
  · rw [Int.tdiv_zero]
    omega
  · rw [Int.tdiv_one]
    omega
  · rw [Int.tdiv_neg, Int.tdiv_one]
    omega
  · have hhalf : (d.tdiv s).natAbs ≤ d.natAbs / 2 := by
      rw [Int.natAbs_tdiv]
      exact Nat.div_le_div_left hs (by decide)
    omega

/-- **A formula picks out the members of its progression** whose distance from the offset is a word,
but not the farthest of them where the step is `-1`. It is worked out with words, and no step of the
calculation wraps or divides by zero: each gives the exact result or none. For the formulas that can
be read from a query, and for positions that are not too large, that is the progression itself. -/
theorem picks_spec (f : Formula) (position : Int64) :
    (f.picks position = true ↔
      (∃ n : ℕ, position.toInt = f.step.toInt * n + f.offset.toInt) ∧
      (-2 ^ 63 ≤ position.toInt - f.offset.toInt ∧ position.toInt - f.offset.toInt < 2 ^ 63) ∧
      ¬ (f.step.toInt = -1 ∧ position.toInt - f.offset.toInt = -2 ^ 63)) ∧
    f.picks position = f.calculate position ∧
    (∀ a b w : Int64,
      (difference? a b = some w ↔ w.toInt = a.toInt - b.toInt) ∧
      (quotient? a b = some w ↔ b ≠ 0 ∧ w.toInt = a.toInt.tdiv b.toInt) ∧
      (remainder? a b = some w ↔
        (b ≠ 0 ∧ isWord (a.toInt.tdiv b.toInt) = true) ∧ w.toInt = a.toInt.tmod b.toInt)) ∧
    (∀ text rest, Query.formula text = .ok (f, rest) → f.Bounded) ∧
    (f.Bounded → 1 ≤ position.toInt → position.toInt < 2 ^ 62 →
      (f.picks position = true ↔
        ∃ n : ℕ, position.toInt = f.step.toInt * n + f.offset.toInt)) := by
  refine ⟨?_, picks_eq_calculate f position,
    fun a b w => ⟨difference?_eq_some_iff, quotient?_eq_some_iff, remainder?_eq_some_iff⟩,
    fun text rest => Query.bounded_formula,
    fun hf hpos hlt => picks_iff_of_bounded hf (by omega) hlt⟩
  rw [picks_iff]
  constructor
  · rintro ⟨hdistance, hquotient, hn⟩
    exact ⟨hn, isWord_iff.mp hdistance, (isWord_tdiv_iff hdistance _).mp hquotient⟩
  · rintro ⟨hn, hdistance, hne⟩
    have hword := isWord_iff.mpr hdistance
    exact ⟨hword, (isWord_tdiv_iff hword _).mpr hne, hn⟩

/-- Every third position back from the fifth, as a query asks for it, and one of the two there
are. -/
theorem picks_thirdBack :
    Query.formula "-3n+5)".toList = .ok (⟨-3, 5⟩, [')']) ∧ (⟨-3, 5⟩ : Formula).Bounded ∧
    1 ≤ (2 : Int64).toInt ∧ (2 : Int64).toInt < 2 ^ 62 ∧
    (⟨-3, 5⟩ : Formula).picks 2 = true ∧
    ((⟨-3, 5⟩ : Formula).picks 2 = true ↔
      ∃ n : ℕ, (2 : Int64).toInt = (-3 : Int64).toInt * n + (5 : Int64).toInt) := by
  have hread : Query.formula "-3n+5)".toList = .ok (⟨-3, 5⟩, [')']) := by cbv
  obtain ⟨_, _, _, hbounded, hexact⟩ := picks_spec ⟨-3, 5⟩ 2
  have hf := hbounded _ _ hread
  exact ⟨hread, hf, by decide, by decide, by decide, hexact hf (by decide) (by decide)⟩

end MarkupQuery.Formula
