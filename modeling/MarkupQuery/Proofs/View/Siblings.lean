import Mathlib.Tactic
import MarkupQuery.View.Siblings

/-!
Counting along siblings, and the place in the list of those that are counted.

The element children of the parent of an element, or those of its own tag alone, are its peers
(`peers`), and its place among them is its rank (`rank?`). A count along the siblings comes to the
same wherever the element stands once among its peers, whether it ends at the element or goes on.

* `own_tally`, `total_tally`: the number that the element gets, and how many are counted;
* `number?_eq`: the number is the rank, as a word;
* `isOnly_eq`: two siblings are enough to tell whether there is just one.
-/

namespace MarkupQuery.View

variable {N : Type} {v : View N} {ofType : Bool} {x : N}

/-- The elements that an element is counted among: the element children of its parent, where
`ofType` only those of the same tag. -/
def peers (v : View N) (ofType : Bool) (x : N) : List N :=
  match v.parent x with
  | none => []
  | some p => (v.children p).filter (v.counts ofType x)

/-- The place of an element among its peers, the first place being one, from the last peer where
`last` is set. -/
def rank? [BEq N] (v : View N) (last ofType : Bool) (x : N) : Option ℕ :=
  if v.isElement x then
    ((v.peers ofType x).idxOf? x).map fun i =>
      if last then (v.peers ofType x).length - i else i + 1
  else none

lemma peers_of_parent {p : N} (h : v.parent x = some p) (ofType : Bool) :
    v.peers ofType x = (v.children p).filter (v.counts ofType x) := by
  rw [peers, h]

lemma peers_of_no_parent (h : v.parent x = none) (ofType : Bool) : v.peers ofType x = [] := by
  rw [peers, h]

lemma isOnly_eq : v.isOnly ofType x = (v.isElement x && (v.peers ofType x).length == 1) := by
  cases hp : v.parent x with
  | none => rw [isOnly, hp, peers_of_no_parent hp, Option.any_none, List.length_nil]; rfl
  | some p =>
      rw [isOnly, hp, peers_of_parent hp, Option.any_some, List.length_take]
      congr 1
      rw [Bool.eq_iff_iff, beq_iff_eq, beq_iff_eq]
      omega

section

variable [BEq N] {last : Bool}

lemma rank?_eq_none_of_not_isElement (h : v.isElement x = false) (last ofType : Bool) :
    v.rank? last ofType x = none := by
  simp [rank?, h]

lemma rank?_eq_none_of_parent (h : v.parent x = none) (last ofType : Bool) :
    v.rank? last ofType x = none := by
  simp [rank?, peers_of_no_parent h]

/-- An element with a number stands at that place among its peers. -/
lemma rank?_eq_some_iff {rank : ℕ} :
    v.rank? last ofType x = some rank ↔ v.isElement x = true ∧
      ∃ i, (v.peers ofType x).idxOf? x = some i ∧
        (if last then (v.peers ofType x).length - i else i + 1) = rank := by
  rw [rank?]
  by_cases hx : v.isElement x = true
  · rw [if_pos hx, Option.map_eq_some_iff]
    simp [hx]
  · rw [if_neg hx]
    simp [hx]

lemma add_one_add_ofNat (total : Int64) (n : ℕ) : total + 1 + .ofNat n = total + .ofNat (n + 1) := by
  rw [Int64.ofNat_add, Int64.add_assoc, Int64.add_comm 1]
  rfl

/-- The place from the end, computed with words. -/
lemma ofNat_sub_add_one {n i : ℕ} (h : i < n) :
    Int64.ofNat n - .ofNat (i + 1) + 1 = .ofNat (n - i) := by
  obtain ⟨k, rfl⟩ := Nat.exists_eq_add_of_le' h
  have hback : k + (i + 1) - i = k + 1 := by omega
  rw [hback, Int64.ofNat_add k, Int64.add_sub_cancel, Int64.ofNat_add]
  rfl

/-- A count that does not end at the element counts all siblings that are to be counted. -/
lemma total_tally (t : Tally) (ys : List N) :
    (v.tally true ofType x t ys).total =
      t.total + .ofNat (ys.filter (v.counts ofType x)).length := by
  induction ys generalizing t with
  | nil => simp [tally]
  | cons y ys ih =>
      rw [tally]
      by_cases hy : v.counts ofType x y = true
      · rw [if_pos hy, List.filter_cons_of_pos hy, List.length_cons, ← add_one_add_ofNat]
        by_cases hyx : (y == x) = true
        · rw [if_pos hyx, if_pos rfl, ih]
        · rw [if_neg hyx, ih]
      · rw [if_neg hy, List.filter_cons_of_neg hy, ih]

/-- If the element is counted once at most, its number is how many are counted up to it. -/
lemma own_tally [LawfulBEq N] (t : Tally) {ys : List N}
    (h : (ys.filter (v.counts ofType x)).Nodup) :
    (v.tally last ofType x t ys).own =
      ((ys.filter (v.counts ofType x)).idxOf? x).elim t.own
        fun i => some (t.total + .ofNat (i + 1)) := by
  induction ys generalizing t with
  | nil => rfl
  | cons y ys ih =>
      rw [tally]
      by_cases hy : v.counts ofType x y = true
      · rw [List.filter_cons_of_pos hy, List.nodup_cons] at h
        obtain ⟨hnew, h⟩ := h
        rw [if_pos hy, List.filter_cons_of_pos hy, List.idxOf?_cons]
        by_cases hyx : (y == x) = true
        · -- the element is met here, and not again
          have hnone : (ys.filter (v.counts ofType x)).idxOf? x = none := by
            rw [List.idxOf?_eq_none_iff]
            exact eq_of_beq hyx ▸ hnew
          rw [if_pos hyx, if_pos hyx, Option.elim_some]
          cases last with
          | false => rfl
          | true => rw [if_pos rfl, ih _ h, hnone]; rfl
        · rw [if_neg hyx, if_neg hyx, ih _ h]
          cases (ys.filter (v.counts ofType x)).idxOf? x with
          | none => rfl
          | some i =>
              exact congrArg some (add_one_add_ofNat t.total (i + 1))
      · rw [if_neg hy, List.filter_cons_of_neg hy]
        rw [List.filter_cons_of_neg hy] at h
        exact ih t h

/-- **The number that an element gets by counting is its rank**, if no peer stands there twice. -/
theorem number?_eq [LawfulBEq N] (h : (v.peers ofType x).Nodup) (last : Bool) :
    v.number? last ofType x = (v.rank? last ofType x).map .ofNat := by
  by_cases hx : v.isElement x = true
  swap
  · rw [number?, rank?, if_neg hx, if_neg hx]
    rfl
  cases hp : v.parent x with
  | none => rw [number?, if_pos hx, hp, rank?_eq_none_of_parent hp]; rfl
  | some p =>
      rw [peers_of_parent hp] at h
      rw [number?, rank?, if_pos hx, if_pos hx, hp, peers_of_parent hp, Option.bind_some]
      dsimp only
      rw [own_tally {} h]
      cases hi : ((v.children p).filter (v.counts ofType x)).idxOf? x with
      | none => rfl
      | some i =>
          obtain ⟨hlt, _⟩ := List.idxOf?_eq_some_iff.mp hi
          refine congrArg some ?_
          cases last with
          | false => exact Int64.zero_add _
          | true =>
              simp only [if_true, total_tally, Int64.zero_add, ofNat_sub_add_one hlt]

end

end MarkupQuery.View
