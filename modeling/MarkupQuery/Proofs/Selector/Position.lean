import Mathlib
import MarkupQuery.Proofs.Selector.Naming
import MarkupQuery.Proofs.Selector.Normal
import MarkupQuery.Proofs.Tree.Attributes
import MarkupQuery.Proofs.Tree.Consistency
import MarkupQuery.Proofs.View.Siblings

/-!
The position of an element among its siblings.

An element stands once among its peers, so the number that it gets by counting along its siblings is
its place among them from either end (`Linked.number?_eq`, `Linked.exists_index`), and a formula is
asked about that number.

* `Formula.picks_iff`: a formula picks out the members of its progression, as far as the two words
  that it computes with are words;
* `holds_nthChild_spec`: what a selector by position matches.

Peers of one type have tags that are spelled alike, while a tag that a selector asks for may be
spelled otherwise. Two elements with one number among the peers of their type are the same if their
tags are spelled alike (`Linked.eq_of_rank`), and else need not be.

* `atMostOne_ofType_iff`: when a tag and a number single out one child.
-/

namespace MarkupQuery

open MarkupQuery.Tree

/-! ### Formulas -/

namespace Formula

variable {f : Formula} {position : Int64}

lemma isWord_iff {n : ℤ} : isWord n = true ↔ -2 ^ 63 ≤ n ∧ n < 2 ^ 63 := by
  have hmin : Int64.minValue.toInt = -2 ^ 63 := rfl
  have hmax : Int64.maxValue.toInt = 2 ^ 63 - 1 := rfl
  rw [isWord, Bool.and_eq_true, decide_eq_true_eq, decide_eq_true_eq, hmin, hmax,
    Int.le_sub_one_iff]

/-- A multiple of a step other than zero is the step as often as the quotient says. -/
lemma exists_multiple_iff {a d : ℤ} (ha : a ≠ 0) :
    (d.tmod a = 0 ∧ 0 ≤ d.tdiv a) ↔ ∃ n : ℕ, d = a * n := by
  constructor
  · rintro ⟨hmod, hdiv⟩
    refine ⟨(d.tdiv a).toNat, ?_⟩
    rw [Int.toNat_of_nonneg hdiv]
    have := Int.mul_tdiv_add_tmod d a
    omega
  · rintro ⟨n, rfl⟩
    rw [Int.mul_tdiv_cancel_left _ ha, Int.mul_tmod_right]
    exact ⟨rfl, Int.natCast_nonneg n⟩

/-- A formula picks out the members of its progression whose distance from the offset, and its
quotient by the step, are words. -/
lemma picks_iff :
    f.picks position = true ↔
      isWord (position.toInt - f.offset.toInt) = true ∧
      isWord ((position.toInt - f.offset.toInt).tdiv f.step.toInt) = true ∧
      ∃ n : ℕ, position.toInt = f.step.toInt * n + f.offset.toInt := by
  have hshift (n : ℕ) : position.toInt = f.step.toInt * n + f.offset.toInt ↔
      position.toInt - f.offset.toInt = f.step.toInt * n := by
    omega
  simp only [picks, Bool.and_eq_true, hshift]
  refine and_congr_right fun _ => ?_
  by_cases ha : f.step.toInt = 0
  · rw [if_pos ha, ha, Int.tdiv_zero, beq_iff_eq]
    simp [isWord_iff]
  · rw [if_neg ha, Bool.and_eq_true, Bool.and_eq_true, beq_iff_eq, decide_eq_true_eq, and_assoc,
      exists_multiple_iff ha]

/-- Small numbers never leave the words. -/
lemma picks_iff_of_bounded (hf : f.Bounded) (hpos : 0 ≤ position.toInt)
    (hlt : position.toInt < 2 ^ 62) :
    f.picks position = true ↔ ∃ n : ℕ, position.toInt = f.step.toInt * n + f.offset.toInt := by
  have hoffset : f.offset.toInt.natAbs ≤ 2147483647 := hf.2
  have hquotient :=
    Int.natAbs_tdiv_le_natAbs (position.toInt - f.offset.toInt) f.step.toInt
  rw [picks_iff, isWord_iff, isWord_iff]
  constructor
  · exact fun h => h.2.2
  · exact fun h => ⟨by omega, by omega, h⟩

/-- With no step there is the offset alone. -/
lemma picks_constant {k : Int64} : (⟨0, k⟩ : Formula).picks position = true ↔ position = k := by
  rw [picks_iff, ← Int64.toInt_inj]
  constructor
  · rintro ⟨_, _, n, hn⟩
    rw [hn, Int64.toInt_zero, zero_mul, zero_add]
  · intro h
    rw [h, sub_self, Int64.toInt_zero, Int.tdiv_zero]
    exact ⟨rfl, rfl, 0, by simp⟩

end Formula

/-! ### Numbers among peers -/

/-- In a list without repetition a member is found where it stands. -/
lemma idxOf?_of_getElem? {l : List NodeId} {x : NodeId} {i : ℕ} (hl : l.Nodup)
    (hi : l[i]? = some x) : l.idxOf? x = some i := by
  obtain ⟨hlt, hx⟩ := List.getElem?_eq_some_iff.mp hi
  refine List.idxOf?_eq_some_iff.mpr ⟨hlt, hx, fun j hj hjx => ?_⟩
  exact absurd (hl.getElem_inj_iff.mp (hjx.trans hx.symm)) (Nat.ne_of_lt hj)

namespace Tree

variable {t : Tree} {x y z p : NodeId} {ofType : Bool}

namespace Linked

variable (h : t.Linked)

include h

lemma nodup_peers (ofType : Bool) (x : NodeId) : (t.view.peers ofType x).Nodup := by
  rw [View.peers]
  split
  · exact List.nodup_nil
  · exact (h.nodup_children _).filter _

lemma length_peers_le (ofType : Bool) (x : NodeId) : (t.view.peers ofType x).length ≤ t.size := by
  rw [View.peers]
  split
  · exact Nat.zero_le _
  · exact (List.length_filter_le _ _).trans (h.length_children_le _)

/-- In a tree, where every node stands once among its siblings, a count gives the place. -/
lemma number?_eq (last ofType : Bool) (x : NodeId) :
    t.view.number? last ofType x = (t.view.rank? last ofType x).map .ofNat :=
  View.number?_eq (h.nodup_peers ofType x) last

/-- An element under another node is a peer of its own. -/
lemma mem_peers_self (hx : t.view.isElement x = true) (hp : t.parent x = some p) (ofType : Bool) :
    x ∈ t.view.peers ofType x := by
  rw [View.peers_of_parent hp, List.mem_filter, View.counts, hx]
  exact ⟨h.mem_children.mpr hp, by simp⟩

/-- An element under another node has one place among its peers, and its number from either end is
known from that. -/
lemma exists_index (hx : t.view.isElement x = true) (hp : t.parent x = some p) (ofType : Bool) :
    ∃ i < (t.view.peers ofType x).length, (t.view.peers ofType x)[i]? = some x ∧
      ∀ last, t.view.rank? last ofType x =
        some (if last then (t.view.peers ofType x).length - i else i + 1) := by
  obtain ⟨i, hi⟩ := List.mem_iff_getElem?.mp (h.mem_peers_self hx hp ofType)
  have hidx := idxOf?_of_getElem? (h.nodup_peers ofType x) hi
  exact ⟨i, (List.getElem?_eq_some_iff.mp hi).1, hi,
    fun last => View.rank?_eq_some_iff.mpr ⟨hx, i, hidx, rfl⟩⟩

/-- Numbers begin at one and end with the number of peers. -/
lemma rank_bounds {last : Bool} {rank : ℕ} (hx : t.view.rank? last ofType x = some rank) :
    1 ≤ rank ∧ rank ≤ t.size := by
  obtain ⟨_, i, hi, rfl⟩ := View.rank?_eq_some_iff.mp hx
  obtain ⟨hlt, _⟩ := List.idxOf?_eq_some_iff.mp hi
  have hle := h.length_peers_le ofType x
  split <;> omega

omit h in
/-- Among peers a number belongs to one element. -/
lemma eq_of_rank {last : Bool} {rank : ℕ}
    (hpeers : t.view.peers ofType y = t.view.peers ofType z)
    (hy : t.view.rank? last ofType y = some rank) (hz : t.view.rank? last ofType z = some rank) :
    y = z := by
  obtain ⟨_, i, hi, hirank⟩ := View.rank?_eq_some_iff.mp hy
  obtain ⟨_, j, hj, hjrank⟩ := View.rank?_eq_some_iff.mp hz
  rw [← hpeers] at hj hjrank
  obtain ⟨hilt, hiy, _⟩ := List.idxOf?_eq_some_iff.mp hi
  obtain ⟨hjlt, hjz, _⟩ := List.idxOf?_eq_some_iff.mp hj
  have hij : i = j := by
    rw [← hjrank] at hirank
    cases last with
    | false => exact Nat.add_right_cancel hirank
    | true =>
        rw [if_pos rfl, if_pos rfl] at hirank
        omega
  subst hij
  exact hiy.symm.trans hjz

omit h in
/-- Elements under one parent with tags that are spelled alike have the same peers. -/
lemma peers_eq_of_tag (hy : t.parent y = some p) (hz : t.parent z = some p)
    (htag : t.view.tag y = t.view.tag z) : t.view.peers true y = t.view.peers true z := by
  have hcounts : t.view.counts true y = t.view.counts true z := by
    funext a
    rw [View.counts, View.counts, htag]
  rw [View.peers_of_parent (v := t.view) hy, View.peers_of_parent (v := t.view) hz, hcounts]

/-- Among the peers of an element that are spelled like it one is the first. -/
lemma exists_first (hx : t.view.isElement x = true) (hp : t.parent x = some p) :
    ∃ y ∈ t.children p, t.view.tag y = t.view.tag x ∧ t.view.rank? false true y = some 1 := by
  obtain ⟨y, more, hpeers⟩ := List.exists_cons_of_ne_nil
    (List.ne_nil_of_mem (h.mem_peers_self hx hp true))
  have hy : y ∈ t.view.peers true x := by
    rw [hpeers]
    exact List.mem_cons_self
  rw [View.peers_of_parent (v := t.view) hp, List.mem_filter] at hy
  obtain ⟨hmem, hy⟩ := hy
  simp only [View.counts, Bool.and_eq_true, Bool.not_true, Bool.false_or, beq_iff_eq] at hy
  refine ⟨y, hmem, hy.2, View.rank?_eq_some_iff.mpr ⟨hy.1, 0, ?_, rfl⟩⟩
  rw [peers_eq_of_tag (h.mem_children.mp hmem) hp hy.2, hpeers, List.idxOf?_cons, if_pos (by simp)]

end Linked

end Tree

namespace Selector

variable {t : Tree}

lemma holds_nthChild (h : t.Linked) (f : Formula) (last ofType : Bool) (x : NodeId) :
    (nthChild f last ofType).holds t.view x = true ↔
      ∃ rank, t.view.rank? last ofType x = some rank ∧ f.picks (Int64.ofNat rank) = true := by
  rw [nthChild, holds_simple, Test.holds, h.number?_eq, Option.any_map]
  exact Option.any_eq_true _ _

/-- **An element is matched by its position among the elements under its parent**, those with its
own tag alone where that is asked for. It stands there once, and its position, counted from either
end, is what the formula has to pick out; with numbers of 32 bits that are the members of the
progression. What is no element, or is under nothing, is not matched. -/
theorem holds_nthChild_spec (ht : t.Reachable) (x : NodeId) (f : Formula) (last ofType : Bool) :
    (t.view.isElement x = false ∨ t.parent x = none →
      (nthChild f last ofType).holds t.view x = false) ∧
    ∀ p, t.view.isElement x = true → t.parent x = some p →
      ∀ peers, peers = ((t.children p).filter fun y =>
          t.view.isElement y && (!ofType || t.view.tag y == t.view.tag x)) →
        ∃ i position : ℕ, 1 ≤ i ∧ peers[i - 1]? = some x ∧ peers.count x = 1 ∧
          position = (if last then peers.length - i + 1 else i) ∧
          (nthChild f last ofType).holds t.view x = f.picks (Int64.ofNat position) ∧
          (f.Bounded → peers.length < 2 ^ 62 →
            ((nthChild f last ofType).holds t.view x = true ↔
              ∃ n : ℕ, (position : ℤ) = f.step.toInt * n + f.offset.toInt)) := by
  have h := ht.linked
  constructor
  · intro hx
    rw [← Bool.not_eq_true, holds_nthChild h]
    rintro ⟨rank, hrank, _⟩
    rcases hx with hx | hx
    · rw [View.rank?_eq_none_of_not_isElement hx] at hrank
      cases hrank
    · rw [View.rank?_eq_none_of_parent hx] at hrank
      cases hrank
  · intro p hx hp peers hpeers
    obtain rfl : peers = t.view.peers ofType x :=
      hpeers.trans (View.peers_of_parent (v := t.view) hp ofType).symm
    obtain ⟨i, hlt, hi, hrank⟩ := h.exists_index hx hp ofType
    have hholds : (nthChild f last ofType).holds t.view x = f.picks (Int64.ofNat
        (if last then (t.view.peers ofType x).length - (i + 1) + 1 else i + 1)) := by
      have hsame : (t.view.peers ofType x).length - (i + 1) + 1 =
          (t.view.peers ofType x).length - i := by
        omega
      rw [hsame, nthChild, holds_simple, Test.holds, h.number?_eq, hrank, Option.map_some,
        Option.any_some]
    refine ⟨i + 1, _, Nat.le_add_left 1 i, hi, ?_, rfl, hholds, fun hf hlength => ?_⟩
    · exact List.count_eq_one_of_mem (h.nodup_peers ofType x) (h.mem_peers_self hx hp ofType)
    · have hword := Int64.toInt_ofNat_of_lt (n := if last then
        (t.view.peers ofType x).length - (i + 1) + 1 else i + 1) (by split <;> omega)
      rw [hholds, Formula.picks_iff_of_bounded hf (by omega) (by rw [hword]; split <;> omega), hword]

/-- A list with two items, and with a text, a paragraph and a comment between them. -/
def mixedList : List Event :=
  [.startTag ⟨"ul", []⟩, .emptyTag ⟨"li", []⟩, .text "a", .emptyTag ⟨"p", []⟩, .comment "b",
    .emptyTag ⟨"li", []⟩, .endTag]

/-- The last item is the second of its type, which a step backwards from the fifth place meets. The
document is at no place. -/
theorem holds_nthChild_mixedList :
    (ofEvents mixedList).Reachable ∧
    (ofEvents mixedList).view.isElement 0 = false ∧
    (nthChild ⟨-3, 5⟩ false true).holds (ofEvents mixedList).view 0 = false ∧
    (ofEvents mixedList).view.isElement 6 = true ∧ (ofEvents mixedList).parent 6 = some 1 ∧
    ∃ i position : ℕ, 1 ≤ i ∧ [2, 6][i - 1]? = some 6 ∧ [2, 6].count 6 = 1 ∧
      position = (if false then [2, 6].length - i + 1 else i) ∧
      (nthChild ⟨-3, 5⟩ false true).holds (ofEvents mixedList).view 6 =
        (⟨-3, 5⟩ : Formula).picks (Int64.ofNat position) ∧
      ((⟨-3, 5⟩ : Formula).Bounded → [2, 6].length < 2 ^ 62 →
        ((nthChild ⟨-3, 5⟩ false true).holds (ofEvents mixedList).view 6 = true ↔
          ∃ n : ℕ, (position : ℤ) = (-3 : Int64).toInt * n + (5 : Int64).toInt)) := by
  have ht := reachable_ofEvents mixedList
  exact ⟨ht, by cbv, (holds_nthChild_spec ht 0 ⟨-3, 5⟩ false true).1 (.inl (by cbv)), by cbv,
    by cbv, (holds_nthChild_spec ht 6 ⟨-3, 5⟩ false true).2 1 (by cbv) (by cbv) [2, 6] (by cbv)⟩

/-! ### One child of a type -/

/-- Numbers up to the size of the words are told apart as words. -/
lemma ofNat_injOn {a b : ℕ} (ha : 1 ≤ a ∧ a ≤ 2 ^ 64) (hb : 1 ≤ b ∧ b ≤ 2 ^ 64)
    (h : Int64.ofNat a = Int64.ofNat b) : a = b := by
  have hmod := congrArg (fun n => n.toBitVec.toNat) h
  simp only [Int64.toBitVec_ofNat', BitVec.toNat_ofNat] at hmod
  omega

/-- Of a list without repetition there is at most one member if all its members are the same. -/
lemma length_le_one_iff {l : List NodeId} (hl : l.Nodup) :
    l.length ≤ 1 ↔ ∀ y ∈ l, ∀ z ∈ l, y = z := by
  match l with
  | [] => simp
  | [y] => simp
  | y :: z :: l =>
      refine iff_of_false (by simp) fun h => ?_
      rw [h y (by simp) z (by simp)] at hl
      simp at hl

/-- The elements of the tag at a position among those with their own tag. -/
lemma holds_nthOfType (h : t.Linked) (name : String) (k : Int64) (last : Bool) (x : NodeId) :
    (inter (tagged name) (nthChild ⟨0, k⟩ last true)).holds t.view x = true ↔
      (tagged name).holds t.view x = true ∧
        ∃ rank, t.view.rank? last true x = some rank ∧ Int64.ofNat rank = k := by
  simp only [holds_inter, Bool.and_eq_true, holds_nthChild h, Formula.picks_constant]

/-- The tag and the number single out one of the children that are spelled alike. -/
lemma eq_of_nthOfType (h : t.Linked) (hsize : t.size ≤ 2 ^ 64) {name : String} {k : Int64}
    {last : Bool} {p y z : NodeId} (hy : y ∈ t.children p) (hz : z ∈ t.children p)
    (htag : t.view.tag y = t.view.tag z)
    (hky : (inter (tagged name) (nthChild ⟨0, k⟩ last true)).holds t.view y = true)
    (hkz : (inter (tagged name) (nthChild ⟨0, k⟩ last true)).holds t.view z = true) : y = z := by
  obtain ⟨_, m, hm, hmk⟩ := (holds_nthOfType h name k last y).mp hky
  obtain ⟨_, n, hn, hnk⟩ := (holds_nthOfType h name k last z).mp hkz
  have hmle := h.rank_bounds hm
  have hnle := h.rank_bounds hn
  have hmn : m = n := ofNat_injOn (by omega) (by omega) (hmk.trans hnk.symm)
  subst hmn
  have hpeers := Linked.peers_eq_of_tag (h.mem_children.mp hy) (h.mem_children.mp hz) htag
  exact Linked.eq_of_rank hpeers hm hn

/-- Among the children that are spelled like one of the tag, the first is matched as the first of
its type. -/
lemma exists_firstOfType (h : t.Linked) {name : String} {p y : NodeId} (hy : y ∈ t.children p)
    (hty : (tagged name).holds t.view y = true) :
    ∃ x ∈ t.children p, t.view.tag x = t.view.tag y ∧
      (inter (tagged name) (nthChild ⟨0, 1⟩ false true)).holds t.view x = true := by
  have htag := (holds_tagged t.view name y).mp hty
  obtain ⟨own, hown, _⟩ := htag
  obtain ⟨x, hx, hxy, hrank⟩ := h.exists_first (isElement_of_tag hown) (h.mem_children.mp hy)
  have htx : (tagged name).holds t.view x = true := by
    rw [holds_tagged, hxy]
    exact (holds_tagged t.view name y).mp hty
  exact ⟨x, hx, hxy, (holds_nthOfType h name 1 false x).mpr ⟨htx, 1, hrank, rfl⟩⟩

/-- **A tag and a number among the elements of a type single out one child just if the children of
that tag are spelled alike.** The type of an element is its tag as it is spelled, so each spelling
has a first element of its own. The tree has no more nodes than a word can count. -/
theorem atMostOne_ofType_iff {events : List Event} (hsize : (ofEvents events).size ≤ 2 ^ 64)
    (p : NodeId) (name : String) :
    (∀ (k : Int64) (last : Bool), 1 ≤ k →
      (((ofEvents events).children p).filter
        ((inter (tagged name) (nthChild ⟨0, k⟩ last true)).holds (ofEvents events).view)).length ≤ 1) ↔
    ∀ y ∈ (ofEvents events).children p, ∀ z ∈ (ofEvents events).children p,
      (tagged name).holds (ofEvents events).view y = true →
      (tagged name).holds (ofEvents events).view z = true →
        (ofEvents events).view.tag y = (ofEvents events).view.tag z := by
  have h := (reachable_ofEvents events).linked
  simp only [length_le_one_iff ((h.nodup_children p).filter _), List.mem_filter]
  constructor
  · intro hone y hy z hz hty htz
    obtain ⟨y', hy', htagy, hfirsty⟩ := exists_firstOfType h hy hty
    obtain ⟨z', hz', htagz, hfirstz⟩ := exists_firstOfType h hz htz
    have hsame := hone 1 false (by decide) y' ⟨hy', hfirsty⟩ z' ⟨hz', hfirstz⟩
    rw [← htagy, ← htagz, hsame]
  · rintro halike k last _ y ⟨hy, hky⟩ z ⟨hz, hkz⟩
    have hty := ((holds_nthOfType h name k last y).mp hky).1
    have htz := ((holds_nthOfType h name k last z).mp hkz).1
    exact eq_of_nthOfType h hsize hy hz (halike y hy z hz hty htz) hky hkz

/-- The items of the list are spelled alike, so each number singles out one of them at most. -/
theorem atMostOne_item :
    (ofEvents mixedList).size ≤ 2 ^ 64 ∧
    (∀ y ∈ (ofEvents mixedList).children 1, ∀ z ∈ (ofEvents mixedList).children 1,
      (tagged "li").holds (ofEvents mixedList).view y = true →
      (tagged "li").holds (ofEvents mixedList).view z = true →
        (ofEvents mixedList).view.tag y = (ofEvents mixedList).view.tag z) ∧
    ∀ (k : Int64) (last : Bool), 1 ≤ k →
      (((ofEvents mixedList).children 1).filter
        ((inter (tagged "li") (nthChild ⟨0, k⟩ last true)).holds
          (ofEvents mixedList).view)).length ≤ 1 := by
  have hsize : (ofEvents mixedList).size ≤ 2 ^ 64 := by decide
  have halike : ∀ y ∈ (ofEvents mixedList).children 1, ∀ z ∈ (ofEvents mixedList).children 1,
      (tagged "li").holds (ofEvents mixedList).view y = true →
      (tagged "li").holds (ofEvents mixedList).view z = true →
        (ofEvents mixedList).view.tag y = (ofEvents mixedList).view.tag z := by
    decide +kernel
  exact ⟨hsize, halike, (atMostOne_ofType_iff hsize 1 "li").mpr halike⟩

/-- A list with two items, one of them in capital letters. -/
def shoutingList : List Event :=
  [.startTag ⟨"ul", []⟩, .emptyTag ⟨"LI", []⟩, .emptyTag ⟨"li", []⟩, .endTag]

/-- Both items are of the tag, and both are the first of their type. -/
theorem two_firstOfType_shoutingList :
    ((ofEvents shoutingList).children 1).filter
      ((inter (tagged "li") (nthChild ⟨0, 1⟩ false true)).holds (ofEvents shoutingList).view) =
        [2, 3] := by
  decide +kernel

end Selector

end MarkupQuery
