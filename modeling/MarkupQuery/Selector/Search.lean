import MarkupQuery.Selector.Matching

/-!
Running a selector over a tree or a list of nodes.

* `matchAll`: all matches under a node, in document order, the node itself first if it is asked for.
  They are collected on the way down (`collect`), and come to the descendants that match
  (`matchAll_eq_filter`).
* `matchFirst`: the first of them, found without looking further; the node itself is tested first.
* `keep` and `drop`: the members of a list that match and those that do not, in their order.
-/

namespace MarkupQuery.Selector

variable {N : Type} [BEq N]

/-- Puts the matches at most `n` levels under a node behind what was found before. -/
def collect (s : Selector) (v : View N) : Nat → N → Array N → Array N
  | 0, _, found => found
  | n + 1, x, found =>
    (v.children x).foldl
      (fun found y => collect s v n y (if s.holds v y then found.push y else found)) found

/-- The matches under a node in document order, with the node itself where `self` is set. -/
def matchAll (s : Selector) (v : View N) (x : N) (self : Bool) : List N :=
  (s.collect v v.size x (if self && s.holds v x then #[x] else #[])).toList

/-- The first match among a node and what is at most `n` levels under it. -/
def firstUnder (s : Selector) (v : View N) : Nat → N → Option N
  | 0, x => if s.holds v x then some x else none
  | n + 1, x => if s.holds v x then some x else (v.children x).findSome? (firstUnder s v n)

/-- The first match in document order among a node and what is under it. -/
def matchFirst (s : Selector) (v : View N) (x : N) : Option N :=
  s.firstUnder v v.size x

/-- The nodes of a list that match, in their order. -/
def keep (s : Selector) (v : View N) (nodes : List N) : List N :=
  nodes.filter (s.holds v)

/-- The nodes of a list that do not match, in their order. -/
def drop (s : Selector) (v : View N) (nodes : List N) : List N :=
  nodes.filter fun x => !s.holds v x

/-- What is collected under a node are the matches among what is under it, in document order. -/
theorem toList_collect (s : Selector) (v : View N) (n : Nat) (x : N) (found : Array N) :
    (s.collect v n x found).toList = found.toList ++ (v.under n x).filter (s.holds v) := by
  induction n generalizing x found with
  | zero => simp [collect, View.under]
  | succ n ih =>
    rw [collect, View.under, List.filter_flatMap]
    induction v.children x generalizing found with
    | nil => simp
    | cons y ys ihys =>
      rw [List.foldl_cons, ihys, ih, List.flatMap_cons, List.filter_cons]
      split <;> simp

/-- The matches under a node are the descendants that match, behind the node itself. -/
theorem matchAll_eq_filter (s : Selector) (v : View N) (x : N) (self : Bool) :
    s.matchAll v x self = ((if self then [x] else []) ++ v.descendants x).filter (s.holds v) := by
  have hstart : (if self && s.holds v x then #[x] else #[]).toList =
      (if self then [x] else []).filter (s.holds v) := by
    cases self with
    | false => rfl
    | true =>
      rw [Bool.true_and, if_pos rfl, List.filter_cons]
      split <;> rfl
  rw [matchAll, toList_collect, hstart, List.filter_append, View.descendants]

end MarkupQuery.Selector
