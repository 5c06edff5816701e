import MarkupQuery.Regex.Basic

/-!
Where a regular expression leads in a text.

A text of `n` characters has `n + 1` places. A set of places is a list of `n + 1` marks, and an
expression sends it to the places that are reached from a marked one by reading a text of the
expression (`Regex.reach`). This counts no place twice, so it takes time polynomial in the text
whatever the expression is. `Regex.occursIn` starts from every place at once.
-/

namespace MarkupQuery.Regex

/-- A mark for each place of a text. -/
abbrev Marks := List Bool

/-- The places that are marked in either set. -/
def Marks.union (a b : Marks) : Marks :=
  List.zipWith (· || ·) a b

/-- The characters on the two sides of each place. -/
def sidesFrom (before : Option Char) : List Char → List (Option Char × Option Char)
  | [] => [(before, none)]
  | c :: r => (before, some c) :: sidesFrom (some c) r

/-- The marked places at which the condition holds. -/
def keepAt (condition : Edge) (text : List Char) (marks : Marks) : Marks :=
  List.zipWith (fun side mark => mark && condition.holds side.1 side.2) (sidesFrom none text) marks

/-- The places behind a character of the set that stands at a marked place. -/
def stepOver (set : CharSet) (text : List Char) (marks : Marks) : Marks :=
  false :: List.zipWith (fun c mark => mark && set.holds c) text marks

/-- What `n` rounds of a map make of a set of places; it stops as soon as a round changes
nothing. -/
def rounds (f : Marks → Marks) : Nat → Marks → Marks
  | 0, marks => marks
  | n + 1, marks =>
    let next := f marks
    if next = marks then marks else rounds f n next

/-- The places reached by at most `n` rounds; it stops as soon as a round adds nothing. -/
def roundsUpTo (f : Marks → Marks) : Nat → Marks → Marks
  | 0, marks => marks
  | n + 1, marks =>
    let more := marks.union (f marks)
    if more = marks then marks else roundsUpTo f n more

/-- The places reached from the marked ones by reading a text of the expression. Rounds beyond the
number of places add none, which bounds a repetition without a limit. -/
def reach (text : List Char) : Regex → Marks → Marks
  | .empty, marks => marks
  | .one set, marks => stepOver set text marks
  | .edge condition, marks => keepAt condition text marks
  | .seq first second, marks => reach text second (reach text first marks)
  | .alt first second, marks => (reach text first marks).union (reach text second marks)
  | .times body least most, marks =>
    let further := (most.map (· - least)).getD (text.length + 1)
    roundsUpTo (reach text body) further (rounds (reach text body) least marks)

/-- Whether a text of the expression stands anywhere in the text. -/
def occursIn (r : Regex) (text : List Char) : Bool :=
  (reach text r (List.replicate (text.length + 1) true)).any id

end MarkupQuery.Regex
