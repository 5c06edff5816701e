import MarkupQuery.Regex.Form
import MarkupQuery.Regex.Nesting

/-!
Regular expressions as they are written.

A term keeps the groups, repetitions and lists of flags of the text it was read from. What it means
and what it costs are read off it:

* `Term.regex`: the expression that decides whether a text matches.
* `Term.form`: the same expression without the redundancies of its spelling.
* `Term.depth`: how deep its parts lie inside one another.
-/

namespace MarkupQuery.Regex

/-- A regular expression as it is written, flags resolved. -/
inductive Term where
  /-- A list of flags, which stands for the empty text and cannot be repeated. -/
  | flags
  /-- One character of a set, written with brackets this deep. -/
  | one (set : CharSet) (depth : Nat)
  /-- A condition on a place. -/
  | edge (condition : Edge)
  /-- A repetition, from `least` to `most` times. -/
  | times (body : Term) (least : Nat) (most : Option Nat) (isLazy : Bool)
  /-- A group, with a number unless it is only there to hold its parts together. -/
  | group (index : Option Nat) (body : Term)
  /-- Terms one after another. -/
  | seq (terms : List Term)
  /-- Terms between bars. -/
  | alt (terms : List Term)

namespace Term

mutual

/-- How deep the parts of the term lie inside one another. -/
def depth : Term → Nat
  | .flags => 0
  | .one _ depth => depth
  | .edge _ => 0
  | .times body _ _ _ => body.depth + 1
  | .group _ body => body.depth + 1
  | .seq terms => rowDepth (depths terms)
  | .alt terms => rowDepth (depths terms)

/-- The depths of the terms. -/
def depths : List Term → List Nat
  | [] => []
  | t :: ts => t.depth :: depths ts

end

mutual

/-- The texts that the term stands for. -/
def regex : Term → Regex
  | .flags => .empty
  | .one set _ => .one set
  | .edge condition => .edge condition
  | .times body least most _ => .times body.regex least most
  | .group _ body => body.regex
  | .seq terms => seqAll (regexes terms)
  | .alt terms =>
    match regexes terms with
    | [] => .one .none
    | r :: rs => altAll r rs

/-- The texts that each of the terms stands for. -/
def regexes : List Term → List Regex
  | [] => []
  | t :: ts => t.regex :: regexes ts

end

mutual

/-- The term without the redundancies of its spelling. -/
def form : Term → Form
  | .flags => .empty
  | .one set _ => .ofRanges set.ranges
  | .edge condition => .edge condition
  | .times body least most isLazy => .repeated body.form least most isLazy
  | .group (some index) body => .capture index body.form
  | .group none body => body.form
  | .seq terms => .sequence (forms terms)
  | .alt terms => .choice (forms terms)

/-- The forms of the terms. -/
def forms : List Term → List Form
  | [] => []
  | t :: ts => t.form :: forms ts

end

end Term

end MarkupQuery.Regex
