import MarkupQuery.Selector.Basic

/-!
Selectors as data for other tools.

An `Outline` is made of words, numbers, flags, lists and labelled fields. `Selector.outline` writes
a selector so that nothing but the tests of its patterns is lost: every construction has a label of
its own, one without parts is its label alone, and a pattern is its source.
-/

namespace MarkupQuery

/-- Data that a tool can read without knowing what it describes. -/
inductive Outline where
  /-- A word or a text. -/
  | text (s : String)
  /-- A number. -/
  | number (n : Int)
  /-- A yes or a no. -/
  | flag (b : Bool)
  /-- A list. -/
  | items (members : List Outline)
  /-- Parts with a label each. -/
  | fields (parts : List (String × Outline))

/-- A construction with one part. -/
def Outline.labelled (label : String) (part : Outline) : Outline :=
  .fields [(label, part)]

/-- The outline of a formula. -/
def Formula.outline (f : Formula) : Outline :=
  .fields [("a", .number f.step.toInt), ("b", .number f.offset.toInt)]

/-- The outline of a test on a value. -/
def ValueTest.outline : ValueTest → Outline
  | present => .text "Exists"
  | equals operand => .labelled "Equals" (.text operand)
  | includes operand => .labelled "Includes" (.text operand)
  | dashMatch operand => .labelled "DashMatch" (.text operand)
  | startsWith operand => .labelled "PrefixMatch" (.text operand)
  | endsWith operand => .labelled "SuffixMatch" (.text operand)
  | contains operand => .labelled "SubstringMatch" (.text operand)
  | pattern p => .labelled "Regex" (.text p.source)

/-- The outline of a pseudo-class with no selector inside. -/
def Outline.pseudoClass (part : Outline) : Outline :=
  .labelled "PseudoClass" part

/-- The outline of a test. -/
def Test.outline : Test → Outline
  | tag name => .labelled "Type" (.text name)
  | hasAttribute name value =>
    .labelled "Attribute" (.fields [("name", .text name), ("matcher", value.outline)])
  | nthChild formula last ofType =>
    .pseudoClass (.labelled "NthChild"
      (.fields [("formula", formula.outline), ("last", .flag last), ("of_type", .flag ofType)]))
  | onlyChild ofType =>
    .pseudoClass (.labelled "OnlyChild" (.fields [("of_type", .flag ofType)]))
  | empty => .pseudoClass (.text "Empty")
  | input => .pseudoClass (.text "Input")
  | root => .pseudoClass (.text "Root")
  | link => .pseudoClass (.text "Link")
  | enabled => .pseudoClass (.text "Enabled")
  | disabled => .pseudoClass (.text "Disabled")
  | contains needle own =>
    .pseudoClass (.labelled "Contains" (.fields [("text", .text needle), ("own", .flag own)]))
  | textMatches pattern own =>
    .pseudoClass (.labelled "Matches"
      (.fields [("pattern", .text pattern.source), ("own", .flag own)]))

/-- The outline of a combinator. -/
def Combinator.outline : Combinator → Outline
  | descendant => .text "Descendant"
  | child => .text "Child"
  | nextSibling => .text "NextSibling"
  | subsequentSibling => .text "SubsequentSibling"

mutual

/-- The outline of a selector. -/
def Selector.outline : Selector → Outline
  | .universal => .text "Universal"
  | .simple test => test.outline
  | .not inner => .labelled "Not" inner.outline
  | .has inner => .pseudoClass (.labelled "Has" inner.outline)
  | .hasChild inner => .pseudoClass (.labelled "HasChild" inner.outline)
  | .all members => .labelled "And" (.items (Selector.outlines members))
  | .any members => .labelled "Or" (.items (Selector.outlines members))
  | .complex relation left right =>
    .labelled "Complex" (.fields
      [("combinator", relation.outline), ("left", left.outline), ("right", right.outline)])

/-- The outlines of a list of selectors. -/
def Selector.outlines : List Selector → List Outline
  | [] => []
  | s :: ss => s.outline :: Selector.outlines ss

end

end MarkupQuery
