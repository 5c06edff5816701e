import MarkupQuery.Query.Formula
import MarkupQuery.Query.Operand
import MarkupQuery.Selector.Basic

/-!
The grammar of queries.

    list      :=  complex ("," complex)*
    complex   :=  compound (combinator compound)*
    compound  :=  ("*" | tag)? (id | class | attribute | pseudo-class)*

A pseudo-class may hold a list in parentheses. The rules `compoundWith`, `complexWith` and
`listWith` therefore take the rule for such a list as an argument, `nested`, and `selectorList` is
the rule that is its own argument. A list inside another begins behind the start of the outer one,
so this comes to an end.
-/

namespace MarkupQuery.Query

/-! ### Attributes -/

/-- The operators that compare the value of an attribute with a text. -/
inductive TextOperator where
  /-- Written `=`. -/
  | equals
  /-- Written `~=`. -/
  | includes
  /-- Written `|=`. -/
  | dashMatch
  /-- Written `^=`. -/
  | startsWith
  /-- Written `$=`. -/
  | endsWith
  /-- Written `*=`. -/
  | contains
deriving DecidableEq, Repr

/-- The test of an operator with its operand. -/
def TextOperator.test : TextOperator → String → ValueTest
  | equals => .equals
  | includes => .includes
  | dashMatch => .dashMatch
  | startsWith => .startsWith
  | endsWith => .endsWith
  | contains => .contains

/-- The operators that may follow the name of an attribute. -/
inductive Operator where
  /-- The operand is a string or an identifier. -/
  | text (operator : TextOperator)
  /-- The operand is a pattern. -/
  | pattern
deriving DecidableEq, Repr

/-- The operator that a character before the equals sign makes. -/
def Operator.ofSymbol? : Char → Option Operator
  | '~' => some (.text .includes)
  | '|' => some (.text .dashMatch)
  | '^' => some (.text .startsWith)
  | '$' => some (.text .endsWith)
  | '*' => some (.text .contains)
  | '#' => some .pattern
  | _ => none

/-- An operator. -/
def operator : Rule Operator
  | [] => failAt .unexpectedEnd []
  | '=' :: r => .ok (.text .equals, r)
  | c :: r =>
    match Operator.ofSymbol? c, r with
    | some op, '=' :: rest => .ok (op, rest)
    | some _, [] => failAt .unexpectedEnd (c :: r)
    | _, _ => failAt .unexpectedToken (c :: r)

/-- The operand of an operator. -/
def operand (engine : Engine) : Operator → Rule ValueTest
  | .text op, text => (stringOrIdentifier text).map fun (s, rest) => (op.test s, rest)
  | .pattern, text => (patternOperand engine text).map fun (p, rest) => (.pattern p, rest)

/-- The end of an attribute selector, behind its operand. -/
def closeBracket (text : List Char) : Except Failure (List Char) :=
  match skipBlank text with
  | ']' :: rest => .ok rest
  | rest => unexpected rest

/-- An attribute selector behind its opening bracket. -/
def attributeSelector (engine : Engine) : Rule Selector := fun text => do
  let (key, rest) ← identifier (skipBlank text)
  match skipBlank rest with
  | [] => failAt .unexpectedEnd []
  | ']' :: rest => .ok (.withAttribute key .present, rest)
  | rest => do
    let (op, rest) ← operator rest
    let (value, rest) ← operand engine op (skipBlank rest)
    let rest ← closeBracket rest
    .ok (.withAttribute key value, rest)

/-! ### Pseudo-classes -/

/-- What a pseudo-class makes of a selector. -/
inductive Wrapper where
  /-- Its negation. -/
  | not
  /-- The elements with a match somewhere under them. -/
  | has
  /-- The elements with a match right under them. -/
  | hasChild
deriving DecidableEq, Repr

/-- The selector around another. -/
def Wrapper.wrap : Wrapper → Selector → Selector
  | not => .not
  | has => .has
  | hasChild => .hasChild

/-- What a pseudo-class takes between parentheses. -/
inductive PseudoClass where
  /-- A list of selectors. -/
  | wrapper (w : Wrapper)
  /-- A text to look for. -/
  | contains (own : Bool)
  /-- A pattern. -/
  | textMatches (own : Bool)
  /-- A formula. -/
  | nthChild (last ofType : Bool)
  /-- Nothing, and it has no parentheses. -/
  | plain (test : Test)

/-- The pseudo-class of a name in small letters. -/
def PseudoClass.ofName? : String → Option PseudoClass
  | "not" => some (.wrapper .not)
  | "has" => some (.wrapper .has)
  | "haschild" => some (.wrapper .hasChild)
  | "contains" => some (.contains false)
  | "containsown" => some (.contains true)
  | "matches" => some (.textMatches false)
  | "matchesown" => some (.textMatches true)
  | "nth-child" => some (.nthChild false false)
  | "nth-last-child" => some (.nthChild true false)
  | "nth-of-type" => some (.nthChild false true)
  | "nth-last-of-type" => some (.nthChild true true)
  | "first-child" => some (.plain (.nthChild .first false false))
  | "last-child" => some (.plain (.nthChild .first true false))
  | "first-of-type" => some (.plain (.nthChild .first false true))
  | "last-of-type" => some (.plain (.nthChild .first true true))
  | "only-child" => some (.plain (.onlyChild false))
  | "only-of-type" => some (.plain (.onlyChild true))
  | "input" => some (.plain .input)
  | "empty" => some (.plain .empty)
  | "root" => some (.plain .root)
  | "link" => some (.plain .link)
  | "enabled" => some (.plain .enabled)
  | "disabled" => some (.plain .disabled)
  | _ => none

/-- The argument of a pseudo-class, between parentheses and blanks. -/
def parenthesized {α : Type} (rule : Rule α) : Rule α := fun text =>
  match text with
  | '(' :: rest => do
    let (value, rest) ← rule (skipBlank rest)
    match skipBlank rest with
    | ')' :: rest => .ok (value, rest)
    | rest => unexpected rest
  | rest => unexpected rest

/-- The argument of a pseudo-class, and the selector that comes of it. -/
def PseudoClass.argument (engine : Engine) (nested : Rule Selector) : PseudoClass → Rule Selector
  | wrapper w, text => (parenthesized nested text).map fun (s, rest) => (w.wrap s, rest)
  | contains own, text =>
    (parenthesized stringOrIdentifier text).map fun (s, rest) => (.containing s own, rest)
  | textMatches own, text =>
    (parenthesized (patternOperand engine) text).map fun (p, rest) => (.textMatching p own, rest)
  | nthChild last ofType, text =>
    (parenthesized formula text).map fun (f, rest) => (.nthChild f last ofType, rest)
  | plain test, text => .ok (.simple test, text)

/-- A pseudo-class behind its colon. -/
def pseudoClass (engine : Engine) (nested : Rule Selector) : Rule Selector := fun text => do
  let (name, rest) ← identifier text
  match PseudoClass.ofName? (lowercase name) with
  | some p => p.argument engine nested rest
  | none => failAt .unexpectedToken text

/-! ### Compounds, complexes and lists -/

/-- An id, a class, an attribute or a pseudo-class, if one comes next. -/
def qualifier (engine : Engine) (nested : Rule Selector) : Step Selector
  | '#' :: r => (name r).map fun (id, rest) => some (.withId id, rest)
  | '.' :: r => (name r).map fun (word, rest) => some (.withClass word, rest)
  | '[' :: r => Rule.found (attributeSelector engine) r
  | ':' :: r => Rule.found (pseudoClass engine nested) r
  | _ => .ok none

/-- Whether a qualifier begins with the character. -/
def beginsQualifier (c : Char) : Bool :=
  c == '#' || c == '.' || c == '[' || c == ':'

/-- The head of a compound: a star, a tag, or nothing where a qualifier comes. -/
def compoundHead : Rule Selector
  | [] => failAt .unexpectedEnd []
  | c :: r =>
    if c = '*' then .ok (.universal, r)
    else if beginsQualifier c then .ok (.universal, c :: r)
    else (identifier (c :: r)).map fun (name, rest) => (.tagged name, rest)

/-- A head and its qualifiers, all of which have to match. -/
def compoundWith (engine : Engine) (nested : Rule Selector) : Rule Selector := fun text => do
  let (head, rest) ← compoundHead text
  let (qualifiers, rest) ← many (qualifier engine nested) rest
  .ok (qualifiers.foldl .inter head, rest)

/-- The combinator that stands between two compounds, and the text from the second one on. `text`
begins where the first one ends. Blanks alone are the descendant combinator, and nothing is none. -/
def combinator? (text : List Char) : Option (Combinator × List Char) :=
  match skipBlank text with
  | [] | ',' :: _ | ')' :: _ => none
  | '>' :: r => some (.child, skipBlank r)
  | '+' :: r => some (.nextSibling, skipBlank r)
  | '~' :: r => some (.subsequentSibling, skipBlank r)
  | rest => if rest.length < text.length then some (.descendant, rest) else none

/-- A combinator and the compound behind it, if one comes next. -/
def link (engine : Engine) (nested : Rule Selector) : Step (Combinator × Selector) := fun text =>
  match combinator? text with
  | none => .ok none
  | some (relation, rest) =>
    (compoundWith engine nested rest).map fun (right, rest) => some ((relation, right), rest)

/-- Compounds joined by combinators, grouped to the left, with the blanks around them. -/
def complexWith (engine : Engine) (nested : Rule Selector) : Rule Selector := fun text => do
  let (first, rest) ← compoundWith engine nested (skipBlank text)
  let (links, rest) ← many (link engine nested) rest
  .ok (links.foldl (fun left (relation, right) => .complex relation left right) first,
    skipBlank rest)

/-- A comma and the complex behind it, if one comes next. -/
def alternative (engine : Engine) (nested : Rule Selector) : Step Selector
  | ',' :: r => Rule.found (complexWith engine nested) r
  | _ => .ok none

/-- Complexes between commas, any of which may match. -/
def listWith (engine : Engine) (nested : Rule Selector) : Rule Selector := fun text => do
  let (first, rest) ← complexWith engine nested text
  let (others, rest) ← many (alternative engine nested) rest
  .ok (others.foldl .union first, rest)

/-- A list of selectors, as it stands in a query and in the parentheses of a pseudo-class. -/
def selectorList (engine : Engine) (text : List Char) : Except Failure (Selector × List Char) :=
  listWith engine
    (fun inner =>
      if inner.length < text.length then selectorList engine inner
      else failAt .unexpectedToken inner)
    text
termination_by text.length

/-- A compound selector. -/
def compound (engine : Engine) : Rule Selector :=
  compoundWith engine (selectorList engine)

/-- A complex selector. -/
def complex (engine : Engine) : Rule Selector :=
  complexWith engine (selectorList engine)

end MarkupQuery.Query
