import MarkupQuery.Selector.Formula
import MarkupQuery.Selector.ValueTest
import MarkupQuery.Text.Lowercase

/-!
Selectors: conditions on one node of a tree.

* `Test`: a condition that holds no other.
* `Combinator`: how the two sides of a complex selector are related.
* `Selector`: tests put together by negation, relation, conjunction and disjunction.

The functions that build selectors keep them flat: `inter` drops the universal selector and joins
conjunctions, `union` joins a disjunction with what comes behind it. Names and needles are kept in
small letters.
-/

namespace MarkupQuery

/-- A condition on a node that holds no other selector. -/
inductive Test where
  /-- An element of that tag. -/
  | tag (name : String)
  /-- An element with an attribute of that name whose value passes the test. -/
  | hasAttribute (name : String) (value : ValueTest)
  /-- An element whose number among its peers the formula picks out. -/
  | nthChild (formula : Formula) (last ofType : Bool)
  /-- An element that is alone among its peers. -/
  | onlyChild (ofType : Bool)
  /-- An element without elements or character data right under it. -/
  | empty
  /-- A form control. -/
  | input
  /-- An element under no element. -/
  | root
  /-- An element that leads somewhere. -/
  | link
  /-- A form control that is not disabled. -/
  | enabled
  /-- A form control that is disabled. -/
  | disabled
  /-- A node whose text, in small letters, contains the needle. -/
  | contains (needle : String) (own : Bool)
  /-- A node whose text the pattern matches. -/
  | textMatches (pattern : Pattern) (own : Bool)

/-- How a node is related to another that a selector asks for. -/
inductive Combinator where
  /-- The other is above the node. -/
  | descendant
  /-- The other is the parent of the node. -/
  | child
  /-- The other is the nearest sibling before the node that is neither text nor comment. -/
  | nextSibling
  /-- The other is a sibling before the node. -/
  | subsequentSibling
deriving DecidableEq, Repr

/-- The mark that stands for a combinator in a query. -/
def Combinator.symbol : Combinator → String
  | descendant => " "
  | child => ">"
  | nextSibling => "+"
  | subsequentSibling => "~"

/-- All combinators. -/
def Combinator.all : List Combinator :=
  [descendant, child, nextSibling, subsequentSibling]

/-- A condition on a node. -/
inductive Selector where
  /-- Every node. -/
  | universal
  /-- The nodes that pass a test. -/
  | simple (test : Test)
  /-- The nodes that the selector does not match. -/
  | not (inner : Selector)
  /-- The elements with a match somewhere under them. -/
  | has (inner : Selector)
  /-- The elements with a match right under them. -/
  | hasChild (inner : Selector)
  /-- The nodes that every member matches. -/
  | all (members : List Selector)
  /-- The nodes that some member matches. -/
  | any (members : List Selector)
  /-- The matches of `right` that are related to a match of `left`. -/
  | complex (relation : Combinator) (left right : Selector)

/-! ### Equality -/

/-- Whether two tests are the same, patterns being known by their sources. -/
def Test.same : Test → Test → Bool
  | tag a, tag b => a == b
  | hasAttribute a s, hasAttribute b t => a == b && s == t
  | nthChild f l o, nthChild g m p => f == g && l == m && o == p
  | onlyChild o, onlyChild p => o == p
  | empty, empty | input, input | root, root | link, link => true
  | enabled, enabled | disabled, disabled => true
  | contains a o, contains b p => a == b && o == p
  | textMatches a o, textMatches b p => a == b && o == p
  | _, _ => false

instance : BEq Test := ⟨Test.same⟩

mutual

/-- Whether two selectors are the same, patterns being known by their sources. -/
def Selector.same : Selector → Selector → Bool
  | .universal, .universal => true
  | .simple a, .simple b => a == b
  | .not a, .not b => a.same b
  | .has a, .has b => a.same b
  | .hasChild a, .hasChild b => a.same b
  | .all as, .all bs => Selector.sameMembers as bs
  | .any as, .any bs => Selector.sameMembers as bs
  | .complex c a b, .complex d e f => c == d && a.same e && b.same f
  | _, _ => false

/-- Whether two lists hold the same selectors in the same order. -/
def Selector.sameMembers : List Selector → List Selector → Bool
  | [], [] => true
  | a :: as, b :: bs => a.same b && Selector.sameMembers as bs
  | _, _ => false

end

instance : BEq Selector := ⟨Selector.same⟩

namespace Selector

/-! ### Building selectors -/

/-- The elements of a tag, whatever the case of its letters. -/
def tagged (name : String) : Selector :=
  .simple (.tag (lowercase name))

/-- The elements with an attribute whose value passes the test. -/
def withAttribute (name : String) (value : ValueTest) : Selector :=
  .simple (.hasAttribute (lowercase name) value)

/-- The elements whose attribute `id` is the given one. -/
def withId (id : String) : Selector :=
  withAttribute "id" (.equals id)

/-- The elements whose attribute `class` has the given word. -/
def withClass (name : String) : Selector :=
  withAttribute "class" (.includes name)

/-- The nodes that both selectors match. -/
def inter : Selector → Selector → Selector
  | universal, b => b
  | a, universal => a
  | all as, all bs => all (as ++ bs)
  | all as, b => all (as ++ [b])
  | a, all bs => all (a :: bs)
  | a, b => all [a, b]

/-- The nodes that either selector matches. -/
def union : Selector → Selector → Selector
  | any as, any bs => any (as ++ bs)
  | any as, b => any (as ++ [b])
  | a, b => any [a, b]

/-- The matches of `target` under a match of `ancestor`. -/
def descendant (ancestor target : Selector) : Selector :=
  complex .descendant ancestor target

/-- The matches of `target` right under a match of `parent`. -/
def child (parent target : Selector) : Selector :=
  complex .child parent target

/-- The matches of `target` behind a sibling that `sibling` matches: the nearest that is neither
text nor comment where `adjacent` is set, any of them otherwise. -/
def behind (sibling target : Selector) (adjacent : Bool) : Selector :=
  complex (if adjacent then .nextSibling else .subsequentSibling) sibling target

/-- The elements at the positions that a formula picks out. -/
def nthChild (formula : Formula) (last ofType : Bool) : Selector :=
  simple (.nthChild formula last ofType)

/-- The elements that are alone among their peers. -/
def onlyChild (ofType : Bool) : Selector :=
  simple (.onlyChild ofType)

/-- The nodes whose text contains the needle, whatever the case of its letters. -/
def containing (needle : String) (own : Bool) : Selector :=
  simple (.contains (lowercase needle) own)

/-- The nodes whose text the pattern matches. -/
def textMatching (pattern : Pattern) (own : Bool) : Selector :=
  simple (.textMatches pattern own)

@[simp] theorem inter_universal (a : Selector) : inter a universal = a := by
  cases a <;> rfl

@[simp] theorem universal_inter (a : Selector) : inter universal a = a := by
  cases a <;> rfl

end Selector

end MarkupQuery
