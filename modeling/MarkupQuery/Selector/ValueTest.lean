import MarkupQuery.Pattern.Basic
import MarkupQuery.Text.Affix

/-!
Tests on the value of an attribute. All but patterns compare characters as they are, case included.
-/

namespace MarkupQuery

/-- What the value of an attribute has to satisfy. -/
inductive ValueTest where
  /-- Nothing: the attribute is there. -/
  | present
  /-- The value is the operand. -/
  | equals (operand : String)
  /-- The operand is one of the words of the value. -/
  | includes (operand : String)
  /-- The value is the operand, or begins with it and a hyphen. -/
  | dashMatch (operand : String)
  /-- The value begins with the operand. -/
  | startsWith (operand : String)
  /-- The value ends with the operand. -/
  | endsWith (operand : String)
  /-- The operand stands somewhere in the value. -/
  | contains (operand : String)
  /-- The pattern matches somewhere in the value. -/
  | pattern (p : Pattern)

namespace ValueTest

/-- Whether a value passes the test. -/
def accepts (test : ValueTest) (value : String) : Bool :=
  match test with
  | present => true
  | equals operand => value == operand
  | includes operand => (words value.toList).contains operand.toList
  | dashMatch operand => value == operand || (operand.toList ++ ['-']).isPrefixOf value.toList
  | startsWith operand => operand.toList.isPrefixOf value.toList
  | endsWith operand => operand.toList.isSuffixOf value.toList
  | contains operand => occursIn operand.toList value.toList
  | pattern p => p.hits value

/-- Whether two tests are the same, patterns being known by their sources. -/
def same : ValueTest → ValueTest → Bool
  | present, present => true
  | equals a, equals b => a == b
  | includes a, includes b => a == b
  | dashMatch a, dashMatch b => a == b
  | startsWith a, startsWith b => a == b
  | endsWith a, endsWith b => a == b
  | contains a, contains b => a == b
  | pattern p, pattern q => p == q
  | _, _ => false

instance : BEq ValueTest := ⟨same⟩

end ValueTest

end MarkupQuery
