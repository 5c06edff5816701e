import MarkupQuery.Query.Blank
import MarkupQuery.Query.Name
import MarkupQuery.Selector.Formula
import MarkupQuery.Text.Lowercase

/-!
The grammar of formulas: `odd`, `even`, `B`, `An`, `An+B`, `An-B`, `n`, `-n+B`, with blanks around
the sign of `B`. No number may be above 2147483647. A formula never ends a query: something has to
come behind it.
-/

namespace MarkupQuery.Query

/-- The largest number in a formula. -/
def maxFormulaNumber : Nat := 2147483647

/-- A number without a sign. -/
def formulaNumber : Rule Nat := fun text =>
  let digits := text.takeWhile Char.isDigit
  if digits.isEmpty || maxFormulaNumber < decimalNumber digits then failAt .expectedNumber text
  else .ok (decimalNumber digits, text.dropWhile Char.isDigit)

/-- The number, negated where `negative` is set. -/
def signed (negative : Bool) (n : Nat) : Int64 :=
  Int64.ofInt (if negative then -(n : Int) else n)

/-- The offset behind the step of a formula, zero where there is none. -/
def formulaOffset : Rule Int64 := fun text =>
  match skipBlank text with
  | [] => failAt .unexpectedEnd []
  | '+' :: r => (formulaNumber (skipBlank r)).map fun (n, rest) => (signed false n, rest)
  | '-' :: r => (formulaNumber (skipBlank r)).map fun (n, rest) => (signed true n, rest)
  | rest => .ok (0, rest)

/-- Whether the character marks the step of a formula. -/
def isStepMark (c : Char) : Bool :=
  c == 'n' || c == 'N'

/-- What follows the mark of the step. -/
def formulaOfStep (step : Int64) : Rule Formula := fun text =>
  (formulaOffset text).map fun (offset, rest) => (⟨step, offset⟩, rest)

/-- A formula behind its sign. -/
def unsignedFormula (negative : Bool) : Rule Formula
  | [] => failAt .unexpectedEnd []
  | c :: r =>
    if c.isDigit then do
      let (n, rest) ← formulaNumber (c :: r)
      match rest with
      | [] => failAt .unexpectedEnd []
      | d :: rest =>
        if isStepMark d then formulaOfStep (signed negative n) rest
        else .ok (⟨0, signed negative n⟩, d :: rest)
    else if isStepMark c then formulaOfStep (signed negative 1) r
    else failAt .unexpectedToken (c :: r)

/-- The formula of a word. -/
def formulaOfWord? (word : String) : Option Formula :=
  match lowercase word with
  | "odd" => some .odd
  | "even" => some .even
  | _ => none

/-- A formula that is one word. -/
def formulaWord : Rule Formula := fun text => do
  let (word, rest) ← name text
  match formulaOfWord? word with
  | some formula => .ok (formula, rest)
  | none => failAt .unexpectedToken text

/-- A formula. -/
def formula : Rule Formula
  | [] => failAt .unexpectedEnd []
  | '-' :: r => unsignedFormula true r
  | '+' :: r => unsignedFormula false r
  | c :: r =>
    if c.isDigit || isStepMark c then unsignedFormula false (c :: r)
    else if "oOeE".toList.contains c then formulaWord (c :: r)
    else failAt .unexpectedToken (c :: r)

end MarkupQuery.Query
