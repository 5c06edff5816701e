/-!
What can be wrong with the text of a regular expression.
-/

namespace MarkupQuery.Regex

/-- Why a text is no regular expression. -/
inductive Fault where
  /-- A repetition with nothing before it to repeat. -/
  | nothingToRepeat
  /-- A counted repetition that is not written out or counts down. -/
  | badCount
  /-- A group without its closing parenthesis. -/
  | unclosedGroup
  /-- A closing parenthesis without its group. -/
  | unopenedGroup
  /-- A group that looks around, or whose opening is not understood. -/
  | unknownGroup
  /-- A class without its closing bracket. -/
  | unclosedClass
  /-- A range in a class whose ends are in the wrong order or no characters. -/
  | badRange
  /-- A backslash at the end or before a character that has no meaning there. -/
  | badEscape
  /-- A numeric escape that is cut short or whose number is that of no character. -/
  | badNumber
  /-- Parts that lie too deep inside one another. -/
  | tooDeep
  /-- An expression whose automaton would be too large. -/
  | tooLarge
deriving DecidableEq

/-- The fault in words. -/
def Fault.message : Fault → String
  | nothingToRepeat => "repetition of nothing"
  | badCount => "malformed repetition count"
  | unclosedGroup => "unclosed group"
  | unopenedGroup => "unopened group"
  | unknownGroup => "unsupported group"
  | unclosedClass => "unclosed character class"
  | badRange => "invalid character range"
  | badEscape => "unrecognized escape"
  | badNumber => "invalid character number"
  | tooDeep => "nested too deeply"
  | tooLarge => "too large"

end MarkupQuery.Regex
