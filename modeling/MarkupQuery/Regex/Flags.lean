import MarkupQuery.Regex.Basic

/-!
The flags under which a part of a regular expression is read.
-/

namespace MarkupQuery.Regex

/-- The flags that change what an expression means. -/
structure Flags where
  /-- Letters stand for their variants in case too. -/
  ignoreCase : Bool := false
  /-- `^` and `$` hold at the ends of lines. -/
  multiLine : Bool := false
  /-- `.` stands for a line feed too. -/
  dotAll : Bool := false

/-- The set, with the variants in case of its members where the flags ask for them. -/
def Flags.adjust (flags : Flags) (set : CharSet) : CharSet :=
  if flags.ignoreCase then .caseless set else set

/-- Switches one flag on or off. -/
def Flags.switch? (flags : Flags) (on : Bool) : Char → Option Flags
  | 'i' => some { flags with ignoreCase := on }
  | 'm' => some { flags with multiLine := on }
  | 's' => some { flags with dotAll := on }
  | 'U' => some flags
  | _ => none

end MarkupQuery.Regex
