import MarkupQuery.Regex.Escape
import MarkupQuery.Regex.Flags
import MarkupQuery.Regex.Nesting

/-!
Character classes in brackets.

A class lists its members: characters, ranges, escapes, named classes (`namedClass`) and classes in
brackets of their own. Operators between lists of members combine what stands on their two sides,
from left to right (`SetOperator`). The reader goes through the text once; a class that is open is a
frame on a stack (`ClassFrame`), so that nesting needs no recursion.

Main entry: `readClass`, behind `openClass`.
-/

namespace MarkupQuery.Regex

/-! ### Named classes -/

/-- The ASCII letters. -/
def asciiLetters : CharSet :=
  .union (.range 'A' 'Z') (.range 'a' 'z')

/-- The ASCII punctuation. -/
def asciiPunctuation : CharSet :=
  .unionAll [.range '!' '/', .range ':' '@', .range '[' '\x60', .range '\x7b' '~']

/-- The classes that have a name. All their members are ASCII. -/
def namedSet? (name : String) : Option CharSet :=
  match name with
  | "alnum" => some (.union (.range '0' '9') asciiLetters)
  | "alpha" => some asciiLetters
  | "ascii" => some (.range '\x00' '\x7f')
  | "blank" => some (.union (.single '\t') (.single ' '))
  | "cntrl" => some (.union (.range '\x00' '\x1f') (.single '\x7f'))
  | "digit" => some (.range '0' '9')
  | "graph" => some (.range '!' '~')
  | "lower" => some (.range 'a' 'z')
  | "print" => some (.range ' ' '~')
  | "punct" => some asciiPunctuation
  | "space" => some (.union (.range '\t' '\r') (.single ' '))
  | "upper" => some (.range 'A' 'Z')
  | "word" => some (.unionAll [.range '0' '9', asciiLetters, .single '_'])
  | "xdigit" => some (.unionAll [.range '0' '9', .range 'A' 'F', .range 'a' 'f'])
  | _ => none

/-- A class given by its name between `[:` and `:]`, behind the bracket. A caret before the name
makes it the complement. -/
def namedClass (flags : Flags) (text : List Char) : Option (CharSet × List Char) :=
  match text with
  | ':' :: r =>
    let (negated, r) := match r with
      | '^' :: r => (true, r)
      | r => (false, r)
    match r.dropWhile (· != ':') with
    | ':' :: ']' :: rest =>
      (namedSet? (String.ofList (r.takeWhile (· != ':')))).map fun set =>
        (if negated then .complement (flags.adjust set) else flags.adjust set, rest)
    | _ => none
  | _ => none

/-! ### Members -/

/-- One end of a range, or a member of its own. -/
def classItem (text : List Char) : Except Fault (Escape × List Char) :=
  match text with
  | [] => .error .unclosedClass
  | '\\' :: r => readEscape r
  | c :: r => .ok (.char c, r)

/-- The end of a range, and the text behind it. -/
def rangeEnd (text : List Char) : Except Fault (Char × List Char) := do
  match ← classItem text with
  | (.char last, r) => .ok (last, r)
  | _ => .error .badRange

/-- A member of a class: a range, a character or a named class. A hyphen before the closing bracket
or another hyphen makes no range. -/
def classMember (text : List Char) : Except Fault (CharSet × List Char) := do
  let (item, r) ← classItem text
  match item, r with
  | _, [] => .error .unclosedClass
  | .edge _, _ => .error .badEscape
  | .char c, '-' :: ']' :: _ => .ok (.single c, r)
  | .char c, '-' :: '-' :: _ => .ok (.single c, r)
  | .char first, '-' :: r' =>
    let (last, rest) ← rangeEnd r'
    if first ≤ last then .ok (.range first last, rest) else .error .badRange
  | .char c, _ => .ok (.single c, r)
  | .set s, '-' :: ']' :: _ => .ok (s, r)
  | .set s, '-' :: '-' :: _ => .ok (s, r)
  | .set _, '-' :: _ => .error .badRange
  | .set s, _ => .ok (s, r)

/-! ### Classes -/

/-- An operator between two lists of members. -/
inductive SetOperator where
  /-- The members of both. -/
  | inter
  /-- The members of the first that the second leaves out. -/
  | diff
  /-- The members of exactly one. -/
  | symmDiff

/-- The set that an operator makes of its two sides. -/
def SetOperator.apply : SetOperator → CharSet → CharSet → CharSet
  | .inter, a, b => a.inter b
  | .diff, a, b => a.diff b
  | .symmDiff, a, b => a.symmDiff b

/-- A part of a class: its set, and how deep the parts in it lie inside one another. -/
structure ClassPart where
  /-- The set that the part stands for. -/
  set : CharSet
  /-- The depth of the part. -/
  depth : Nat

/-- The part that is a list of members. -/
def ClassPart.ofMembers (members : List ClassPart) : ClassPart :=
  ⟨.unionAll (members.map (·.set)), rowDepth (members.map (·.depth))⟩

/-- A class whose closing bracket has not been read. -/
structure ClassFrame where
  /-- Whether the class holds what its members leave out. -/
  negated : Bool
  /-- What stands before the last operator, and the operator. -/
  left : Option (ClassPart × SetOperator)
  /-- The members read since, last one first. -/
  members : List ClassPart

namespace ClassFrame

/-- The class with one more member. -/
def add (frame : ClassFrame) (part : ClassPart) : ClassFrame :=
  { frame with members := part :: frame.members }

/-- All that the class lists so far. -/
def content (flags : Flags) (frame : ClassFrame) : ClassPart :=
  let right := ClassPart.ofMembers frame.members
  match frame.left with
  | none => right
  | some (left, op) =>
    ⟨op.apply (flags.adjust left.set) (flags.adjust right.set), max left.depth right.depth + 1⟩

/-- The class behind an operator. -/
def operator (flags : Flags) (frame : ClassFrame) (op : SetOperator) : ClassFrame :=
  { frame with left := some (frame.content flags, op), members := [] }

/-- The part that a class is once it is closed. -/
def close (flags : Flags) (frame : ClassFrame) : ClassPart :=
  let content := frame.content flags
  let set := flags.adjust content.set
  ⟨if frame.negated then .complement set else set, content.depth + 1⟩

end ClassFrame

/-- The hyphens at the start of a class, or a bracket there, stand for themselves. -/
def leadingMembers (text : List Char) : List ClassPart × List Char :=
  match text.takeWhile (· == '-'), text.dropWhile (· == '-') with
  | [], ']' :: r => ([⟨.single ']', 0⟩], r)
  | hyphens, r => (hyphens.map fun c => ⟨.single c, 0⟩, r)

/-- Opens a class behind its bracket. -/
def openClass (text : List Char) : ClassFrame × List Char :=
  match text with
  | '^' :: r => let (members, r) := leadingMembers r; (⟨true, none, members⟩, r)
  | r => let (members, r) := leadingMembers r; (⟨false, none, members⟩, r)

/-- Reads the rest of a class, given the open classes it lies in, innermost first. -/
def readClass (flags : Flags) (frame : ClassFrame) (outer : List ClassFrame) (text : List Char) :
    Except Fault (ClassPart × List Char) :=
  match text with
  | [] => .error .unclosedClass
  | ']' :: r =>
    match outer with
    | [] => .ok (frame.close flags, r)
    | up :: outer => readClass flags (up.add (frame.close flags)) outer r
  | '[' :: r =>
    match namedClass flags r with
    | some (set, r') =>
      if r'.length ≤ r.length then readClass flags (frame.add ⟨set, 0⟩) outer r'
      else .error .unclosedClass
    | none =>
      let (inner, r') := openClass r
      if r'.length ≤ r.length then readClass flags inner (frame :: outer) r'
      else .error .unclosedClass
  | '&' :: '&' :: r => readClass flags (frame.operator flags .inter) outer r
  | '-' :: '-' :: r => readClass flags (frame.operator flags .diff) outer r
  | '~' :: '~' :: r => readClass flags (frame.operator flags .symmDiff) outer r
  | c :: r => do
    let (member, r') ← classMember (c :: r)
    if r'.length < (c :: r).length then readClass flags (frame.add ⟨member, 0⟩) outer r'
    else .error .unclosedClass
termination_by text.length
decreasing_by all_goals simp_all; try omega

end MarkupQuery.Regex
