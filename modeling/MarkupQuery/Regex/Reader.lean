import MarkupQuery.Regex.Automaton.Size
import MarkupQuery.Regex.Bracketed
import MarkupQuery.Regex.Term

/-!
Reading a regular expression from its text.

The reader goes through the text once. A group that is open is a frame on a stack (`Frame`), so that
nesting needs no recursion, and every step takes at least one character. Flags hold from where they
stand to the end of their group, over the bars of an alternation too.

Main entry: `Regex.ofList?`. What the reader refuses is listed by `Fault`; among it is what lies too
deep inside one another and what would make too large an automaton.
-/

namespace MarkupQuery.Regex

/-! ### Repetitions -/

/-- The largest count that a repetition may ask for. -/
def maxCount : Nat := 4294967295

/-- A count with blanks on either side. -/
def readCount (text : List Char) : Except Fault (Nat × List Char) :=
  let text := text.dropWhile isSpace
  let digits := text.takeWhile Char.isDigit
  if digits.isEmpty || maxCount < decimalNumber digits then .error .badCount
  else .ok (decimalNumber digits, (text.dropWhile Char.isDigit).dropWhile isSpace)

/-- The bounds of a counted repetition, behind its opening brace. -/
def readBounds (text : List Char) : Except Fault ((Nat × Option Nat) × List Char) := do
  match ← readCount text with
  | (n, '\x7d' :: r) => .ok ((n, some n), r)
  | (n, ',' :: '\x7d' :: r) => .ok ((n, none), r)
  | (n, ',' :: r) =>
    match ← readCount r with
    | (m, '\x7d' :: r) => if n ≤ m then .ok ((n, some m), r) else .error .badCount
    | _ => .error .badCount
  | _ => .error .badCount

/-- Whether a repetition is marked as lazy, and the text behind the mark. -/
def lazyMark : List Char → Bool × List Char
  | '?' :: r => (true, r)
  | r => (false, r)

/-! ### Groups -/

/-- What stands behind an opening parenthesis. -/
inductive Opening where
  /-- A group, read under these flags. It has a number if it `captures`. -/
  | group (inside : Flags) (captures : Bool)
  /-- Flags for the rest of the group around them. -/
  | directive (flags : Flags)

/-- Reads flags up to the end of their list. `seen` holds the letters read so far, `on` says
whether a hyphen has not been met. -/
def readFlags (flags : Flags) (on : Bool) (seen : List Char) :
    List Char → Except Fault (Opening × List Char)
  | ')' :: r =>
    if seen.isEmpty then .error .nothingToRepeat
    else if seen.head? = some '-' then .error .unknownGroup
    else .ok (.directive flags, r)
  | ':' :: r =>
    if seen.head? = some '-' then .error .unknownGroup else .ok (.group flags false, r)
  | '-' :: r => if on then readFlags flags false ('-' :: seen) r else .error .unknownGroup
  | c :: r =>
    match flags.switch? on c with
    | some flags =>
      if seen.contains c then .error .unknownGroup else readFlags flags on (c :: seen) r
    | none => .error .unknownGroup
  | [] => .error .unclosedGroup

/-- Whether a character may stand in the name of a group. -/
def isGroupNameChar (first : Bool) (c : Char) : Bool :=
  c == '_' || c.isAlpha || (!first && (c.isDigit || c == '.' || c == '[' || c == ']'))

/-- The end of the name of a group. -/
def skipGroupName (text : List Char) : Except Fault (List Char) :=
  let name := text.takeWhile (· != '>')
  match name, text.dropWhile (· != '>') with
  | c :: cs, _ :: r =>
    if isGroupNameChar true c && cs.all (isGroupNameChar false) then .ok r
    else .error .unknownGroup
  | [], _ :: _ => .error .unknownGroup
  | _, [] => .error .unclosedGroup

/-- Reads what an opening parenthesis opens. -/
def readOpening (flags : Flags) (text : List Char) : Except Fault (Opening × List Char) :=
  match text with
  | '?' :: '=' :: _ | '?' :: '!' :: _ | '?' :: '<' :: '=' :: _ | '?' :: '<' :: '!' :: _ =>
    .error .unknownGroup
  | '?' :: 'P' :: '<' :: r | '?' :: '<' :: r =>
    (skipGroupName r).map fun r => (.group flags true, r)
  | '?' :: r => readFlags flags true [] r
  | r => .ok (.group flags true, r)

/-! ### Expressions -/

/-- The term that a sequence of terms makes up; a single term is itself. -/
def Term.ofSequence : List Term → Term
  | [t] => t
  | ts => .seq ts

/-- The term that the terms between bars make up; where there is no bar it is itself. -/
def Term.ofAlternatives : List Term → Term
  | [t] => t
  | ts => .alt ts

/-- A group whose closing parenthesis has not been read. -/
structure Frame where
  /-- The flags outside the group, which come back behind it. -/
  outside : Flags
  /-- The number of the group, if it has one. -/
  index : Option Nat
  /-- The alternatives read before the last bar outside, last one first. -/
  alternatives : List Term
  /-- The terms since that bar, last one first. -/
  terms : List Term

/-- What the reader knows about the text it has gone through. -/
structure Reader where
  /-- The flags in force. -/
  flags : Flags := {}
  /-- How many groups have a number. -/
  groups : Nat := 0
  /-- The alternatives of the innermost open group, last one first. -/
  alternatives : List Term := []
  /-- The terms of its current alternative, last one first. -/
  terms : List Term := []
  /-- The open groups around it, innermost first. -/
  outer : List Frame := []

namespace Reader

/-- The state with one more term. -/
def push (state : Reader) (t : Term) : Reader :=
  { state with terms := t :: state.terms }

/-- The current alternative of the innermost open group, as far as it has been read. -/
def alternative (state : Reader) : Term :=
  .ofSequence state.terms.reverse

/-- The innermost open group, as far as it has been read. -/
def current (state : Reader) : Term :=
  .ofAlternatives (state.alternative :: state.alternatives).reverse

/-- Repeats the last term. -/
def repeatLast (state : Reader) (least : Nat) (most : Option Nat) (r : List Char) :
    Except Fault (Reader × List Char) :=
  match state.terms with
  | [] | .flags :: _ => .error .nothingToRepeat
  | t :: terms =>
    let (isLazy, r) := lazyMark r
    .ok ({ state with terms := .times t least most isLazy :: terms }, r)

/-- Opens a group. -/
def openGroup (state : Reader) (inside : Flags) (captures : Bool) : Reader :=
  let groups := if captures then state.groups + 1 else state.groups
  let index := if captures then some groups else none
  { flags := inside, groups
    outer := ⟨state.flags, index, state.alternatives, state.terms⟩ :: state.outer }

/-- Reads what begins with the character `c`. -/
def step (state : Reader) (c : Char) (r : List Char) : Except Fault (Reader × List Char) :=
  match c with
  | '(' => do
    match ← readOpening state.flags r with
    | (.directive flags, r) => .ok ({ state with flags, terms := .flags :: state.terms }, r)
    | (.group inside captures, r) => .ok (state.openGroup inside captures, r)
  | ')' =>
    match state.outer with
    | [] => .error .unopenedGroup
    | frame :: outer =>
      let group := Term.group frame.index state.current
      .ok (⟨frame.outside, state.groups, frame.alternatives, group :: frame.terms, outer⟩, r)
  | '|' =>
    let alternatives := state.alternative :: state.alternatives
    .ok ({ state with alternatives, terms := [] }, r)
  | '[' => do
    let (frame, r) := openClass r
    let (part, r) ← readClass state.flags frame [] r
    .ok (state.push (.one part.set part.depth), r)
  | '*' => state.repeatLast 0 none r
  | '+' => state.repeatLast 1 none r
  | '?' => state.repeatLast 0 (some 1) r
  | '\x7b' => do
    let ((least, most), r) ← readBounds r
    state.repeatLast least most r
  | '\\' => do
    match ← readEscape r with
    | (.char c, r) => .ok (state.push (.one (state.flags.adjust (.single c)) 0), r)
    | (.set s, r) => .ok (state.push (.one s 0), r)
    | (.edge e, r) => .ok (state.push (.edge e), r)
  | '.' =>
    let lineFeed : CharSet := if state.flags.dotAll then .none else .single '\n'
    .ok (state.push (.one (.complement lineFeed) 0), r)
  | '^' => .ok (state.push (.edge (if state.flags.multiLine then .lineStart else .textStart)), r)
  | '$' => .ok (state.push (.edge (if state.flags.multiLine then .lineEnd else .textEnd)), r)
  | c => .ok (state.push (.one (state.flags.adjust (.single c)) 0), r)

/-- Reads to the end of the text. -/
def run (state : Reader) (text : List Char) : Except Fault Term :=
  match text with
  | [] => if state.outer.isEmpty then .ok state.current else .error .unclosedGroup
  | c :: r => do
    let (state, r') ← state.step c r
    if r'.length ≤ r.length then state.run r' else .error .unclosedGroup
termination_by text.length

end Reader

/-- The regular expression that the text writes down. -/
def ofList? (text : List Char) : Except Fault Regex := do
  let term ← Reader.run {} text
  if maxDepth < term.depth then .error .tooDeep
  else if !term.form.fits then .error .tooLarge
  else .ok term.regex

end MarkupQuery.Regex
