import MarkupQuery.Regex.CharRanges

/-!
Regular expressions without the redundancies of their spelling.

Sequences and choices are flat, neighbouring characters are one literal, a choice of single
characters is a set, and what all branches of a choice begin with stands before it. The operations
that build a form keep it so:

* `Form.ofRanges`, `Form.repeated`, `Form.sequence`, `Form.choice`.

Two measures say how short and how long the texts of a form are: `Form.minLength`, `Form.maxLength`.
-/

namespace MarkupQuery.Regex

/-- A regular expression without redundancies. -/
inductive Form where
  /-- The empty text. -/
  | empty
  /-- These characters. -/
  | literal (chars : List Char)
  /-- One character of the ranges. -/
  | set (ranges : Ranges)
  /-- The empty text, at a place where the condition holds. -/
  | edge (condition : Edge)
  /-- A repetition, from `least` to `most` times. -/
  | times (body : Form) (least : Nat) (most : Option Nat) (isLazy : Bool)
  /-- A numbered group. -/
  | capture (index : Nat) (body : Form)
  /-- Parts one after another. -/
  | seq (parts : List Form)
  /-- One of several branches. -/
  | alt (branches : List Form)

namespace Form

/-! ### Equality -/

mutual

/-- Whether two forms are the same. -/
def same : Form → Form → Bool
  | .empty, .empty => true
  | .literal a, .literal b => a == b
  | .set a, .set b => a == b
  | .edge a, .edge b => a == b
  | .times a m n l, .times b m' n' l' => m == m' && n == n' && l == l' && same a b
  | .capture i a, .capture j b => i == j && same a b
  | .seq a, .seq b => sameAll a b
  | .alt a, .alt b => sameAll a b
  | _, _ => false

/-- Whether two lists of forms are the same. -/
def sameAll : List Form → List Form → Bool
  | [], [] => true
  | a :: as, b :: bs => same a b && sameAll as bs
  | _, _ => false

end

/-! ### Lengths -/

mutual

/-- The number of characters in the shortest text of a form, if it has a text. -/
def minLength : Form → Option Nat
  | .empty => some 0
  | .literal chars => some chars.length
  | .set [] => none
  | .set (_ :: _) => some 1
  | .edge _ => some 0
  | .times body least _ _ => body.minLength.map (· * least)
  | .capture _ body => body.minLength
  | .seq parts => (minLengths parts).map List.sum
  | .alt branches => (minLengths branches).bind List.min?

/-- The shortest lengths of forms that all have a text. -/
def minLengths : List Form → Option (List Nat)
  | [] => some []
  | f :: fs =>
    match f.minLength, minLengths fs with
    | some n, some ns => some (n :: ns)
    | _, _ => none

end

mutual

/-- The number of characters in the longest text of a form, if there is a longest one. -/
def maxLength : Form → Option Nat
  | .empty => some 0
  | .literal chars => some chars.length
  | .set [] => none
  | .set (_ :: _) => some 1
  | .edge _ => some 0
  | .times body _ most _ =>
    match body.maxLength, most with
    | some n, some m => some (n * m)
    | _, _ => none
  | .capture _ body => body.maxLength
  | .seq parts => (maxLengths parts).map List.sum
  | .alt branches => (maxLengths branches).bind List.max?

/-- The longest lengths of forms that all have a longest text. -/
def maxLengths : List Form → Option (List Nat)
  | [] => some []
  | f :: fs =>
    match f.maxLength, maxLengths fs with
    | some n, some ns => some (n :: ns)
    | _, _ => none

end

/-- Whether every text of the form is empty. -/
def isEdgeOnly (f : Form) : Bool :=
  f.maxLength == some 0

/-! ### Conditions at the ends -/

mutual

/-- Whether the condition holds wherever a text of the form begins. -/
def beginsAt (condition : Edge) : Form → Bool
  | .edge e => e == condition
  | .times body least _ _ => decide (0 < least) && body.beginsAt condition
  | .capture _ body => body.beginsAt condition
  | .seq parts => seqBeginsAt condition parts
  | .alt branches => allBeginAt condition branches
  | _ => false

/-- Whether the condition holds wherever a text of the parts, one after another, begins. -/
def seqBeginsAt (condition : Edge) : List Form → Bool
  | [] => false
  | f :: fs => f.beginsAt condition || (f.isEdgeOnly && seqBeginsAt condition fs)

/-- Whether the condition holds wherever a text of any of the forms begins. -/
def allBeginAt (condition : Edge) : List Form → Bool
  | [] => true
  | f :: fs => f.beginsAt condition && allBeginAt condition fs

end

mutual

/-- Whether the condition holds wherever a text of the form ends. -/
def endsAt (condition : Edge) : Form → Bool
  | .edge e => e == condition
  | .times body least _ _ => decide (0 < least) && body.endsAt condition
  | .capture _ body => body.endsAt condition
  | .seq parts => seqEndsAt condition parts
  | .alt branches => allEndAt condition branches
  | _ => false

/-- Whether the condition holds wherever a text of the parts, one after another, ends. -/
def seqEndsAt (condition : Edge) : List Form → Bool
  | [] => false
  | f :: fs => seqEndsAt condition fs || (fs.all isEdgeOnly && f.endsAt condition)

/-- Whether the condition holds wherever a text of any of the forms ends. -/
def allEndAt (condition : Edge) : List Form → Bool
  | [] => true
  | f :: fs => f.endsAt condition && allEndAt condition fs

end

/-! ### Building -/

/-- One character of the ranges; a single character is a literal. -/
def ofRanges : Ranges → Form
  | [(first, last)] =>
    if first = last then .literal [Char.ofNat first] else .set [(first, last)]
  | ranges => .set ranges

/-- A repetition. Nothing is repeated that has only empty texts, and once is no repetition. -/
def repeated (body : Form) (least : Nat) (most : Option Nat) (isLazy : Bool) : Form :=
  let (least, most) :=
    if body.isEdgeOnly then (min least 1, some (min (most.getD 1) 1)) else (least, most)
  if most = some 0 then .empty
  else if least = 1 ∧ most = some 1 then body
  else .times body least most isLazy

/-- The parts of a sequence, or the form alone. -/
def parts : Form → List Form
  | .seq ps => ps
  | f => [f]

/-- The branches of a choice, or the form alone. -/
def branches : Form → List Form
  | .alt bs => bs
  | f => [f]

/-- The parts without empty ones, neighbouring literals joined. -/
def joinLiterals : List Form → List Form
  | [] => []
  | .empty :: fs => joinLiterals fs
  | .literal chars :: fs =>
    match joinLiterals fs with
    | .literal more :: rest => .literal (chars ++ more) :: rest
    | rest => .literal chars :: rest
  | f :: fs => f :: joinLiterals fs

/-- Forms one after another. -/
def sequence (forms : List Form) : Form :=
  match joinLiterals (forms.flatMap parts) with
  | [] => .empty
  | [f] => f
  | fs => .seq fs

/-- The ranges of a form that stands for one character. -/
def charRanges? : Form → Option Ranges
  | .set ranges => some ranges
  | .literal [c] => some [(c.toNat, c.toNat)]
  | _ => none

/-- A choice between branches that have no common beginning. -/
def plainChoice (forms : List Form) : Form :=
  match forms.flatMap branches with
  | [] => .set []
  | [f] => f
  | fs =>
    match fs.mapM charRanges? with
    | some sets => ofRanges (sets.foldl unionRanges [])
    | none => .alt fs

/-- The parts of a form that is a sequence. -/
def parts? : Form → Option (List Form)
  | .seq ps => some ps
  | _ => none

/-- How many forms at the start of two lists are the same. -/
def commonLength : List Form → List Form → Nat
  | a :: as, b :: bs => if same a b then commonLength as bs + 1 else 0
  | _, _ => 0

/-- A choice between branches. What all of them begin with is taken before the choice. -/
def choice (forms : List Form) : Form :=
  match plainChoice forms with
  | .alt fs =>
    match fs.mapM parts? with
    | some (first :: rest) =>
      let n := rest.foldl (fun n ps => min n (commonLength first ps)) first.length
      if n = 0 then .alt fs
      else sequence (first.take n ++
        [plainChoice ((first :: rest).map fun ps => sequence (ps.drop n))])
    | _ => .alt fs
  | f => f

end Form

end MarkupQuery.Regex
