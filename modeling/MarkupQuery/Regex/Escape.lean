import MarkupQuery.Regex.Basic
import MarkupQuery.Regex.Fault
import MarkupQuery.Text.Chars

/-!
The escapes of regular expressions.

A backslash takes its meaning from a character that has one, makes the other ASCII characters stand
for themselves unless they are letters or digits, and gives meanings to some letters.

* `escape?`: the escapes of one character.
* `numericEscape`: the escapes that give a character by its number, with two, four or eight digits
  or with any number of digits in braces.
* `readEscape`: an escape of either kind, with the text behind it.
-/

namespace MarkupQuery.Regex

/-- The characters with a meaning of their own, and those reserved for one. -/
def isMeta (c : Char) : Bool :=
  "\\.+*?()|[]\x7b\x7d^$#&-~".toList.contains c

/-- The characters that a backslash makes stand for themselves: what has a meaning of its own, and
every other ASCII character but letters, digits and the angle brackets. -/
def isEscapable (c : Char) : Bool :=
  isMeta c || (decide (c.toNat < 128) && !c.isAlphanum && c != '<' && c != '>')

/-- What a backslash and the characters after it stand for. -/
inductive Escape where
  /-- One character. -/
  | char (c : Char)
  /-- One character of a class. -/
  | set (s : CharSet)
  /-- A condition on a place. -/
  | edge (e : Edge)

/-- The meaning of the character behind a backslash. -/
def escape? (c : Char) : Option Escape :=
  if isEscapable c then some (.char c)
  else match c with
    | 't' => some (.char '\t')
    | 'n' => some (.char '\n')
    | 'r' => some (.char '\r')
    | 'f' => some (.char '\x0c')
    | 'v' => some (.char '\x0b')
    | 'a' => some (.char '\x07')
    | 'd' => some (.set .decimal)
    | 'D' => some (.set (.complement .decimal))
    | 's' => some (.set .space)
    | 'S' => some (.set (.complement .space))
    | 'w' => some (.set .word)
    | 'W' => some (.set (.complement .word))
    | 'b' => some (.edge .wordEdge)
    | 'B' => some (.edge .noWordEdge)
    | '<' => some (.edge .wordStart)
    | '>' => some (.edge .wordEnd)
    | 'A' => some (.edge .textStart)
    | 'z' => some (.edge .textEnd)
    | _ => none

/-- How many digits follow the letter of a numeric escape that has no braces. -/
def numberWidth? : Char → Option Nat
  | 'x' => some 2
  | 'u' => some 4
  | 'U' => some 8
  | _ => none

/-- The character whose number the digits denote. -/
def charOfDigits (digits : List Char) : Except Fault Char :=
  if digits ≠ [] ∧ digits.all isHexDigit ∧ (hexNumber digits).isValidChar then
    .ok (Char.ofNat (hexNumber digits))
  else .error .badNumber

/-- The character of a numeric escape, behind its letter, and the text behind it. -/
def numericEscape (width : Nat) (text : List Char) : Except Fault (Char × List Char) :=
  match text with
  | '\x7b' :: r =>
    match r.dropWhile (· != '\x7d') with
    | _ :: rest => (charOfDigits (r.takeWhile (· != '\x7d'))).map fun c => (c, rest)
    | [] => .error .badNumber
  | r =>
    if r.length < width then .error .badNumber
    else (charOfDigits (r.take width)).map fun c => (c, r.drop width)

/-- An escape, behind its backslash, and the text behind it. -/
def readEscape : List Char → Except Fault (Escape × List Char)
  | [] => .error .badEscape
  | c :: r =>
    match numberWidth? c with
    | some width => (numericEscape width r).map fun (c, r) => (.char c, r)
    | none =>
      match escape? c with
      | some e => .ok (e, r)
      | none => .error .badEscape

end MarkupQuery.Regex
