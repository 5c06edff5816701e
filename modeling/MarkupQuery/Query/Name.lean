import MarkupQuery.Query.Rule
import MarkupQuery.Text.Chars

/-!
Names, identifiers and quoted strings, with their escapes.

A backslash makes the character behind it stand for itself, whatever it is, unless it is a
hexadecimal digit: then up to six digits are the number of a character, and one blank behind them
belongs to the escape.

* `escape`: an escape, backslash included.
* `name`: a run of name characters and escapes; `identifier`: a name that begins like a word.
* `quotedString`: text between two equal quotes. A backslash before a line end joins the lines.
-/

namespace MarkupQuery.Query

/-- What stands for a character that is not there. -/
def replacementChar : Char := '\ufffd'

/-- The character of a number; zero and what is no character at all are replaced. -/
def charOfNumber (n : Nat) : Char :=
  if n ≠ 0 ∧ n.isValidChar then Char.ofNat n else replacementChar

/-- The text behind the one blank that may end a numeric escape. -/
def dropTerminator : List Char → List Char
  | '\r' :: '\n' :: r => r
  | c :: r => if isBlank c then r else c :: r
  | [] => []

/-- The digits of a numeric escape. -/
def escapeDigits (text : List Char) : List Char :=
  (text.take 6).takeWhile isHexDigit

/-- The character that an escape stands for. The text begins at the backslash. -/
def escape : Rule Char
  | '\\' :: c :: r =>
    if isNewline c then failAt .invalidEscape ('\\' :: c :: r)
    else if isHexDigit c then
      let digits := escapeDigits (c :: r)
      .ok (charOfNumber (hexNumber digits), dropTerminator ((c :: r).drop digits.length))
    else .ok (c, r)
  | ['\\'] => failAt .unexpectedEnd ['\\']
  | text => failAt .unexpectedToken text

/-- One character of a name, if one comes next. -/
def nameChar : Step Char
  | [] => .ok none
  | c :: r =>
    if isNameChar c then .ok (some (c, r))
    else if c = '\\' then escape.found (c :: r)
    else .ok none

/-- A run of name characters and escapes, of which there is at least one. -/
def name : Rule String := fun text => do
  let (chars, rest) ← many nameChar text
  if chars.isEmpty then failAt .expectedName text
  else .ok (String.ofList chars, rest)

/-- Whether a name that may begin a word comes next. -/
def startsWord : List Char → Bool
  | [] => false
  | c :: _ => isNameStart c || c == '\\'

/-- A name that begins like a word, perhaps behind one hyphen. -/
def identifier : Rule String
  | '-' :: r =>
    if startsWord r then (name r).map fun (word, rest) => ("-" ++ word, rest)
    else failAt .expectedIdentifier r
  | text => if startsWord text then name text else failAt .expectedIdentifier text

/-- The characters that the next part of a quoted string stands for, if the string goes on. -/
def stringPart (quote : Char) : Step (List Char)
  | [] => .ok none
  | c :: r =>
    if c = quote then .ok none
    else if c = '\\' then
      match r with
      | '\r' :: '\n' :: rest => .ok (some ([], rest))
      | d :: rest =>
        if isNewline d then .ok (some ([], rest))
        else (escape (c :: r)).map fun (e, rest) => some ([e], rest)
      | [] => (escape (c :: r)).map fun (e, rest) => some ([e], rest)
    else if isNewline c then failAt .unexpectedToken (c :: r)
    else .ok (some ([c], r))

/-- Whether the character opens and closes strings. -/
def isQuote (c : Char) : Bool :=
  c == '"' || c == '\''

/-- Text between two equal quotes. The opening quote must not end the query. -/
def quotedString : Rule String
  | quote :: c :: r =>
    if isQuote quote then do
      let (parts, rest) ← many (stringPart quote) (c :: r)
      match rest with
      | [] => failAt .unexpectedEnd []
      | _ :: rest => .ok (String.ofList parts.flatten, rest)
    else failAt .expectedString (quote :: c :: r)
  | text => failAt .expectedString text

/-- A quoted string or an identifier. -/
def stringOrIdentifier : Rule String
  | [] => failAt .unexpectedEnd []
  | c :: r => if isQuote c then quotedString (c :: r) else identifier (c :: r)

end MarkupQuery.Query
