import MarkupQuery.Text.Printable

/-!
Text between double quotes, safe to print on one line.

`quoted` writes a quote and a backslash behind a backslash, gives the common controls their short
names, and writes every other character that has no visible form of its own by its number
(`quotedChar`).
-/

namespace MarkupQuery

/-- How one character is written inside quotes. -/
def quotedChar (c : Char) : List Char :=
  if c = '"' then ['\\', '"']
  else if c = '\\' then ['\\', '\\']
  else if c = '\n' then ['\\', 'n']
  else if c = '\r' then ['\\', 'r']
  else if c = '\t' then ['\\', 't']
  else if c = '\x00' then ['\\', '0']
  else if isPrintable c && !isCombining c then [c]
  else ['\\', 'u', '\x7b'] ++ Nat.toDigits 16 c.toNat ++ ['\x7d']

/-- The text between double quotes, with what cannot be shown written by escapes. -/
def quoted (text : String) : String :=
  String.ofList (['"'] ++ text.toList.flatMap quotedChar ++ ['"'])

end MarkupQuery
