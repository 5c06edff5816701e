import MarkupQuery.View.Basic

/-!
The text of a node.

`text` of an element or a document is the character data under it in document order, comments and
declarations left out; other nodes have the characters that they carry themselves. `ownText` takes
the text children of the node alone.
-/

namespace MarkupQuery.View

variable {N : Type}

/-- The character data at most `n` levels under a node, piece by piece. -/
def textsUnder (v : View N) : Nat → N → List String
  | 0, _ => []
  | n + 1, x => (v.children x).flatMap fun y =>
    match v.kind y with
    | .text => [v.payload y]
    | .element => textsUnder v n y
    | _ => []

/-- The text of a node. -/
def text (v : View N) (x : N) : String :=
  match v.kind x with
  | .text | .comment | .doctype => v.payload x
  | .element | .document => String.join (v.textsUnder v.size x)
  | .error => ""

/-- The character data right under a node. -/
def ownText (v : View N) (x : N) : String :=
  String.join (((v.children x).filter fun y => v.kind y == .text).map v.payload)

/-- The text that a condition looks at: all of it, or the part right under the node. -/
def scopedText (v : View N) (own : Bool) (x : N) : String :=
  if own then v.ownText x else v.text x

end MarkupQuery.View
