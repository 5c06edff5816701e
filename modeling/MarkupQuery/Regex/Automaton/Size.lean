import MarkupQuery.Regex.Automaton.CharClass
import MarkupQuery.Regex.Automaton.Words
import MarkupQuery.Regex.Form

/-!
How large the automaton of an expression is.

A counted repetition is laid out as often as it counts, so that a short expression may need a large
automaton. An expression is only accepted if its automata fit, the one that reads a text from its
start to its end and the one that reads it from its end to its start (`Form.fits`). Only the first
of them notes where groups begin and end.
-/

namespace MarkupQuery.Regex

/-- The states of a repetition of what is laid out by `body`. -/
def draftRepetition (body : Draft → Option Draft) (neverEmpty : Bool) (least : Nat)
    (most : Option Nat) (draft : Draft) : Option Draft :=
  let exactly (n : Nat) (draft : Draft) : Option Draft :=
    if n = 0 then draft.add 0 else Draft.addTimes body n draft
  match most with
  | none =>
    if least = 0 then
      if neverEmpty then do
        let draft ← draft.addChoice 2
        body draft
      else do
        let draft ← body draft
        let draft ← draft.addChoice 2
        let draft ← draft.addChoice 2
        draft.add 0
    else do
      let draft ← Draft.addTimes body least draft
      draft.addChoice 2
  | some most =>
    if least = most then exactly least draft
    else if least = 0 ∧ most = 1 then do
      let draft ← draft.addChoice 2
      let draft ← body draft
      draft.add 0
    else do
      let draft ← exactly least draft
      let draft ← draft.add 0
      Draft.addTimes (fun draft => do body (← draft.addChoice 2)) (most - least) draft

namespace Form

/-- The bytes of a form that is a literal. -/
def literalBytes? : Form → Option (List Nat)
  | .literal chars => some (chars.flatMap fun c => (String.utf8EncodeChar c).map (·.toNat))
  | _ => none

/-- Whether every text of the form has a character. -/
def isNeverEmpty (f : Form) : Bool :=
  f.minLength.any (0 < ·)

mutual

/-- The states for a form. -/
def draft (backward : Bool) : Form → Draft → Option Draft
  | .empty, d => d.add 0
  | .literal chars, d => Draft.addTimes (·.add 0) ((chars.map Char.utf8Size).sum) d
  | .set ranges, d => draftSet backward ranges d
  | .edge _, d => d.add 0
  | .times body least most _, d =>
    draftRepetition (body.draft backward) body.isNeverEmpty least most d
  | .capture _ body, d =>
    if backward then body.draft backward d
    else do
      let d ← d.add 0
      let d ← body.draft backward d
      d.add 0
  | .seq parts, d => draftSequence backward parts d
  | .alt branches, d =>
    match branches.mapM literalBytes? with
    | some words => draftWords (if backward then words.map List.reverse else words) d
    | none => draftBranches backward branches.length 0 branches d

/-- The states for forms one after another, in the order in which they are read. -/
def draftSequence (backward : Bool) : List Form → Draft → Option Draft
  | [], d => some d
  | f :: fs, d =>
    if backward then do
      let d ← draftSequence backward fs d
      f.draft backward d
    else do
      let d ← f.draft backward d
      draftSequence backward fs d

/-- The states for the branches of a choice, of which there are `total` in all and `done` have been
laid out. The choice itself and the state in which its branches meet come behind the second. -/
def draftBranches (backward : Bool) (total done : Nat) : List Form → Draft → Option Draft
  | [], d => some d
  | f :: fs, d => do
    let d ← f.draft backward d
    let d ← if done = 1 then (d.addChoice total).bind (·.add 0) else some d
    draftBranches backward total (done + 1) fs d

end

/-- Whether the automaton need not look for a place to begin, because it begins at an end of the
text. -/
def isAnchored (backward : Bool) (f : Form) : Bool :=
  if backward then f.endsAt .textEnd else f.beginsAt .textStart

/-- The automaton of a form: what goes on to a place to begin, the form, and a last state. Reading
forward it notes where the text that it finds begins and ends. -/
def automaton? (backward : Bool) (f : Form) : Option Draft := do
  let d : Draft := {}
  let d ← if f.isAnchored backward then d.add 0 else do
    let d ← d.addChoice 2
    let d ← d.add 0
    d.addArcs 1
  let d ← (Form.capture 0 f).draft backward d
  d.add 0

/-- Whether the automata of the form may be built. -/
def fits (f : Form) : Bool :=
  (f.automaton? false).isSome && (f.automaton? true).isSome

end Form

end MarkupQuery.Regex
