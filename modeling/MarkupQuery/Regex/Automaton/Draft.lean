/-!
The account of an automaton that is being laid out.

An automaton reads a text byte by byte. Every state has the same room for itself, and some have more
for the arcs that lead on from it or for the branches between which it chooses. A draft counts
states and room, and is given up as soon as the room exceeds what an automaton may take.

* `Draft.add`: one more state. Its number is the number of states before it.
* `Draft.addTimes`: what is added again and again.
-/

namespace MarkupQuery.Regex

/-- The states of an automaton so far. -/
structure Draft where
  /-- How many states there are. -/
  states : Nat := 0
  /-- The bytes that they take. -/
  room : Nat := 0

/-- The bytes that each state takes. -/
def stateRoom : Nat := 32

/-- The bytes that an arc takes which leads on from a state for the bytes of a range. -/
def arcRoom : Nat := 8

/-- The bytes that each branch takes where a state chooses between branches. -/
def branchRoom : Nat := 4

/-- The bytes that an automaton may take: ten times 2 to the 20th. -/
def maxRoom : Nat := 10485760

namespace Draft

/-- One more state, which takes `extra` bytes over those for itself. -/
def add (draft : Draft) (extra : Nat) : Option Draft :=
  let room := draft.room + stateRoom + extra
  if room ≤ maxRoom then some ⟨draft.states + 1, room⟩ else none

/-- One more state that chooses between branches. -/
def addChoice (draft : Draft) (branches : Nat) : Option Draft :=
  draft.add (branchRoom * branches)

/-- One more state with arcs. -/
def addArcs (draft : Draft) (arcs : Nat) : Option Draft :=
  draft.add (arcRoom * arcs)

/-- What is added to a draft, added a number of times. -/
def addTimes (addition : Draft → Option Draft) : Nat → Draft → Option Draft
  | 0, draft => some draft
  | n + 1, draft =>
    match addition draft with
    | some draft => addTimes addition n draft
    | none => none

end Draft

end MarkupQuery.Regex
