import MarkupQuery.Regex.Automaton.Draft
import MarkupQuery.Regex.Automaton.SlotCache
import MarkupQuery.Regex.ByteRanges

/-!
The automaton of a set of characters.

A set of ASCII characters is one state with an arc for each range. The rows of byte ranges of any
other set are laid out as a tree, of which parts are shared. Where the automaton reads forward, rows
with the same rest share it (`draftRows`); where it reads backward, rows with the same beginning
share that (`draftRowsBackward`). What can be shared is looked up in a cache with a fixed number of
places, so that now and then a part is laid out twice.
-/

namespace MarkupQuery.Regex

/-! ### Reading forward -/

/-- A state to which arcs may still be added. -/
structure OpenState where
  /-- The finished arcs: the first byte, the last byte and the target of each, in one list. -/
  arcs : List Nat
  /-- The bytes of the last arc, whose target is open too. -/
  pending : Option (Nat × Nat)

/-- The arcs of the state, the pending one with its target. -/
def OpenState.close (state : OpenState) (target : Nat) : List Nat :=
  match state.pending with
  | some (lo, hi) => state.arcs ++ [lo, hi, target]
  | none => state.arcs

/-- A draft of rows: the states so far, those that can be shared, and the open states along the last
row, first byte first. -/
structure RowDraft where
  /-- The states so far. -/
  draft : Draft
  /-- The closed states, by their arcs. -/
  closed : SlotCache
  /-- The open states. -/
  path : List OpenState

/-- How many closed states are remembered. -/
def closedPlaces : Nat := 10000

/-- The number of a state with these arcs: one that is remembered, or else a new one. -/
def closeState (draft : Draft) (closed : SlotCache) (arcs : List Nat) :
    Option (Draft × SlotCache × Nat) :=
  match closed.find? arcs with
  | some number => some (draft, closed, number)
  | none =>
    (draft.addArcs (arcs.length / 3)).map fun next =>
      (next, closed.insert arcs draft.states, draft.states)

/-- Closes the states of a path, last one first, and gives the number of the first. -/
def closePath (target : Nat) (draft : Draft) (closed : SlotCache) :
    List OpenState → Option (Draft × SlotCache × Nat)
  | [] => some (draft, closed, target)
  | state :: path => do
    let (draft, closed, next) ← closePath target draft closed path
    closeState draft closed (state.close next)

/-- How many states at the start of the path the row shares. -/
def sharedLength : ByteRow → List OpenState → Nat
  | bytes :: row, state :: path =>
    if state.pending = some bytes then sharedLength row path + 1 else 0
  | _, _ => 0

/-- A state whose last arc is open. -/
def OpenState.start (bytes : Nat × Nat) : OpenState :=
  ⟨[], some bytes⟩

/-- One more row. It comes behind all rows before it. -/
def RowDraft.addRow (target : Nat) (rows : RowDraft) (row : ByteRow) : Option RowDraft :=
  let shared := sharedLength row rows.path
  match rows.path.drop shared, row.drop shared with
  | state :: path, bytes :: rest => do
    let (draft, closed, next) ← closePath target rows.draft rows.closed path
    let state : OpenState := ⟨state.close next, some bytes⟩
    some ⟨draft, closed, rows.path.take shared ++ state :: rest.map .start⟩
  | _, _ => some rows

/-- The states for rows in ascending order, all of which lead to one last state. -/
def draftRows (rows : List ByteRow) (draft : Draft) : Option Draft := do
  let target := draft.states
  let draft ← draft.add 0
  let rows ← rows.foldlM (RowDraft.addRow target) ⟨draft, .empty closedPlaces, [⟨[], none⟩]⟩
  let (draft, _, _) ← closePath target rows.draft rows.closed rows.path
  some draft

/-! ### Reading backward -/

/-- How many beginnings of rows are remembered. -/
def beginningPlaces : Nat := 1000

/-- The states for one row, from its first byte on. `next` is the state to which the byte in front
leads. -/
def draftRowBackward (draft : Draft) (beginnings : SlotCache) (next : Nat) :
    ByteRow → Option (Draft × SlotCache)
  | [] => some (draft, beginnings)
  | (lo, hi) :: row =>
    match beginnings.find? [next, lo, hi] with
    | some number => draftRowBackward draft beginnings number row
    | none =>
      match draft.add 0 with
      | some larger =>
        draftRowBackward larger (beginnings.insert [next, lo, hi] draft.states) draft.states row
      | none => none

/-- The states for rows that are read from their last byte to their first: a choice between the rows
and a last state. -/
def draftRowsBackward (rows : List ByteRow) (draft : Draft) : Option Draft := do
  let draft ← draft.addChoice rows.length
  let target := draft.states
  let draft ← draft.add 0
  let (draft, _) ← rows.foldlM
    (fun (draft, beginnings) row => draftRowBackward draft beginnings target row)
    (draft, SlotCache.empty beginningPlaces)
  some draft

/-! ### Sets -/

/-- Whether the ranges hold ASCII characters only. -/
def isAsciiRanges (ranges : Ranges) : Bool :=
  ranges.all fun r => decide (r.2 < 128)

/-- The states for one character of the ranges. -/
def draftSet (backward : Bool) (ranges : Ranges) (draft : Draft) : Option Draft :=
  if isAsciiRanges ranges then do
    let draft ← draft.add 0
    draft.addArcs ranges.length
  else if backward then draftRowsBackward (rowsOfRanges ranges) draft
  else draftRows (rowsOfRanges ranges) draft

end MarkupQuery.Regex
