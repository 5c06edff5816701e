import MarkupQuery.Regex.Automaton.Draft

/-!
The automaton of a choice between words.

Words with the same beginning share its states. The order of the words is kept where one of them is
the beginning of another: behind a word that ends, a new group of arcs begins (`Fork.ofWords`).
-/

namespace MarkupQuery.Regex

/-- Arcs by the byte that they read, each with what the words behind it go on with. -/
abbrev WordArcs := List (Nat × List (List Nat))

/-- The arcs with one more word behind one of them. -/
def addToArcs (byte : Nat) (rest : List Nat) : WordArcs → WordArcs
  | [] => [(byte, [rest])]
  | (b, words) :: arcs =>
    if b = byte then (b, words ++ [rest]) :: arcs else (b, words) :: addToArcs byte rest arcs

/-- The ways on from a place in words. -/
structure Fork where
  /-- The groups of arcs, between any two of which a word ends. -/
  groups : List WordArcs := []
  /-- The group behind the last end of a word. -/
  last : WordArcs := []

/-- The ways on with one more word. -/
def Fork.add (fork : Fork) : List Nat → Fork
  | byte :: rest => { fork with last := addToArcs byte rest fork.last }
  | [] =>
    if !fork.groups.isEmpty && (fork.last :: fork.groups).all List.isEmpty then fork
    else ⟨fork.groups ++ [fork.last], []⟩

/-- The ways on for words in their order. -/
def Fork.ofWords (words : List (List Nat)) : Fork :=
  words.foldl Fork.add {}

/-- The states at a place from which words of at most this length go on. Where all of them end no
state is needed. -/
def draftFork : Nat → List (List Nat) → Draft → Option Draft
  | 0, _, draft => some draft
  | length + 1, words, draft =>
    if words.all List.isEmpty then some draft
    else do
      let fork := Fork.ofWords words
      let groups := fork.groups ++ [fork.last]
      let draft ← groups.flatten.foldlM (fun draft arc => draftFork length arc.2 draft) draft
      let full := groups.filter (!·.isEmpty)
      let draft ← full.foldlM
        (fun draft arcs => draft.addArcs (if arcs.length = 1 then 0 else arcs.length)) draft
      draft.addChoice (full.length + fork.groups.length)

/-- The states for a choice between words, and a last state. -/
def draftWords (words : List (List Nat)) (draft : Draft) : Option Draft := do
  let draft ← draft.add 0
  draftFork (words.foldl (fun n word => max n word.length) 0) words draft

end MarkupQuery.Regex
