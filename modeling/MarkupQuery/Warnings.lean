/-!
Warnings, each remembered once.

A warning comes from a component and has a text; the two together are its entry (`Warnings.entry`).
Recording an entry that is there already changes nothing.

* `has_record`, `has_clear`: what is remembered after each step.
* `nodup_record`: no entry is there twice.
-/

namespace MarkupQuery

/-- The warnings recorded since the last time they were cleared, latest first. -/
structure Warnings where
  /-- The entry of each warning. -/
  entries : List String := []
deriving DecidableEq, Repr

namespace Warnings

/-- A warning as it is remembered. -/
def entry (component text : String) : String :=
  "[" ++ component ++ "] " ++ text

/-- Whether the warning has been recorded. -/
def has (w : Warnings) (component text : String) : Bool :=
  w.entries.contains (entry component text)

/-- Records a warning. -/
def record (w : Warnings) (component text : String) : Warnings :=
  if w.has component text then w else ⟨entry component text :: w.entries⟩

/-- The number of warnings recorded. -/
def count (w : Warnings) : Nat :=
  w.entries.length

/-- Forgets all warnings. -/
def clear (_ : Warnings) : Warnings := {}

/-- No entry is there twice. -/
def Nodup (w : Warnings) : Prop :=
  w.entries.Nodup

theorem has_iff {w : Warnings} {component text : String} :
    w.has component text ↔ entry component text ∈ w.entries := by
  simp [has]

theorem mem_record {w : Warnings} {component text e : String} :
    e ∈ (w.record component text).entries ↔ e = entry component text ∨ e ∈ w.entries := by
  rw [record]
  split
  · next h =>
    have := has_iff.1 h
    exact ⟨.inr, fun h => h.elim (fun h => h ▸ this) id⟩
  · simp

theorem has_record {w : Warnings} {component text component' text' : String} :
    (w.record component text).has component' text' ↔
      entry component' text' = entry component text ∨ w.has component' text' := by
  rw [has_iff, mem_record, has_iff]

@[simp] theorem has_clear (w : Warnings) (component text : String) :
    w.clear.has component text = false := rfl

theorem nodup_record {w : Warnings} (h : w.Nodup) (component text : String) :
    (w.record component text).Nodup := by
  rw [record]
  split
  · exact h
  · next hn =>
    exact List.nodup_cons.2 ⟨fun hm => hn (has_iff.2 hm), h⟩

theorem nodup_clear (w : Warnings) : w.clear.Nodup :=
  List.nodup_nil

end Warnings

end MarkupQuery
