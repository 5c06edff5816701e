import Std.Data.TreeMap.Basic

/-!
Caches with a fixed number of places.

A key is a list of numbers, and its hash decides where it is kept. Each place keeps one key, the
last one that was put there, so a cache may forget but never answers wrongly.
-/

namespace MarkupQuery.Regex

/-- A hash of a list of numbers: each is mixed in by an exclusive or and a multiplication. -/
def mixedHash (key : List Nat) : UInt64 :=
  key.foldl (fun h n => (h ^^^ n.toUInt64) * 1099511628211) 14695981039346656037

/-- A cache from lists of numbers to numbers. -/
structure SlotCache where
  /-- How many places there are. -/
  places : Nat
  /-- What is kept at each place. -/
  entries : Std.TreeMap Nat (List Nat × Nat)

namespace SlotCache

/-- A cache in which nothing is kept. -/
def empty (places : Nat) : SlotCache :=
  ⟨places, {}⟩

/-- The place of a key. -/
def placeOf (cache : SlotCache) (key : List Nat) : Nat :=
  (mixedHash key).toNat % cache.places

/-- What is kept for a key. -/
def find? (cache : SlotCache) (key : List Nat) : Option Nat :=
  match cache.entries.get? (cache.placeOf key) with
  | some (key', value) => if key' = key then some value else none
  | none => none

/-- Keeps a value for a key, in place of what was kept there. -/
def insert (cache : SlotCache) (key : List Nat) (value : Nat) : SlotCache :=
  { cache with entries := cache.entries.insert (cache.placeOf key) (key, value) }

end SlotCache

end MarkupQuery.Regex
