import MarkupQuery.Text.SameName

/-!
Attributes of an element.

An element keeps its attributes in the order they were written, and a name may stand there twice.
`Attribute.valueOf?` looks one up: the first whose name agrees but for the case of ASCII letters
(`valueOf?_cons`).
-/

namespace MarkupQuery

/-- A name and the value given to it. -/
structure Attribute where
  /-- The name as written. -/
  name : String
  /-- The value as written. -/
  value : String
deriving DecidableEq, Repr

namespace Attribute

/-- Whether this attribute is called by the name. -/
def isNamed (a : Attribute) (name : String) : Bool :=
  sameName a.name name

/-- The value of the first attribute of that name. -/
def valueOf? (name : String) (attributes : List Attribute) : Option String :=
  (attributes.find? (·.isNamed name)).map (·.value)

@[simp] theorem valueOf?_nil (name : String) : valueOf? name [] = none := rfl

theorem valueOf?_cons (name : String) (a : Attribute) (as : List Attribute) :
    valueOf? name (a :: as) = if a.isNamed name then some a.value else valueOf? name as := by
  rw [valueOf?, List.find?_cons]
  split <;> simp_all [valueOf?]

/-- Some attribute has the name exactly when the look-up finds one. -/
theorem isSome_valueOf? {name : String} {attributes : List Attribute} :
    (valueOf? name attributes).isSome ↔ ∃ a ∈ attributes, a.isNamed name := by
  simp [valueOf?]

end Attribute

end MarkupQuery
