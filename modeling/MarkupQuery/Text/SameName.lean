/-!
Names that differ only in the case of ASCII letters.

`sameName` is the comparison that element and attribute names go through: an equivalence
(`sameName_refl`, `sameName_comm`, `sameName_trans`), since it compares two foldings.
-/

namespace MarkupQuery

/-- The characters of a name with the ASCII capitals made small. -/
def foldName (name : String) : List Char :=
  name.toList.map Char.toLower

/-- Whether two names are equal once the case of ASCII letters is ignored. -/
def sameName (a b : String) : Bool :=
  foldName a == foldName b

theorem sameName_iff {a b : String} : sameName a b ↔ foldName a = foldName b := by
  simp [sameName]

@[simp] theorem sameName_refl (a : String) : sameName a a := by
  simp [sameName]

theorem sameName_comm (a b : String) : sameName a b = sameName b a := by
  simp [sameName, Bool.beq_comm]

theorem sameName_trans {a b c : String} (hab : sameName a b) (hbc : sameName b c) :
    sameName a c :=
  sameName_iff.2 ((sameName_iff.1 hab).trans (sameName_iff.1 hbc))

end MarkupQuery
