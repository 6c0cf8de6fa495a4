/-! # Tables of code point ranges

A character class of a standard is held as the ascending list of its maximal ranges.
-/
namespace ObjectCatalog.Text

abbrev RangeTable := List (Nat × Nat)

def RangeTable.contains (table : RangeTable) (code : Nat) : Bool :=
  table.any fun range => range.1 ≤ code && code ≤ range.2

theorem RangeTable.contains_iff {table : RangeTable} {code : Nat} :
    table.contains code = true ↔ ∃ range ∈ table, range.1 ≤ code ∧ code ≤ range.2 := by
  simp [contains]

end ObjectCatalog.Text
