import WideRow.SortedMap
import WideRow.Text.Utf8

namespace WideRow

/-- A column as a job names it. -/
structure ColumnName where
  family : String
  name : String
  deriving DecidableEq, Repr

/-- A column as the store keeps it. -/
structure Address where
  family : String
  qualifier : Bytes
  deriving DecidableEq, Repr

namespace ColumnName

def order : ColumnName → ColumnName → Ordering :=
  compareLex (compareOn ColumnName.family) (compareOn ColumnName.name)

instance : Ord ColumnName := ⟨order⟩

instance : Std.TransOrd ColumnName :=
  inferInstanceAs
    (Std.TransCmp (compareLex (compareOn ColumnName.family) (compareOn ColumnName.name)))

instance : Std.LawfulEqOrd ColumnName where
  eq_of_compare {a b} h := by
    obtain ⟨hf, hn⟩ := Ordering.then_eq_eq.1 h
    cases a
    cases b
    cases Std.LawfulEqOrd.eq_of_compare hf
    cases Std.LawfulEqOrd.eq_of_compare hn
    rfl

end ColumnName

namespace Address

def order : Address → Address → Ordering :=
  compareLex (compareOn Address.family) (compareOn Address.qualifier)

instance : Ord Address := ⟨order⟩

instance : Std.TransOrd Address :=
  inferInstanceAs
    (Std.TransCmp (compareLex (compareOn Address.family) (compareOn Address.qualifier)))

instance : Std.LawfulEqOrd Address where
  eq_of_compare {a b} h := by
    obtain ⟨hf, hq⟩ := Ordering.then_eq_eq.1 h
    cases a
    cases b
    cases Std.LawfulEqOrd.eq_of_compare hf
    cases Std.LawfulEqOrd.eq_of_compare hq
    rfl

end Address

end WideRow
