import WideRow.Filter.Truth

namespace WideRow

structure FieldName where
  family : Option String
  name : String
  deriving DecidableEq, Repr

namespace FieldName

def ofColumn (c : ColumnName) : FieldName := ⟨some c.family, c.name⟩

def text (f : FieldName) : String :=
  match f.family with
  | some family => family ++ ":" ++ f.name
  | none => f.name

def column? (f : FieldName) : Option ColumnName := f.family.map (⟨·, f.name⟩)

end FieldName

inductive Operator where
  | eq
  | ne
  | lt
  | gt
  | le
  | ge
  | regexp
  | notRegexp
  deriving DecidableEq, Repr

namespace Operator

def name : Operator → String
  | eq => "Eq"
  | ne => "Ne"
  | lt => "Lt"
  | gt => "Gt"
  | le => "Le"
  | ge => "Ge"
  | regexp => "Regexp"
  | notRegexp => "NotRegexp"

def ofSymbol? (s : String) : Option Operator :=
  match s with
  | "=" => some eq
  | "!=" | "<>" => some ne
  | "<" => some lt
  | ">" => some gt
  | "<=" => some le
  | ">=" => some ge
  | "REGEXP" => some regexp
  | "NOT REGEXP" => some notRegexp
  | _ => none

def needsOrder : Operator → Bool
  | lt | gt | le | ge => true
  | _ => false

def takesPattern : Operator → Bool
  | regexp | notRegexp => true
  | _ => false

def accepts : Operator → Ordering → Bool
  | eq, o => o == .eq
  | ne, o => o != .eq
  | lt, o => o == .lt
  | gt, o => o == .gt
  | le, o => o != .gt
  | ge, o => o != .lt
  | _, _ => false

end Operator

inductive Condition where
  | leaf (field : FieldName) (op : Operator) (literal : String)
  | and (left right : Condition)
  | or (left right : Condition)
  deriving DecidableEq, Repr

end WideRow
