import WideRow.Column
import WideRow.Json.Basic
import WideRow.Value

namespace WideRow

inductive Origin where
  | rowKey
  | static
  | dynamic
  deriving DecidableEq, Repr

def Origin.name : Origin → String
  | rowKey => "RowKey"
  | static => "Static"
  | dynamic => "Dynamic"

structure Field where
  family : String
  name : String
  value : Option String
  type : FieldType
  origin : Origin
  group : String
  deriving DecidableEq, Repr

namespace Field

def key (name value : String) (type : FieldType) : Field :=
  ⟨"", name, some value, type, .rowKey, ""⟩

def column (family name : String) (value : Option String) (type : FieldType) : Field :=
  ⟨family, name, value, type, .static, ""⟩

def grouped (f : Field) (group : String) : Field := { f with origin := .dynamic, group }

def isKey (f : Field) : Bool := f.family.isEmpty

def columnName (f : Field) : ColumnName := ⟨f.family, f.name⟩

def json (f : Field) : Json := Json.ofOption f.value

end Field

structure Record where
  key : List Field
  columns : SortedMap ColumnName Field

namespace Record

instance : DecidableEq Record := fun a b =>
  if h : a.key = b.key ∧ a.columns = b.columns then
    .isTrue (by cases a; cases b; cases h.1; cases h.2; rfl)
  else
    .isFalse fun e => h (e ▸ ⟨rfl, rfl⟩)

def ofKey (key : List Field) : Record := ⟨key, .empty⟩

/-- A field of a family and name already present takes its place. -/
def add (r : Record) (f : Field) : Record :=
  { r with columns := r.columns.insert f.columnName f }

def addAll (r : Record) (fs : List Field) : Record := fs.foldl add r

def extendKey (r : Record) (fs : List Field) : Record := { r with key := r.key ++ fs }

def without (r : Record) (column : ColumnName) : Record :=
  { r with columns := r.columns.erase column }

def project (r : Record) (keep : ColumnName → Bool) : Record :=
  { r with columns := r.columns.filter fun column _ => keep column }

def keyField? (r : Record) (name : String) : Option Field := r.key.find? (·.name == name)

def column? (r : Record) (column : ColumnName) : Option Field := r.columns.get? column

/-- A key field when no family is given, else a column. -/
def lookup? (r : Record) (family : Option String) (name : String) : Option Field :=
  match family with
  | none => r.keyField? name
  | some family => r.column? ⟨family, name⟩

def shows (r : Record) (column : ColumnName) : Bool := (r.column? column).any (·.value.isSome)

def fields (r : Record) : List Field := r.columns.values

def keyJson (fs : List Field) : Json := Json.members (fs.map fun f => (f.name, f.json))

def families (r : Record) : List String :=
  (SortedSet.ofList (r.fields.map (·.family))).members

def familyJson (r : Record) (family : String) : Json :=
  Json.members ((r.fields.filter (·.family == family)).map fun f => (f.name, f.json))

def json (r : Record) : Json :=
  Json.members [
    ("key", keyJson r.key),
    ("columns", Json.members (r.families.map fun family => (family, r.familyJson family)))]

end Record

end WideRow
