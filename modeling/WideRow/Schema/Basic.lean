import WideRow.RowKey
import WideRow.Schema.Layout

namespace WideRow

structure StaticColumn where
  family : String
  qualifier : Bytes
  name : String
  type : FieldType
  deriving DecidableEq, Repr

/-- At most one of the fixed parts is not empty. -/
structure DynamicColumn where
  family : String
  name : String
  lead : String
  trail : String
  layout : Layout
  type : FieldType
  deriving DecidableEq, Repr

namespace StaticColumn

def columnName (c : StaticColumn) : ColumnName := ⟨c.family, c.name⟩

def address (c : StaticColumn) : Address := ⟨c.family, c.qualifier⟩

end StaticColumn

namespace DynamicColumn

variable (d : DynamicColumn)

def columnName : ColumnName := ⟨d.family, d.name⟩

def leadBytes : Bytes := Text.Utf8.encode d.lead

def trailBytes : Bytes := Text.Utf8.encode d.trail

def isOpen : Bool := d.lead.isEmpty && d.trail.isEmpty

def qualifierOf (group : String) : Bytes :=
  d.leadBytes ++ Text.Utf8.encode group ++ d.trailBytes

def addressOf (group : String) : Address := ⟨d.family, d.qualifierOf group⟩

def isTrailing : Bool := !d.trail.isEmpty

def fixedLength : Nat := if d.isTrailing then d.trailBytes.length else d.leadBytes.length

def reads (qualifier : Bytes) : Bool :=
  d.fixedLength < qualifier.length &&
    if d.isTrailing then d.trailBytes.isSuffixOf qualifier else d.leadBytes.isPrefixOf qualifier

def groupPart (qualifier : Bytes) : Bytes :=
  if !d.lead.isEmpty then qualifier.drop d.leadBytes.length
  else qualifier.take (qualifier.length - d.trailBytes.length)

end DynamicColumn

structure Schema where
  rowKey : RowKey.Spec
  statics : List StaticColumn
  dynamics : List DynamicColumn

/-- What a stored column is to a schema. -/
inductive Reading where
  | static (column : StaticColumn)
  | dynamic (column : DynamicColumn) (group : String)
  deriving DecidableEq, Repr

/-- The group of static columns. -/
def noGroup : String := ""

def Reading.group : Reading → String
  | static _ => noGroup
  | dynamic _ group => group

namespace Schema

/-- Members of one family after another in family order, otherwise in the order given. -/
def inFamilyOrder {α : Type} (family : α → String) (columns : List α) : List α :=
  (SortedSet.ofList (columns.map family)).members.flatMap fun f =>
    columns.filter fun c => family c == f

def longest : List DynamicColumn → Option DynamicColumn
  | [] => none
  | d :: ds =>
    match longest ds with
    | some e => if d.fixedLength < e.fixedLength then some e else some d
    | none => some d

variable (schema : Schema)

/-- All dynamic columns share one layout. -/
def layout? : Option Layout := schema.dynamics.head?.map (·.layout)

def hasGroups : Bool := !schema.dynamics.isEmpty

def orderedStatics : List StaticColumn := inFamilyOrder (·.family) schema.statics

def orderedDynamics : List DynamicColumn := inFamilyOrder (·.family) schema.dynamics

def families : List String :=
  (SortedSet.ofList (schema.statics.map (·.family) ++ schema.dynamics.map (·.family))).members

def static? (column : ColumnName) : Option StaticColumn :=
  schema.statics.find? (·.columnName == column)

def dynamic? (column : ColumnName) : Option DynamicColumn :=
  schema.dynamics.find? (·.columnName == column)

def origin? (column : ColumnName) : Option Origin :=
  if (schema.static? column).isSome then some .static
  else if (schema.dynamic? column).isSome then some .dynamic
  else none

def type? (column : ColumnName) : Option FieldType :=
  match schema.static? column with
  | some c => some c.type
  | none => (schema.dynamic? column).map (·.type)

/-- Columns of the family that read the qualifier, those with a fixed part at the end last. -/
def readers (addr : Address) : List DynamicColumn :=
  let found := schema.dynamics.filter fun d => d.family == addr.family && d.reads addr.qualifier
  found.filter (!·.isTrailing) ++ found.filter (·.isTrailing)

def reading? (addr : Address) : Option Reading :=
  match schema.statics.find? (·.address == addr) with
  | some c => some (.static c)
  | none => do
    let d ← longest (schema.readers addr)
    let group ← Text.Utf8.decode? (d.groupPart addr.qualifier)
    return .dynamic d group

end Schema

def unrecognized (addr : Address) : Error :=
  { Error.of .schema "column matches no static or dynamic descriptor; cell dropped" with
    family := some addr.family, qualifier := some addr.qualifier }

end WideRow
