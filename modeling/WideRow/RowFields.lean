import WideRow.Cell
import WideRow.Schema.Basic

namespace WideRow

structure RowFields where
  key : List Field
  statics : List Field
  groups : SortedMap String (List Field)
  unrecognized : SortedSet Address
  deriving DecidableEq

namespace Reading

def field (reading : Reading) (value : Option String) : Field :=
  match reading with
  | static c => Field.column c.family c.name value c.type
  | dynamic d group => (Field.column d.family d.name value d.type).grouped group

end Reading

namespace RowFields

/-- What cannot be read as text is replaced sign by sign. -/
def text? (c : Cell) : Option String := c.value?.map Text.Utf8.decodeLossy

def field? (schema : Schema) (c : Cell) : Option Field :=
  (schema.reading? c.address).map (·.field (text? c))

def addToGroup (groups : SortedMap String (List Field)) (f : Field) :
    SortedMap String (List Field) :=
  groups.update f.group fun fields => fields.getD [] ++ [f]

def ofCells (schema : Schema) (key : List Field) (cells : List Cell) : RowFields :=
  let puts := cells.filter (·.isPut)
  let fields := puts.filterMap (field? schema)
  { key
    statics := fields.filter (·.group == noGroup)
    groups := (fields.filter (·.group != noGroup)).foldl addToGroup .empty
    unrecognized :=
      .ofList ((puts.map (·.address)).filter fun a => (schema.reading? a).isNone) }

def isEmpty (row : RowFields) : Bool := row.statics.isEmpty && row.groups.isEmpty

def base (row : RowFields) : Record := (Record.ofKey row.key).addAll row.statics

end RowFields

end WideRow
