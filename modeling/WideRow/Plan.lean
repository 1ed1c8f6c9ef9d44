import WideRow.Document.Column
import WideRow.Filter.Predicate
import WideRow.Schema.Build

namespace WideRow

structure Plan where
  schema : Schema
  selection : List ColumnName
  predicate : Option Predicate
  documents : List DocumentColumn

namespace Plan

inductive Fault where
  | nothingSelected
  | keyFieldSelected (field : FieldName)
  | unknownColumn (column : ColumnName)
  | leaf (fault : LeafFault)
  | notDocument (column : ColumnName)
  | emptySegment (name : String)
  deriving DecidableEq, Repr

def Fault.error : Fault → Error
  | nothingSelected => .validation "select at least one column"
  | keyFieldSelected field =>
    let field := field.text
    .validation s!"`{field}` is a row-key field; row-key fields are always emitted"
  | unknownColumn ⟨family, name⟩ =>
    (Error.validation s!"unknown column `{family}:{name}`").inFamily family
  | leaf fault => fault.error
  | notDocument ⟨family, name⟩ => .validation s!"`{family}:{name}` is not a document column"
  | emptySegment name =>
    .validation s!"document `{name}` has an authorized path with an empty segment"

def selectedColumn (schema : Schema) (field : FieldName) : Except Fault ColumnName :=
  match field.column? with
  | none => .error (.keyFieldSelected field)
  | some column =>
    if (schema.origin? column).isSome then .ok column else .error (.unknownColumn column)

def documentFault? (schema : Schema) (d : DocumentColumn) : Option Fault :=
  if schema.type? d.columnName ≠ some .document then some (.notDocument d.columnName)
  else if d.hasEmptySegment then some (.emptySegment d.name)
  else none

def resolveCondition (schema : Schema) : Option Condition → Except Fault (Option Predicate)
  | none => .ok none
  | some condition => ((condition.resolve schema).mapError Fault.leaf).map some

/-- Selected columns are judged first, then the condition, then the documents. -/
def make (schema : Schema) (selected : List FieldName) (condition : Option Condition)
    (documents : List DocumentColumn) : Except Fault Plan :=
  if selected.isEmpty then .error .nothingSelected
  else do
    let columns ← selected.mapM (selectedColumn schema)
    let predicate ← resolveCondition schema condition
    match documents.findSome? (documentFault? schema) with
    | some fault => .error fault
    | none => .ok ⟨schema, columns.eraseDups, predicate, documents⟩

def allColumns (schema : Schema) : List FieldName :=
  schema.orderedStatics.map (.ofColumn ·.columnName) ++
    schema.orderedDynamics.map (.ofColumn ·.columnName)

variable (plan : Plan)

def leaves : List Leaf := plan.predicate.elim [] (·.leaves)

def needed : List ColumnName :=
  (SortedSet.ofList (plan.selection ++ plan.leaves.filterMap (·.field.column?))).members

def neededStatics : List StaticColumn := plan.needed.filterMap plan.schema.static?

def neededDynamics : List DynamicColumn :=
  (plan.needed.filter fun c => (plan.schema.static? c).isNone).filterMap plan.schema.dynamic?

def neededFamilies : List String := (SortedSet.ofList (plan.needed.map (·.family))).members

def selects (column : ColumnName) : Bool := plan.selection.contains column

def hasOutput (record : Record) : Bool := plan.selection.any record.shows

def document? (column : ColumnName) : Option DocumentColumn :=
  plan.documents.find? (·.columnName == column)

/-- Only dynamic columns are put out while the condition reads a static column beside them. -/
def readsHiddenStatic : Bool :=
  plan.selection.all (fun c => plan.schema.origin? c == some .dynamic) &&
    plan.leaves.any fun l =>
      l.origin == .static && l.field.column?.any fun c => !plan.selects c

end Plan

end WideRow
