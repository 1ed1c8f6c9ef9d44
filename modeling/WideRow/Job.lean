import WideRow.Json.Reader
import WideRow.Plan
import WideRow.Window

namespace WideRow

namespace Job

structure KeyField where
  name : String
  literal : Option String
  saltWidth : Option Nat
  type : FieldType

structure DynamicEntry where
  family : String
  name : String
  lead : String
  trail : String
  type : FieldType

structure Settings where
  min : Nat := 0
  max : Nat := Window.lastTimestamp
  /-- Whether rows are changes with tombstones, or the latest values alone. -/
  incremental : Bool := true
  deriving DecidableEq, Repr

end Job

structure Job where
  separator : String
  keyFields : List Job.KeyField
  statics : List StaticColumn
  dynamics : List Job.DynamicEntry
  layout : Layout
  select : List FieldName
  filter : Option Condition
  documents : List DocumentColumn
  settings : Job.Settings

namespace Job

open Json (text? bool? nat? list? optional? choice? fields? required? default?)

def type? (field : Option Json) : Option FieldType :=
  default? .string (fun j => (choice? j).bind FieldType.ofKeyword?) field

def keyField? (j : Json) : Option KeyField := do
  match ← fields? ["name", "literal", "hashed_bits", "type"] j with
  | [name, literal, bits, type] =>
    return {
      name := ← required? text? name
      literal := ← default? none (optional? text?) literal
      saltWidth := ← default? none (optional? (nat? 0xFFFFFFFF)) bits
      type := ← type? type }
  | _ => none

def rowKey? (j : Json) : Option (String × List KeyField) := do
  match ← fields? ["separator", "fields"] j with
  | [separator, fields] =>
    return (← default? "" text? separator, ← required? (list? keyField?) fields)
  | _ => none

def static? (j : Json) : Option StaticColumn := do
  match ← fields? ["family", "name", "qualifier", "type"] j with
  | [family, name, qualifier, type] =>
    let name ← required? text? name
    let qualifier ← default? none (optional? text?) qualifier
    return {
      family := ← required? text? family
      qualifier := Text.Utf8.encode (qualifier.getD name)
      name
      type := ← type? type }
  | _ => none

def dynamic? (j : Json) : Option DynamicEntry := do
  match ← fields? ["family", "name", "prefix", "suffix", "type"] j with
  | [family, name, lead, trail, type] =>
    return {
      family := ← required? text? family
      name := ← required? text? name
      lead := ← default? "" text? lead
      trail := ← default? "" text? trail
      type := ← type? type }
  | _ => none

def layout? (j : Json) : Option Layout := do
  match ← fields? ["names", "separator"] j with
  | [names, separator] =>
    return ⟨← required? (list? text?) names, ← default? none (optional? text?) separator⟩
  | _ => none

def fieldName? (j : Json) : Option FieldName := do
  match ← fields? ["family", "name"] j with
  | [family, name] =>
    return ⟨← default? none (optional? text?) family, ← required? text? name⟩
  | _ => none

def leaf? (levels : Nat) (j : Json) : Option Condition := do
  match ← fields? ["field", "op", "literal"] j with
  | [some field, some op, some literal] =>
    if levels = 0 then none
    let op ← (choice? op).bind Operator.ofSymbol?
    return .leaf (← fieldName? field) op (← text? literal)
  | _ => none

def condition? : Nat → Json → Option Condition
  | levels + 2, .object [(kind, j)] =>
    match kind, j with
    | "leaf", j => leaf? levels j
    | "and", .array [l, r] => do return .and (← condition? levels l) (← condition? levels r)
    | "or", .array [l, r] => do return .or (← condition? levels l) (← condition? levels r)
    | _, _ => none
  | _, _ => none

def document? (j : Json) : Option DocumentColumn := do
  match ← fields? ["family", "name", "paths"] j with
  | [family, name, paths] =>
    return {
      family := ← required? text? family
      name := ← required? text? name
      paths := .ofList (← default? [] (list? text?) paths) }
  | _ => none

def settings? (j : Json) : Option Settings := do
  match ← fields? ["min_timestamp", "max_timestamp", "incremental"] j with
  | [min, max, incremental] =>
    return {
      min := ← default? 0 (nat? Window.lastTimestamp) min
      max := ← default? Window.lastTimestamp (nat? Window.lastTimestamp) max
      incremental := ← default? true bool? incremental }
  | _ => none

def ofJson? (j : Json) : Option Job := do
  let names := ["row_key", "static_columns", "dynamic_columns", "dynamic_parts", "select",
    "filter", "documents", "job"]
  match ← fields? names j with
  | [rowKey, statics, dynamics, parts, select, filter, documents, settings] =>
    let (separator, keyFields) ← required? rowKey? rowKey
    return {
      separator
      keyFields
      statics := ← default? [] (list? static?) statics
      dynamics := ← default? [] (list? dynamic?) dynamics
      layout := ← default? ⟨[], none⟩ layout? parts
      select := ← default? [] (list? fieldName?) select
      filter := ← default? none (optional? (condition? (Json.nestingLimit - 1))) filter
      documents := ← default? [] (list? document?) documents
      settings := ← default? {} settings? settings }
  | _ => none

def unreadable : Error :=
  { Error.of .usage "invalid job file" with
    hint := some "Run `cellshift check --job <path>` to validate a job file.", causes := 1 }

def read (s : String) : Except Error Job :=
  match (Json.read? s).bind ofJson? with
  | some job => .ok job
  | none => .error unreadable

def part (f : KeyField) : Except Error RowKey.Part :=
  match f.literal, f.saltWidth with
  | some _, some _ =>
    let name := f.name
    .error (.validation s!"row-key field `{name}` cannot be both literal and hashed")
  | some value, none => .ok ⟨f.name, .literal value, f.type⟩
  | none, some bits => .ok ⟨f.name, .salt bits, f.type⟩
  | none, none => .ok ⟨f.name, .plain, f.type⟩

variable (job : Job)

def rowKey : Except Error RowKey.Spec := do
  let parts ← job.keyFields.mapM part
  (RowKey.Spec.make job.separator parts).mapError (·.error)

def dynamicsWithLayout : List DynamicColumn :=
  job.dynamics.map fun d => ⟨d.family, d.name, d.lead, d.trail, job.layout, d.type⟩

def schema : Except Error Schema := do
  let key ← job.rowKey
  (Schema.make key job.statics job.dynamicsWithLayout).mapError (·.error)

def selected (schema : Schema) : List FieldName :=
  if job.select.isEmpty then Plan.allColumns schema else job.select

def plan : Except Error Plan := do
  let schema ← job.schema
  (Plan.make schema (job.selected schema) job.filter job.documents).mapError (·.error)

def window : Except Error Window :=
  (Window.make job.settings.min job.settings.max).mapError fun e =>
    { e with hint := some "min_timestamp must not exceed max_timestamp." }

end Job

end WideRow
