import WideRow.Document.Rows
import WideRow.RowFields
import WideRow.Plan

namespace WideRow

structure RowOutput where
  records : List Record
  error : Option Error
  /-- Groups passed over before the end, since their ids do not split. -/
  unsplit : SortedSet String

namespace RowOutput

/-- A candidate, or the id of a group that makes none. -/
abbrev Candidate := Except String Record

def ofGroup (layout : Option Layout) (base : Record) (group : String)
    (fields : List Field) : Candidate :=
  match layout.bind fun l => (l.split? group).map (l.keyFields group) with
  | some key => .ok ((base.extendKey key).addAll fields)
  | none => .error group

def candidates (schema : Schema) (row : RowFields) : List Candidate :=
  if row.groups.isEmpty then [.ok row.base]
  else row.groups.entries.map fun (group, fields) =>
    ofGroup schema.layout? row.base group fields

/-- A record of the column's own place in the row, with one flattened row in it. -/
def withRow (column : Field) (record : Record) (row : Document.Row) : Record :=
  record.addAll (row.map fun f => { column with name := f.name, value := f.value, type := .string })

/-- A column with a document gives way to the fields of each row, or just goes if there is none. -/
def expand (d : DocumentColumn) (record : Record) : Except Error (List Record) :=
  match record.column? d.columnName with
  | none => .ok [record]
  | some column =>
    match column.value with
    | none => .ok [record]
    | some text =>
      let rest := record.without d.columnName
      match Document.flatten d text with
      | .error fault => .error (fault.error d)
      | .ok rows => .ok (if rows.isEmpty then [rest] else rows.map (withRow column rest))

def expandAll : List DocumentColumn → List Record → Except Error (List Record)
  | [], records => .ok records
  | d :: ds, records => do
    let expanded ← records.mapM (expand d)
    expandAll ds expanded.flatten

variable (plan : Plan)

def spread (record : Record) : Except Error (List Record) :=
  expandAll plan.documents [record.project plan.selects]

/-- The truth of the condition on a record, with what is remembered of the row. -/
def truthOf (memo : Predicate.Memo) (record : Record) (stage : Stage) : Truth × Predicate.Memo :=
  match plan.predicate with
  | none => (.yes, memo)
  | some p => p.evaluateWith memo record stage

def drain : Predicate.Memo → List Candidate → RowOutput
  | _, [] => ⟨[], none, .empty⟩
  | memo, .error group :: rest =>
    let out := drain memo rest
    { out with unsplit := out.unsplit.add group }
  | memo, .ok record :: rest =>
    let (truth, memo) := truthOf plan memo record .full
    if truth = .yes && plan.hasOutput record then
      match spread plan record with
      | .error e => ⟨[], some e, .empty⟩
      | .ok records =>
        let out := drain memo rest
        { out with records := records ++ out.records }
    else drain memo rest

/-- A row that fails on its static fields is not looked at any further. -/
def ofFields (row : RowFields) : Outcome RowOutput :=
  match truthOf plan .empty row.base .static with
  | (.no, _) => .skip .rejectedByStatics
  | (_, memo) => .ready (drain plan memo (candidates plan.schema row))

def result (out : RowOutput) : Except Error (List Record) :=
  match out.error with
  | some e => .error e
  | none => .ok out.records

end RowOutput

end WideRow
