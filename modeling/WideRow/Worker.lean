import WideRow.Job
import WideRow.RowOutput
import WideRow.Stats

namespace WideRow

/-- What was dropped from a row, however many reads saw it. -/
structure Dropped where
  columns : SortedSet Address := .empty
  groups : SortedSet String := .empty
  deriving DecidableEq

def Dropped.union (a b : Dropped) : Dropped :=
  ⟨SortedSet.union a.columns b.columns, SortedSet.union a.groups b.groups⟩

structure Warning where
  message : String
  error : Error
  deriving DecidableEq, Repr

namespace Warning

def text (w : Warning) : String := w.message ++ ": " ++ w.error.display

def badDocument (e : Error) : Warning :=
  ⟨"nested document could not be flattened; row skipped", e⟩

def strayColumn (key : Bytes) (a : Address) : Warning :=
  ⟨"unrecognized column", (unrecognized a).atRow key⟩

def unsplitGroup (key : Bytes) (layout : Layout) (group : String) : Warning :=
  ⟨"malformed dynamic group skipped", (layout.malformed group).atRow key⟩

def ofDropped (schema : Schema) (key : Bytes) (d : Dropped) : List Warning :=
  d.columns.members.map (strayColumn key) ++
    schema.layout?.elim [] fun layout => d.groups.members.map (unsplitGroup key layout)

end Warning

/-- A row as far as it can be taken without a sink. -/
structure Finished where
  records : Except Error (Outcome (List Record))
  dropped : Dropped
  warnings : List Warning

structure Worker (ρ σ : Type) where
  plan : Plan
  window : Window
  incremental : Bool
  source : Source ρ
  sink : Sink σ

namespace Worker

structure State (ρ σ : Type) where
  source : ρ
  sink : σ
  stats : Stats := {}
  warnings : List Warning := []

variable {ρ σ : Type}

/-- A row whose key cannot be read or fails on its own is done. -/
def screen (plan : Plan) (key : Bytes) : Outcome (List Field) :=
  match plan.schema.rowKey.parse key with
  | .skip reason => .skip reason
  | .ready fields =>
    match plan.predicate with
    | none => .ready fields
    | some p =>
      if p.evaluate (.ofKey fields) .rowKey = .no then .skip .rejectedByKey else .ready fields

/-- Malformed documents pass a row over, other errors go on with its key. -/
def settle (key : Bytes) (result : Except Error (List Record)) :
    Except Error (Outcome (List Record)) × List Warning :=
  match result with
  | .ok records => (.ok (.ready records), [])
  | .error e =>
    if e.kind = .malformedDocument then
      (.ok (.skip .malformedDocument), [.badDocument e])
    else (.error (e.atRow key), [])

def finishRow (plan : Plan) (rowKey : Bytes) (key : List Field) (cells : List Cell) : Finished :=
  let fields := RowFields.ofCells plan.schema key cells
  match RowOutput.ofFields plan fields with
  | .skip reason => ⟨.ok (.skip reason), { columns := fields.unrecognized }, []⟩
  | .ready out =>
    let (records, warnings) := settle rowKey out.result
    ⟨records, ⟨fields.unrecognized, out.unsplit⟩, warnings⟩

def finish (plan : Plan) (rowKey : Bytes) (key : List Field) : Outcome (List Cell) → Finished
  | .ready cells => finishRow plan rowKey key cells
  | .skip reason => ⟨.ok (.skip reason), {}, []⟩

def onSource {α : Type} (a : Action ρ α) : Action (State ρ σ) α :=
  a.within (·.source) fun s source => { s with source }

def onSink {α : Type} (a : Action σ α) : Action (State ρ σ) α :=
  a.within (·.sink) fun s sink => { s with sink }

def count (f : Stats → Stats) : Action (State ρ σ) Unit :=
  modify fun s => { s with stats := f s.stats }

def warn (warnings : List Warning) : Action (State ρ σ) Unit :=
  modify fun s => { s with warnings := s.warnings ++ warnings }

def skip (reason : Skip) : Action (State ρ σ) (Outcome Nat) := do
  count (·.withSkip reason)
  return .skip reason

def report (schema : Schema) (key : Bytes) (d : Dropped) : Action (State ρ σ) Unit := do
  count (·.withDropped d.columns.size d.groups.size)
  warn (Warning.ofDropped schema key d)

variable (w : Worker ρ σ)

def writeAll (records : List Record) : Action (State ρ σ) Unit :=
  records.forM fun record => do
    let _ ← onSink (w.sink.write record)

def deleteAll (rows : List DeleteOrder) : Action (State ρ σ) Unit := do
  let summary ← onSink (w.sink.delete rows)
  count (·.withDeletes summary)

/-- Hands a row over to the sink: deletes if there are any, records, a flush. -/
def deliver (deletes : List DeleteOrder) (records : List Record) : Action (State ρ σ) Unit := do
  if !deletes.isEmpty then w.deleteAll deletes
  w.writeAll records
  count (·.withRecords records.length)
  onSink w.sink.flush

/-- Deletes of a row go out also when the row itself is passed over. -/
def conclude (rowKey : Bytes) (key : List Field) (deletions : List Deletion) (dropped : Dropped)
    (cells : Outcome (List Cell)) : Action (State ρ σ) (Outcome Nat) := do
  let row := finish w.plan rowKey key cells
  warn row.warnings
  report w.plan.schema rowKey (dropped.union row.dropped)
  let outcome ← MonadExcept.ofExcept row.records
  let deletes ← MonadExcept.ofExcept (deletions.mapM (·.row w.plan.schema rowKey key))
  match outcome with
  | .ready records =>
    w.deliver deletes records
    return .ready records.length
  | .skip reason =>
    w.deliver deletes []
    skip reason

/-- Reads what the changes leave open before anything is put out. -/
def workOnChanges (row : RowCells) (key : List Field) (c : ChangeSet) :
    Action (State ρ σ) (Outcome Nat) := do
  let dropped : Dropped := ⟨c.unrecognized, c.unsplit⟩
  if c.isEmpty then
    report w.plan.schema row.key dropped
    skip .unchanged
  else
    count (·.withRead c.read)
    let cells ← onSource (c.complete w.source w.plan w.window row.key)
    w.conclude row.key key c.deletions dropped cells

def workOn (row : RowCells) : Action (State ρ σ) (Outcome Nat) := do
  count (·.withRow)
  match screen w.plan row.key with
  | .skip reason => skip reason
  | .ready key =>
    if w.incremental then
      match ChangeSet.ofRow w.plan w.window row with
      | .skip reason => skip reason
      | .ready c => w.workOnChanges row key c
    else w.conclude row.key key [] {} (.ready row.cells)

def close : Action (State ρ σ) Unit := onSink w.sink.close

def run (rows : List RowCells) : Action (State ρ σ) Unit := do
  rows.forM fun row => do
    let _ ← w.workOn row
  w.close

end Worker

end WideRow
