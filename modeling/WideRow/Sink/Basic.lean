import WideRow.Action
import WideRow.Deletion

namespace WideRow

structure DeleteCounts where
  key : Nat
  group : Nat
  deriving DecidableEq, Repr

namespace DeleteCounts

def total (s : DeleteCounts) : Nat := s.key + s.group

def ofRows (rows : List DeleteOrder) : DeleteCounts :=
  let key := rows.countP (·.reach == .key)
  ⟨key, rows.length - key⟩

end DeleteCounts

structure Sink (σ : Type) where
  /-- Answers the record as it was written. -/
  write : Record → Action σ Json
  delete : List DeleteOrder → Action σ DeleteCounts
  flush : Action σ Unit
  close : Action σ Unit

namespace Sink

def afterClose : Error := .of .usage "sink is already closed"

inductive Call where
  | write (record : Record)
  | delete (rows : List DeleteOrder)
  | flush
  | close
  deriving DecidableEq

variable {σ : Type}

/-- Writes down every call before it is made. -/
def recorded (sink : Sink σ) : Sink (List Call × σ) :=
  let step {α : Type} (call : Call) (a : Action σ α) : Action (List Call × σ) α := do
    modify fun (calls, s) => (calls ++ [call], s)
    Action.within (·.2) (fun s t => (s.1, t)) a
  { write := fun record => step (.write record) (sink.write record)
    delete := fun rows => step (.delete rows) (sink.delete rows)
    flush := step .flush sink.flush
    close := step .close sink.close }

end Sink

structure KeepingSink where
  records : List Record := []
  deletes : List DeleteOrder := []
  flushes : Nat := 0
  closed : Bool := false
  deriving DecidableEq

namespace KeepingSink

def whenOpen {α : Type} (answer : α) (change : KeepingSink → KeepingSink) :
    Action KeepingSink α := do
  if (← get).closed then throw Sink.afterClose
  modify change
  return answer

def sink : Sink KeepingSink where
  write record := whenOpen record.json fun s => { s with records := s.records ++ [record] }
  delete rows := whenOpen (.ofRows rows) fun s => { s with deletes := s.deletes ++ rows }
  flush := whenOpen () fun s => { s with flushes := s.flushes + 1 }
  close := whenOpen () fun s => { s with closed := true }

end KeepingSink

end WideRow
