import WideRow.Json.Printer
import WideRow.Sink.Basic

namespace WideRow.LineSink

structure Device where
  broken : Bool := false
  written : Bytes := []
  deriving DecidableEq, Repr

structure Output where
  device : Device := {}
  held : Bytes := []
  deriving DecidableEq, Repr

/-- A sink that fails to close has neither an output nor a text any more. -/
inductive State where
  | isOpen (out : Output)
  | closed (text : Bytes)
  | lost
  deriving DecidableEq, Repr

def blockSize : Nat := 8192

def refused : Error := (Error.of .io "failed to write sink output").caused

def notEncoded : Error := (Error.of .io "failed to encode output line").caused

namespace Output

def pass (out : Output) : Option Output :=
  if out.held.isEmpty then some out
  else if out.device.broken then none
  else some ⟨{ out.device with written := out.device.written ++ out.held }, []⟩

/-- Takes a piece behind what is held, or passes it on by itself when it fills a block. -/
def hold (out : Output) (piece : Bytes) : Option Output :=
  if piece.length < blockSize then some { out with held := out.held ++ piece }
  else if out.device.broken then none
  else some { out with device := { out.device with written := out.device.written ++ piece } }

/-- The output after a piece, and whether it was taken. What is held makes way for a piece that it
leaves no room for. -/
def put (out : Output) (piece : Bytes) : Bool × Output :=
  if out.held.length + piece.length ≤ blockSize then
    match out.hold piece with
    | some out => (true, out)
    | none => (false, out)
  else
    match out.pass with
    | none => (false, out)
    | some out =>
      match out.hold piece with
      | some out => (true, out)
      | none => (false, out)

def putAll (out : Output) : List Bytes → Bool × Output
  | [] => (true, out)
  | piece :: pieces =>
    match out.put piece with
    | (true, out) => putAll out pieces
    | (false, out) => (false, out)

end Output

def encode (cs : List Char) : Bytes := cs.flatMap String.utf8EncodeChar

def onOutput (e : Error) (step : Output → Bool × Output) : Action State Unit := fun s =>
  match s with
  | .isOpen out =>
    match step out with
    | (true, out) => .ok () (.isOpen out)
    | (false, out) => .error e (.isOpen out)
  | s => .error Sink.afterClose s

def putLine (j : Json) : Action State Unit := do
  onOutput notEncoded (·.putAll (j.pieces.map encode))
  onOutput refused (·.put (encode ['\n']))

def passOn (out : Output) : Bool × Output :=
  match out.pass with
  | some out => (true, out)
  | none => (false, out)

/-- The output is gone even where its last text is refused. -/
def close : Action State Unit := fun s =>
  match s with
  | .isOpen out =>
    match out.pass with
    | some out => .ok () (.closed out.device.written)
    | none => .error refused .lost
  | s => .error Sink.afterClose s

def text : State → Except Error Bytes
  | .isOpen out =>
    match out.pass with
    | some out => .ok out.device.written
    | none => .error refused
  | .closed text => .ok text
  | .lost => .error Sink.afterClose

def deleteLines : List DeleteOrder → Action State Unit
  | [] => pure ()
  | row :: rows => do
    putLine row.json
    deleteLines rows

def sink : Sink State where
  write record := do
    putLine record.json
    return record.json
  delete rows := do
    deleteLines rows
    return .ofRows rows
  flush := onOutput refused passOn
  close := close

def start : State := .isOpen {}

end WideRow.LineSink
