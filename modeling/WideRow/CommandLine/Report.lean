import WideRow.CommandLine.Arguments
import WideRow.Partition
import WideRow.Store.Dump

namespace WideRow.CommandLine

inductive Entry where
  | missing
  /-- Opens like a file but cannot be read. -/
  | folder
  | file (bytes : Bytes)

abbrev Files := String → Entry

structure Report where
  exitCode : Nat
  output : Bytes := []
  messages : List Json := []

def versionText : String := "cellshift 0.3.0"

def helpText : String :=
  "Usage: cellshift run --job <JOB> --table <TABLE> [--partitions <PARTITIONS>] [--stats]\n" ++
    "       cellshift check --job <JOB>"

def line (s : String) : Bytes := Text.Utf8.encode (s ++ "\n")

def ioFailure (message : String) : Error := (Error.of .io message).caused

def readJob (files : Files) (path : String) : Except Error (Job × Plan) := do
  let unreadable := ioFailure ("failed to read job file " ++ path)
  let job ←
    match files path with
    | .file bytes =>
      match Text.Utf8.decode? bytes with
      | some s => Job.read s
      | none => throw unreadable
    | _ => throw unreadable
  return (job, ← job.plan)

def readTable (files : Files) (path : String) : Except Error Store :=
  match files path with
  | .file bytes => Dump.read bytes
  | .folder => .error Dump.unreadable
  | .missing => .error (ioFailure ("failed to open table dump " ++ path))

def summary (job : Job) (plan : Plan) : Json :=
  Json.members [
    ("ok", .bool true),
    ("families", Json.texts plan.neededFamilies),
    ("static_columns", .nat plan.schema.statics.length),
    ("dynamic_columns", .nat plan.schema.dynamics.length),
    ("predicate_leaves", .nat plan.leaves.length),
    ("documents", .nat plan.documents.length),
    ("incremental", .bool job.settings.incremental)]

def checkReport (files : Files) (path : String) : Except Error Report := do
  let (job, plan) ← readJob files path
  let _ ← job.window
  return { exitCode := 0, output := line (summary job plan).print }

/-- The program breaks off without a word of its own. -/
def brokenOff : Report := { exitCode := 101 }

def statsLine (stats : Stats) : Json := Json.members [("stats", stats.json)]

def runReport (files : Files) (jobPath tablePath : String) (count : Nat) (stats : Bool) :
    Except Error Report := do
  let (job, plan) ← readJob files jobPath
  let window ← job.window
  let store ← readTable files tablePath
  match ← Partition.write job plan window store count with
  | none => return brokenOff
  | some written => return {
      exitCode := 0
      output := written.texts.flatten
      messages := if stats then [statsLine written.stats] else [] }

def execute (files : Files) : Command → Except Error Report
  | .check job => checkReport files job
  | .run job table count stats => runReport files job table count stats

def hint? : Error.Kind → Option String
  | .io => some "I/O error. Check the paths and that the files are readable."
  | .validation =>
    some "The job does not match its schema. Fix the job file and rerun `cellshift check`."
  | _ => none

def hinted (e : Error) : Error := { e with hint := e.hint.or (hint? e.kind) }

def defaultMessage : Error.Kind → String
  | .internal => "internal error"
  | .usage => "usage error"
  | .schema => "schema error"
  | .validation => "validation error"
  | .malformedRowKey => "malformed row key"
  | .malformedGroup => "malformed dynamic group"
  | .malformedDocument => "malformed document"
  | .io => "i/o error"

def member (name : String) (value : Option String) : List (String × Json) :=
  value.toList.map fun s => (name, .text s)

def errorLine (e : Error) : Json :=
  Json.members [("error", Json.members (
    [("kind", .text e.kind.name), ("message", .text (e.message.getD (defaultMessage e.kind)))] ++
      member "hint" e.hint ++ member "row" (e.rowKey.map Text.Utf8.decodeLossy) ++
      member "family" e.family ++ if e.causes = 0 then [] else [("causes", .nat e.causes)]))]

def failure (e : Error) : Report := { exitCode := e.kind.exitCode, messages := [errorLine e] }

def Fault.error (f : Fault) : Error :=
  { Error.of .usage f.message with hint := some "Try `cellshift --help`." }

def answer (files : Files) : Request → Report
  | .version => { exitCode := 0, output := line versionText }
  | .help => { exitCode := 0, output := line helpText }
  | .incomplete => { exitCode := 2 }
  | .command c =>
    match execute files c with
    | .ok report => report
    | .error e => failure (hinted e)

def report (files : Files) (arguments : List String) : Report :=
  match readRequest arguments with
  | .ok request => answer files request
  | .error fault => failure fault.error

end WideRow.CommandLine
