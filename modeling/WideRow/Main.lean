import WideRow.CommandLine.Report

namespace WideRow.CommandLine

def entry (path : String) : IO Entry := do
  try
    return .file (← IO.FS.readBinFile path).toList
  catch
    | .inappropriateType .. => return .folder
    | _ => return .missing

def paths (arguments : List String) : List String :=
  match readRequest arguments with
  | .ok (.command c) => c.paths
  | _ => []

end WideRow.CommandLine

open WideRow

def main (arguments : List String) : IO UInt32 := do
  let entries ← (CommandLine.paths arguments).mapM fun path =>
    return (path, ← CommandLine.entry path)
  let files : CommandLine.Files := fun path => (entries.lookup path).getD .missing
  let report := CommandLine.report files arguments
  (← IO.getStdout).write ⟨report.output.toArray⟩
  for message in report.messages do
    (← IO.getStderr).putStrLn message.print
  return report.exitCode.toUInt32
