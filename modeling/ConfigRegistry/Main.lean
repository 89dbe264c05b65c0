import ConfigRegistry.Program
import ConfigRegistry.Time.Rfc3339
import Std.Time.DateTime.Timestamp

/-!
The program. It takes its settings from the environment and from the file of variables in the
working directory, starts, and runs until its standard input ends.
-/
namespace ConfigRegistry

def variableFile : String := ".env"

def readVariables (names : List String) : IO Settings.Environment :=
  names.filterMapM fun name => do
    return (← IO.getEnv name).map fun value => (name, Coding.Utf8.encode value)

def readVariableFile : IO (Option (List UInt8)) := do
  try
    return some (← IO.FS.readBinFile variableFile).toList
  catch _ => return none

def timeText : IO String := do
  let t ← Std.Time.Timestamp.now
  let nanos := t.toNanosecondsSinceUnixEpoch.toInt / 1000 * 1000
  return Time.Rfc3339.render ⟨nanos / 1000000000, (nanos % 1000000000).toNat⟩

def writeLines (style : Program.Style) (notices : List Log.Notice) : IO Unit := do
  let out ← IO.getStdout
  for line in style.lines (← timeText) notices do
    out.putStrLn line
  out.flush

/-- Waits until nothing more comes in. -/
partial def awaitEnd (input : IO.FS.Stream) : IO Unit := do
  if (← input.getLine).isEmpty then return () else awaitEnd input

end ConfigRegistry

open ConfigRegistry in
def main : IO UInt32 := do
  let file ← readVariableFile
  let names := Program.variableNames ++ Program.mentioned (file.getD [])
  let environment ← readVariables names.eraseDups
  let report := Program.start ⟨environment, file, ⟨[], []⟩, false⟩
  writeLines report.style report.notices
  (← IO.getStderr).putStr report.complaint
  if report.fault.isNone then
    awaitEnd (← IO.getStdin)
    writeLines report.style (Program.shutdown .terminate)
  return report.exitCode.toUInt32
