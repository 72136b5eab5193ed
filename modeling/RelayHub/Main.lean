import RelayHub.Connect.Query
import RelayHub.Program

/-! The program on the command line. It reads its settings where it is started, writes its log to
standard output and reports a failure on standard error. There are no sockets here: the hub runs until
standard input ends, and connections are left to whoever embeds the library. -/
namespace RelayHub.Main

def content? (path : String) : IO (Option Bytes) := do
  try
    return some (← IO.FS.readBinFile path).toList
  catch _ => return none

def preset? : Nat → String → IO (Option Bytes)
  | 0, _ => return none
  | levels + 1, up => do
    match ← content? (up ++ ".env") with
    | some content => return some content
    | none => preset? levels (up ++ "../")

def environment : IO (List (String × String)) := do
  let block := (← content? "/proc/self/environ").getD []
  return (block.splitOn 0).filterMap fun entry => do
    let name ← Utf8.decode (entry.takeWhile (· ≠ 0x3D))
    let value ← Utf8.decode ((entry.dropWhile (· ≠ 0x3D)).drop 1)
    if name.isEmpty then none else some (name, value)

def settingsFiles : IO (List (String × Bytes)) := do
  let named := [("", "config/default"), ("toml", Settings.File.path "toml"),
    ("json", Settings.File.path "json")]
  let found ← named.mapM fun (ending, path) => return (ending, ← content? path)
  return found.filterMap fun (ending, content) => content.map (ending, ·)

def surroundings : IO Program.Surroundings := do
  return { files := ← settingsFiles, preset := ← preset? 64 "", environment := ← environment }

partial def untilEnd (input : IO.FS.Stream) : IO Unit := do
  if (← input.getLine).isEmpty then return else untilEnd input

def report (fault : Program.Fault) : IO UInt32 := do
  (← IO.getStderr).putStr fault.report
  return fault.exitCode.toUInt32

end RelayHub.Main

open RelayHub in
def main : IO UInt32 := do
  match Program.prepare (← Main.surroundings) with
  | .error fault => Main.report fault
  | .ok plan =>
    let bound := (Address.listen plan.address false).map Address.text
    match Program.begin plan bound with
    | .error fault => Main.report fault
    | .ok (log, session) =>
      (Program.shown plan log).forM IO.println
      Main.untilEnd (← IO.getStdin)
      (Program.shown plan (Program.finish session)).forM IO.println
      return 0
