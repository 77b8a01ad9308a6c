/-
# The command line

A server for a single client, which writes requests to standard input, one to
a line, and reads the responses from standard output.  The log goes to
standard error.  The server stops when the client stops writing.

Everything that matters is decided elsewhere; here bytes are moved.
-/
import DirectorySessions.Program

namespace DirectorySessions.CommandLine

/-- What is found at the place of the settings file. -/
def readFile (path : String) : IO Settings.FileContent := do
  try
    return .ofBytes (← IO.FS.readBinFile path)
  catch
    | .noFileOrDirectory .. => return .missing
    | .inappropriateType .. => return .unreadable .directory
    | e => return .unreadable (.other (toString e))

def readEnvironment : IO Settings.Environment := do
  let found ← Program.watchedVariables.filterMapM fun key => do
    return (← IO.getEnv key).map fun value => (key, value)
  return fun key => (found.find? fun v => v.1 = key).map (·.2)

def writeLog (asObjects : Bool) (events : List LogEvent) : IO Unit :=
  for e in events do
    IO.eprintln (if asObjects then e.toJson.text else e.text)

def writeReceived (x : Exchange) : IO Unit := do
  for l in x.links do
    for line in l.received do
      IO.println line
  (← IO.getStdout).flush

def moveOn (x : Exchange) (m : Move) : IO Exchange := do
  let (x, _) := x.move m
  writeReceived x
  return x

def client : String := "stdin"

/-- Let time pass until no job is under way. -/
partial def wait (x : Exchange) : IO Exchange := do
  match (x.alarms.map (·.1)).min? with
  | none => return x
  | some t =>
    let ms := t - x.now
    IO.sleep ms.toUInt32
    wait (← moveOn x (.advance ms))

/-- Serve lines until there are no more. -/
partial def serve (x : Exchange) : IO Exchange := do
  let line ← (← IO.getStdin).getLine
  if line.isEmpty then moveOn x (.leave client .stopWriting)
  else
    let x ← moveOn x (.send client line.toUTF8.toList none)
    serve (← wait x)

end DirectorySessions.CommandLine

open DirectorySessions in
/-- Serve the client at standard input. -/
def main : IO UInt32 := do
  let file ← CommandLine.readFile (Settings.path (← IO.getEnv "HOME"))
  match Program.prepare file (← CommandLine.readEnvironment) with
  | .error report =>
    IO.eprint report
    return 1
  | .ok p =>
    IO.eprint p.complaint
    CommandLine.writeLog p.settings.logJson (p.opening p.settings.address)
    let session : SessionId := ⟨SessionId.madeUpMark ++ toString (← IO.monoNanosNow)⟩
    let x ← CommandLine.moveOn p.server (.connect CommandLine.client session)
    let x ← CommandLine.wait (← CommandLine.serve x)
    let (_, closed) := Server.stop x
    CommandLine.writeLog p.settings.logJson (p.closing closed)
    return 0
