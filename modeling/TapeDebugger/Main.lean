import TapeDebugger.Launch

/-!
# The program

Standard input carries requests and standard output replies, a line each. Log
records go to standard error, and to a file when one is configured. Everything
that is decided here is decided by `CommandLine.launch` and `Server.respond`.
-/

namespace TapeDebugger

/-- How many chunks an unbounded run may take: more than any run that ends. -/
def patience : Nat := Nat.pow 2 60

/-- The problem behind a failed file operation. -/
def problemOf (error : IO.Error) : FileProblem :=
  match error with
  | .noFileOrDirectory .. => .missing
  | .inappropriateType _ code _ =>
    -- Depending on the call the code comes with either sign.
    if code = 21 ∨ code = -21 then .isDirectory else .notDirectory
  | error => .other (toString error)

/-- The files on disk. -/
def diskFiles : FileAccess IO where
  read path := do
    try
      return .ok (← IO.FS.readBinFile path).toList
    catch error =>
      let problem := problemOf error
      let step := if problem = .isDirectory then FileStep.reading else .opening
      return .error { step, path, problem }
  openLog path := do
    try
      let _ ← IO.FS.Handle.mk path .append
      return .ok ()
    catch error => return .error { step := .opening, path, problem := problemOf error }

/-- Write log records. -/
def writeLogs (service : Service) (records : List LogRecord) : IO Unit := do
  let records := service.written records
  let stderr ← IO.getStderr
  for record in records do
    stderr.putStrLn record.line
  unless service.logFile.isEmpty || records.isEmpty do
    let file ← IO.FS.Handle.mk service.logFile .append
    for record in records do
      file.putStrLn record.toJson.compact

/-- Answer requests until the input ends. -/
partial def serveLines (stdin stdout : IO.FS.Stream) (service : Service) : IO Unit := do
  let line ← stdin.getLine
  if line.isEmpty then return
  if line.trimAscii.isEmpty then serveLines stdin stdout service
  else
    let begun ← IO.monoMsNow
    match service.server.respond patience line with
    | none => throw (IO.userError "the run does not end")
    | some served =>
      let ended ← IO.monoMsNow
      writeLogs service (Service.logs served (toString (ended - begun)))
      if let some reply := served.reply then
        stdout.putStrLn reply.compact
        stdout.flush
      serveLines stdin stdout { service with server := served.server }

/-- Serve from the greeting to the end of the input. -/
def serve (service : Service) : IO Unit := do
  writeLogs service [Service.greeting]
  let (server, fault) := service.server.start
  if let some fault := fault then throw (IO.userError fault.message)
  serveLines (← IO.getStdin) (← IO.getStdout) { service with server }

/-- Start the server and serve. -/
def runProgram (arguments : List String) : IO UInt32 := do
  let stderr ← IO.getStderr
  match ← (CommandLine.launch diskFiles arguments).run with
  | .error fault =>
    for line in fault.report do
      stderr.putStrLn line
    stderr.putStrLn ("brainfaq: " ++ fault.message)
    return 1
  | .ok service =>
    try
      serve service
      return 0
    catch error =>
      stderr.putStrLn ("brainfaq: " ++ toString error)
      return 1

end TapeDebugger

/-- The program. -/
def main (arguments : List String) : IO UInt32 :=
  TapeDebugger.runProgram arguments
