import TapeDebugger.CommandLine
import TapeDebugger.Server.Protocol
import TapeDebugger.Settings.Schema

/-!
# Starting the server

From a command line to a running server: the flags say which settings file to
read, and override what it says about logging. The first thing that goes wrong
ends the start.

Files are reached through `FileAccess`, so that the order of these steps is stated
without saying what a file is.
-/

namespace TapeDebugger

/-- What can be wrong with a file. -/
inductive FileProblem where
  | missing
  /-- A part of the path that should be a directory is none. -/
  | notDirectory
  | isDirectory
  | nameTooLong
  /-- The path has a null character. -/
  | invalidName
  | other (text : String)
deriving Repr, DecidableEq

/-- How a problem with a file is reported. -/
def FileProblem.message : FileProblem → String
  | missing => "no such file or directory"
  | notDirectory => "not a directory"
  | isDirectory => "is a directory"
  | nameTooLong => "file name too long"
  | invalidName => "invalid argument"
  | other text => text

/-- The steps of using a file. -/
inductive FileStep where
  | opening
  | reading
deriving Repr, DecidableEq

/-- A file that cannot be used. -/
structure FileFault where
  step : FileStep
  path : String
  problem : FileProblem
deriving Repr, DecidableEq

/-- How a file that cannot be used is reported. -/
def FileFault.message (fault : FileFault) : String :=
  (match fault.step with
    | .opening => "open "
    | .reading => "read ") ++ fault.path ++ ": " ++ fault.problem.message

/-- What the start does with files. -/
structure FileAccess (m : Type → Type) where
  /-- The content of a file. -/
  read : String → m (Except FileFault (List UInt8))
  /-- Open a file for appending, making it if necessary. -/
  openLog : String → m (Except FileFault Unit)

/-- Why the server does not start. -/
inductive LaunchFault where
  | flags (fault : FlagFault)
  | file (fault : FileFault)
  /-- The settings file is refused. -/
  | settings (path : String)
  | level (fault : LevelFault)
  | session (fault : ConfigFault)
  | executor (fault : ExecutorFault)
  | server (fault : ServerFault)
deriving Repr, DecidableEq

namespace LaunchFault

/-- How a failed start is reported. -/
def message : LaunchFault → String
  | flags fault => fault.message
  | file fault => fault.message
  | settings path => s!"config {path}: invalid settings"
  | level fault => fault.message
  | session fault => fault.message
  | executor fault => fault.message
  | server fault => fault.message

/-- What the caller is shown besides: the usage, when the flags are wrong. -/
def report : LaunchFault → List String
  | flags fault => fault.report
  | _ => []

end LaunchFault

/-- A server together with where its log records go. -/
structure Service where
  server : Server
  /-- The least level that is written. -/
  level : LogLevel
  /-- The file that gets records too, unless empty. -/
  logFile : String

namespace Service

/-- What is logged when the server is ready. -/
def greeting : LogRecord where
  level := .info
  message := "brainfaq-mcp server running on stdio"
  attributes := []

/-- The log record of a session operation that took so many milliseconds. -/
def operationLog (record : Record) (milliseconds : String) : LogRecord where
  level := .debug
  message := record.logMessage milliseconds
  attributes := []

/-- What is logged for a line from a client: the session's operation first. -/
def logs (served : Served) (milliseconds : String) : List LogRecord :=
  (served.record.map fun record => operationLog record milliseconds).toList ++ served.log.toList

/-- The records of a service that are written. -/
def written (service : Service) (records : List LogRecord) : List LogRecord :=
  LogRecord.atLeast service.level records

end Service

namespace CommandLine

open Settings

/-- The logging that the command line asks for on top of a settings file. -/
def logSettings (line : CommandLine) (file : SettingsFile) : LogSettings where
  level := if line.logLevel.isEmpty then file.log.level else line.logLevel
  journal := line.logJournal || file.log.journal
  file := if line.logFile.isEmpty then file.log.file else line.logFile

variable {m : Type → Type} [Monad m]

/-- The settings file that the command line names, or empty settings. -/
def readSettings (files : FileAccess m) (line : CommandLine) :
    ExceptT LaunchFault m SettingsFile := do
  if line.config.isEmpty then return {}
  match ← (files.read line.config : m _) with
  | .error fault => throw (.file fault)
  | .ok source =>
    match SettingsFile.parse? source with
    | some file => return file
    | none => throw (.settings line.config)

/-- Where log records go. The level is looked at before the file is opened. -/
def openLogs (files : FileAccess m) (settings : LogSettings) :
    ExceptT LaunchFault m LogLevel := do
  match LogLevel.ofSetting settings.level with
  | .error fault => throw (.level fault)
  | .ok level =>
    if settings.file.isEmpty then return level
    match ← (files.openLog settings.file : m _) with
    | .error fault => throw (.file fault)
    | .ok () => return level

/-- The server of a settings file. -/
def serverOf (file : SettingsFile) : Except LaunchFault Server :=
  match Session.create file.sessionConfig with
  | .error fault => .error (.session fault)
  | .ok session =>
    match Executor.create (.ofSession session "") with
    | .error fault => .error (.executor fault)
    | .ok executor =>
      match Server.create (some executor) { name := "", version := "" } with
      | .error fault => .error (.server fault)
      | .ok server => .ok server

/-- Start the server that a command line asks for. -/
def launch (files : FileAccess m) (arguments : List String) : ExceptT LaunchFault m Service := do
  match parse arguments with
  | .error fault => throw (.flags fault)
  | .ok line =>
    let file ← readSettings files line
    let settings := line.logSettings file
    let level ← openLogs files settings
    match serverOf file with
    | .error fault => throw fault
    | .ok server => return { server, level, logFile := settings.file }

end CommandLine

end TapeDebugger
