import TapeDebugger.Text.Quoted

/-!
# The command line

A flag is a name behind one or two dashes. Its value stands behind an equals sign
or, except for a switch, in the next argument. Reading stops at the first argument
that is no flag and behind a pair of dashes; what follows is ignored.
-/

namespace TapeDebugger

/-- The flags of the program. -/
inductive Flag where
  | config
  | logFile
  | logJournal
  | logLevel
deriving Repr, DecidableEq

namespace Flag

/-- The flag of a name. -/
def ofName? (name : String) : Option Flag :=
  match name with
  | "config" => some config
  | "log-file" => some logFile
  | "log-journal" => some logJournal
  | "log-level" => some logLevel
  | _ => none

/-- Whether the flag is on or off and takes no argument. -/
def isSwitch : Flag → Bool
  | logJournal => true
  | _ => false

/-- The setting of a switch that a word denotes. -/
def switchValue? (word : String) : Option Bool :=
  match word with
  | "1" | "t" | "T" | "true" | "TRUE" | "True" => some true
  | "0" | "f" | "F" | "false" | "FALSE" | "False" => some false
  | _ => none

end Flag

/-- What the command line says. A flag that is not given is empty or off. -/
structure CommandLine where
  /-- The settings file to read. -/
  config : String := ""
  /-- The file that gets log records too. -/
  logFile : String := ""
  /-- Whether the system journal gets log records too. -/
  logJournal : Bool := false
  /-- The least level of the records that are written. -/
  logLevel : String := ""
deriving Repr, DecidableEq

/-- Why a command line is refused. -/
inductive FlagFault where
  | malformed (argument : String)
  | undefined (name : String)
  | missingValue (name : String)
  | badSwitch (name value : String)
  /-- Not a mistake: the caller wants to see the usage. -/
  | helpRequested
deriving Repr, DecidableEq

namespace FlagFault

/-- How a refused command line is reported. -/
def message : FlagFault → String
  | malformed argument => "bad flag syntax: " ++ argument
  | undefined name => "flag provided but not defined: -" ++ name
  | missingValue name => "flag needs an argument: -" ++ name
  | badSwitch name value =>
    "invalid boolean value " ++ Text.quoted value ++ " for -" ++ name ++ ": parse error"
  | helpRequested => "flag: help requested"

/-- What the program tells about its flags. -/
def usage : List String := [
  "Usage of brainfaq:",
  "  -config string",
  "    \tpath to a CUE configuration file",
  "  -log-file string",
  "    \talso append JSON logs to this file",
  "  -log-journal",
  "    \talso log to the systemd journal",
  "  -log-level string",
  "    \tlog level: debug, info, warn or error"]

/-- What is shown to the caller: the mistake, if there is one, and the usage. -/
def report (fault : FlagFault) : List String :=
  match fault with
  | helpRequested => usage
  | fault => fault.message :: usage

end FlagFault

/-- What an argument is. -/
inductive ArgumentForm where
  /-- No flag, so that the flags end before it. -/
  | operand
  /-- A flag with the value behind its equals sign. -/
  | flag (name : String) (value : Option String)
  /-- Dashes without a name. -/
  | malformed
deriving Repr, DecidableEq

namespace ArgumentForm

/-- Split a flag without its dashes at its first equals sign. -/
def ofBody (body : List Char) : ArgumentForm :=
  match body with
  | [] | '-' :: _ | '=' :: _ => malformed
  | body =>
    let name := String.ofList (body.takeWhile (· != '='))
    match body.dropWhile (· != '=') with
    | [] => flag name none
    | _ :: value => flag name (some (String.ofList value))

/-- The form of an argument. -/
def ofArgument (argument : String) : ArgumentForm :=
  match argument.toList with
  | ['-'] | ['-', '-'] => operand
  | '-' :: '-' :: body => ofBody body
  | '-' :: body => ofBody body
  | _ => operand

end ArgumentForm

namespace CommandLine

/-- Set a flag that takes a text. -/
def setText (line : CommandLine) (flag : Flag) (value : String) : CommandLine :=
  match flag with
  | .config => { line with config := value }
  | .logFile => { line with logFile := value }
  | .logLevel => { line with logLevel := value }
  | .logJournal => line

/-- Set a switch, which without a value is turned on. -/
def setSwitch (line : CommandLine) (name : String) (value : Option String) :
    Except FlagFault CommandLine :=
  match value with
  | none => .ok { line with logJournal := true }
  | some value =>
    match Flag.switchValue? value with
    | some setting => .ok { line with logJournal := setting }
    | none => .error (.badSwitch name value)

/-- Read arguments on top of those before them; a flag given again counts
anew. -/
def parseFrom : (line : CommandLine) → (arguments : List String) → Except FlagFault CommandLine
  | line, [] => .ok line
  | line, argument :: rest =>
    match ArgumentForm.ofArgument argument with
    | .operand => .ok line
    | .malformed => .error (.malformed argument)
    | .flag name value =>
      match Flag.ofName? name with
      | none =>
        if name = "help" ∨ name = "h" then .error .helpRequested else .error (.undefined name)
      | some flag =>
        if flag.isSwitch then
          match line.setSwitch name value with
          | .error fault => .error fault
          | .ok line => parseFrom line rest
        else
          match value, rest with
          | some value, rest => parseFrom (line.setText flag value) rest
          | none, value :: rest => parseFrom (line.setText flag value) rest
          | none, [] => .error (.missingValue name)

/-- Read the arguments of the program. -/
def parse (arguments : List String) : Except FlagFault CommandLine :=
  parseFrom {} arguments

end CommandLine

end TapeDebugger
