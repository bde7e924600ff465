import Companion.CommandLine.LogFilter
import Companion.Run

/-! The command line. Arguments are read from left to right, and the first that decides ends the
reading: a fault, or a request for the version or for help. Options that exclude each other are a
fault at the end only. Where an option is absent, the environment may give its value. Arguments and
variables are texts here; a root whose bytes are none is given to `Generator.run` alone. -/
namespace Companion

/-- The environment variables that matter. -/
structure Environment where
  path : Option String
  logFormat : Option String
  logFilter : Option String
  deriving DecidableEq, Repr

structure Invocation where
  root : Path
  mode : Mode
  quiet : Bool
  verbosity : Nat
  format : LogFormat
  deriving DecidableEq, Repr

/-- What a command line asks for. -/
inductive Command where
  | run (invocation : Invocation)
  | version
  | help
  /-- A command line with a fault. -/
  | usage
  deriving DecidableEq, Repr

namespace CommandLine

/-- The arguments read so far. -/
structure Seen where
  path : Option String
  check : Bool
  dryRun : Bool
  verbosity : Nat
  quiet : Bool
  format : Option LogFormat
  deriving DecidableEq, Repr

def Seen.start : Seen := ⟨none, false, false, 0, false, none⟩

/-- Reading goes on, or a command is decided. -/
abbrev Reading := Except Command

/-- A flag that may be given once. -/
def once (given : Bool) (seen : Seen) : Reading Seen := if given then .error .usage else .ok seen

def flagCheck (seen : Seen) : Reading Seen := once seen.check { seen with check := true }

def flagDryRun (seen : Seen) : Reading Seen := once seen.dryRun { seen with dryRun := true }

def flagQuiet (seen : Seen) : Reading Seen := once seen.quiet { seen with quiet := true }

def flagVerbose (seen : Seen) : Reading Seen := .ok { seen with verbosity := seen.verbosity + 1 }

/-- The value of the format option. -/
def setFormat (seen : Seen) (name : String) : Reading Seen :=
  match seen.format, LogFormat.ofName? name with
  | none, some format => .ok { seen with format := some format }
  | _, _ => .error .usage

/-- An argument that is no option. There is at most one, and it is not empty. -/
def setPath (seen : Seen) (path : String) : Reading Seen :=
  if seen.path.isSome || path.isEmpty then .error .usage else .ok { seen with path := some path }

/-- A flag given by its letter. -/
def shortFlag (seen : Seen) (c : Char) : Reading Seen :=
  if c = 'v' then flagVerbose seen
  else if c = 'q' then flagQuiet seen
  else if c = 'V' then .error .version
  else if c = 'h' then .error .help
  else .error .usage

/-- A flag given by its name. -/
def longFlag (seen : Seen) (name : String) : Reading Seen :=
  match name with
  | "check" => flagCheck seen
  | "dry-run" => flagDryRun seen
  | "verbose" => flagVerbose seen
  | "quiet" => flagQuiet seen
  | "version" => .error .version
  | "help" => .error .help
  | _ => .error .usage

/-- The name of the only option with a value. -/
def formatOption : String := "log-format"

/-- The start of an option with its value in the same argument. -/
def formatEquals : List Char := "log-format=".toList

/-- A value of an option: an argument that is not itself an option. -/
def isValue (argument : String) : Bool :=
  match argument.toList with
  | '-' :: _ :: _ => false
  | _ => true

/-- Reads arguments. The flag says whether options may still come. -/
def readArguments : Bool → Seen → List String → Reading Seen
  | _, seen, [] => .ok seen
  | false, seen, argument :: rest => do readArguments false (← setPath seen argument) rest
  | true, seen, argument :: rest =>
    match argument.toList with
    | ['-', '-'] => readArguments false seen rest
    | '-' :: '-' :: name =>
      if name = formatOption.toList then
        match rest with
        | value :: rest =>
          if isValue value then do readArguments true (← setFormat seen value) rest
          else .error .usage
        | [] => .error .usage
      else if formatEquals.isPrefixOf name then do
        readArguments true (← setFormat seen (String.ofList (name.drop formatEquals.length))) rest
      else do readArguments true (← longFlag seen (String.ofList name)) rest
    | '-' :: c :: letters => do
      readArguments true (← (c :: letters).foldlM shortFlag seen) rest
    | _ => do readArguments true (← setPath seen argument) rest

/-- The path of a run: an argument, else the environment, else the current directory. -/
def rootOf (env : Environment) (seen : Seen) : Reading Path :=
  match seen.path, env.path with
  | some path, _ => .ok ⟨path⟩
  | none, some path => if path.isEmpty then .error .usage else .ok ⟨path⟩
  | none, none => .ok ⟨"."⟩

/-- The format of the log: an option, else the environment, else text. -/
def formatOf (env : Environment) (seen : Seen) : Reading LogFormat :=
  match seen.format, env.logFormat with
  | some format, _ => .ok format
  | none, some name =>
    match LogFormat.ofName? name with
    | some format => .ok format
    | none => .error .usage
  | none, none => .ok .text

def modeOf (seen : Seen) : Mode :=
  if seen.check then .check else if seen.dryRun then .dryRun else .write

/-- The run that the arguments ask for, if none excludes another. -/
def invocationOf (env : Environment) (seen : Seen) : Reading Invocation := do
  if (seen.check && seen.dryRun) || (seen.quiet && seen.verbosity ≠ 0) then .error .usage
  else
    let root ← rootOf env seen
    let format ← formatOf env seen
    return ⟨root, modeOf seen, seen.quiet, seen.verbosity, format⟩

/-- The command that arguments and environment give. -/
def read (env : Environment) (arguments : List String) : Command :=
  match (readArguments true .start arguments).bind (invocationOf env) with
  | .ok invocation => .run invocation
  | .error command => command

end CommandLine

/-! ### Execution -/

/-- What the program leaves behind: its exit code, its output, its log, the files it wrote, and the
file tree. -/
structure Execution where
  exit : Nat
  output : List String
  log : List Value
  written : List Path
  tree : FileTree

namespace RunError

/-- The exit code of a failed run: 2 for sources that cannot be read as such, 3 for files that
cannot be reached, and 1 for all that goes wrong in generation. -/
def exitCode : RunError → Nat
  | .compile (.malformed _) => 2
  | .compile (.directive _) => 2
  | .compile (.generation _) => 1
  | .read .. | .notText _ | .walk .. | .write .. => 3

end RunError

/-- The exit code of a check that found files out of date. -/
def staleExit : Nat := 4

/-- The exit code of a command line with a fault. -/
def usageExit : Nat := 2

def versionLine : String := "annogen 0.1.0"

namespace Summary

/-- What the program reports of a finished run. -/
def events (s : Summary) : List Event :=
  (s.diagnostics.map fun d => .diagnosed d.text) ++
    [.finished s.units s.types s.artifacts s.written.length s.unchanged.length]

/-- The report that files are out of date. -/
def staleMessage (s : Summary) : String :=
  toString s.stale.length ++ " generated file(s) out of date, run annogen to regenerate"

end Summary

namespace Invocation

/-- The level that the flags ask for. -/
def level (i : Invocation) : Level :=
  match i.verbosity with
  | 0 => if i.quiet then .error else .warn
  | 1 => .info
  | 2 => .debug
  | _ => .trace

/-- Which events are shown: what the environment says, else what the flags ask for. -/
def filter (i : Invocation) (env : Environment) : LogFilter :=
  (env.logFilter.bind LogFilter.ofText?).getD (.ofLevel i.level)

/-- The entries that the log shows of some events. -/
def entries (i : Invocation) (env : Environment) (events : List Event) : List Value :=
  (events.filter (i.filter env).admits).map fun e => e.entry i.format (2 ≤ i.verbosity)

/-- The run with a generator, if there is one. -/
def performWith (i : Invocation) (t : FileTree) :
    Except GenerationError Generator → FileTree × Logged RunError Summary
  | .ok g => g.run i.mode t i.root
  | .error e => (t, Logged.fail (.compile (.generation e)))

/-- The run with the standard generator. -/
def perform (i : Invocation) (t : FileTree) : FileTree × Logged RunError Summary :=
  i.performWith t Generator.standard

/-- The files that the events of a run say were written. -/
def writtenFiles (events : List Event) : List Path :=
  events.filterMap fun
    | .wroteBytes file _ => some file
    | _ => none

/-- What the program leaves behind after a run with that outcome. -/
def conclude (i : Invocation) (env : Environment) :
    FileTree × Logged RunError Summary → Execution
  | (t, outcome) =>
    let written := writtenFiles outcome.events
    match outcome.result with
    | .error e =>
      ⟨e.exitCode, [], i.entries env (outcome.events ++ [.failed e.message]), written, t⟩
    | .ok s =>
      let output := s.planned.map Path.display
      let events := outcome.events ++ s.events
      if s.isClean then ⟨0, output, i.entries env events, written, t⟩
      else ⟨staleExit, output, i.entries env (events ++ [.failed s.staleMessage]), written, t⟩

/-- Runs the program as asked. -/
def execute (i : Invocation) (env : Environment) (t : FileTree) : Execution :=
  i.conclude env (i.perform t)

end Invocation

/-- Runs the program on a file tree. -/
def CommandLine.execute (env : Environment) (arguments : List String) (t : FileTree) : Execution :=
  match CommandLine.read env arguments with
  | .run invocation => invocation.execute env t
  | .version => ⟨0, [versionLine], [], [], t⟩
  | .help => ⟨0, [], [], [], t⟩
  | .usage => ⟨usageExit, [], [], [], t⟩

end Companion
