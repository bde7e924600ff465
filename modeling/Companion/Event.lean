import Companion.Path

/-! What a run reports while it works. An event is a fact of the run; its level, its target (the
part of the program that speaks) and its wording are functions of it. -/
namespace Companion

/-- Levels from the most to the least urgent. -/
inductive Level where
  | error | warn | info | debug | trace
  deriving DecidableEq, Repr

namespace Level

/-- The rank of a level: the higher, the more talkative. -/
def rank : Level → Nat
  | .error => 1
  | .warn => 2
  | .info => 3
  | .debug => 4
  | .trace => 5

def text : Level → String
  | .error => "ERROR"
  | .warn => "WARN"
  | .info => "INFO"
  | .debug => "DEBUG"
  | .trace => "TRACE"

end Level

/-- The part of the program that reports. -/
inductive Target where
  | loader | collector | families | messages | output | pipeline | program
  deriving DecidableEq, Repr

def Target.text : Target → String
  | .loader => "annogen_collect::rust"
  | .collector => "annogen_collect::collector"
  | .families => "annogen_codegen::families"
  | .messages => "annogen_codegen::families::i18n"
  | .output => "annogen_codegen::output"
  | .pipeline => "annogen_cli::pipeline"
  | .program => "annogen"

inductive Event where
  | skippedGenerated (file : Path)
  | discovered (count : Nat) (root : Path)
  | undocumented (file : Path) (type : String)
  | unsupportedShape (file : Path) (type : String)
  | carries (file : Path) (type : String) (count : Nat)
  | unsupportedDirective (file : Path) (type directive : String)
  | noOutput (file : Path) (type directive : String)
  | rendered (type directive : String)
  | unknownDefault (type locale fallback : String)
  | upToDate (file : Path)
  | wroteBytes (file : Path) (size : Nat)
  | annotated (file : Path) (count : Nat)
  | wrote (file : Path)
  | outOfDate (file : Path)
  | wouldWrite (file : Path)
  | diagnosed (text : String)
  | finished (units types artifacts written unchanged : Nat)
  | failed (text : String)
  deriving DecidableEq, Repr

namespace Event

def level : Event → Level
  | .undocumented .. => .trace
  | .skippedGenerated .. | .discovered .. | .unsupportedShape .. | .carries .. => .debug
  | .unsupportedDirective .. | .rendered .. | .upToDate .. | .wroteBytes .. | .annotated .. =>
    .debug
  | .noOutput .. | .wrote .. | .wouldWrite .. | .finished .. => .info
  | .unknownDefault .. | .outOfDate .. | .diagnosed .. => .warn
  | .failed .. => .error

def target : Event → Target
  | .skippedGenerated .. | .discovered .. => .loader
  | .undocumented .. | .unsupportedShape .. | .carries .. => .collector
  | .unsupportedDirective .. | .noOutput .. | .rendered .. => .families
  | .unknownDefault .. => .messages
  | .upToDate .. | .wroteBytes .. => .output
  | .annotated .. | .wrote .. | .outOfDate .. | .wouldWrite .. => .pipeline
  | .diagnosed .. | .finished .. | .failed .. => .program

/-- A name between backticks. -/
def ticked (name : String) : String := "`" ++ name ++ "`"

def message : Event → String
  | .skippedGenerated file => "Skipping generated file " ++ file.display
  | .discovered count root =>
    "Discovered " ++ toString count ++ " source files under " ++ root.display
  | .undocumented file type => file.display ++ ": " ++ ticked type ++ " has no doc comment"
  | .unsupportedShape file type =>
    file.display ++ ": " ++ ticked type ++ " has an unsupported shape, skipping"
  | .carries file type count =>
    file.display ++ ": " ++ ticked type ++ " carries " ++ toString count ++ " directive(s)"
  | .unsupportedDirective file type directive =>
    file.display ++ ": directive '" ++ directive ++ "' on " ++ ticked type ++ " is not supported"
  | .noOutput file type directive =>
    file.display ++ ": " ++ directive ++ " directive on " ++ ticked type ++
      " produces no output, skipping"
  | .rendered type directive => "Rendered " ++ directive ++ " for " ++ ticked type
  | .unknownDefault type locale fallback =>
    "i18n directive on " ++ ticked type ++ " names default locale '" ++ locale ++
      "' which matches no argument, using '" ++ fallback ++ "'"
  | .upToDate file => file.display ++ " is up to date"
  | .wroteBytes file size => "Wrote " ++ file.display ++ " (" ++ toString size ++ " bytes)"
  | .annotated file count => file.display ++ ": " ++ toString count ++ " annotated type(s)"
  | .wrote file => "Wrote " ++ file.display
  | .outOfDate file => file.display ++ " is out of date"
  | .wouldWrite file => "Would write " ++ file.display
  | .diagnosed text => text
  | .finished .. => "Generation finished"
  | .failed text => text

/-- The numbers that go with the message, by name. -/
def fields : Event → List (String × Nat)
  | .finished units types artifacts written unchanged =>
    [("units", units), ("types", types), ("artifacts", artifacts), ("written", written),
      ("unchanged", unchanged)]
  | _ => []

end Event
end Companion
