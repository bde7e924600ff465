import Companion.Event
import Companion.Template.Value

/-! Which events a run shows, and how. A filter gives a level to the targets that start with its
scope and turns the others off. -/
namespace Companion

structure LogFilter where
  scope : String
  /-- The most talkative level that is shown; nothing is shown without one. -/
  level : Option Level
  deriving DecidableEq, Repr

namespace LogFilter

/-- A filter for all targets. -/
def ofLevel (level : Level) : LogFilter := ⟨"", some level⟩

def admits (f : LogFilter) (e : Event) : Bool :=
  f.scope.toList.isPrefixOf e.target.text.toList &&
    match f.level with
    | some level => e.level.rank ≤ level.rank
    | none => false

/-- The names of the levels, in small letters, and their numbers. -/
def levelNames : List (String × Option Level) :=
  [("off", none), ("error", some .error), ("warn", some .warn), ("info", some .info),
    ("debug", some .debug), ("trace", some .trace), ("0", none), ("1", some .error),
    ("2", some .warn), ("3", some .info), ("4", some .debug), ("5", some .trace)]

/-- The level of a name, in letters of any case. -/
def level? (name : List Char) : Option (Option Level) :=
  levelNames.lookup (String.ofList (name.map Char.toLower))

/-- The filter of a text: a level for all targets, a scope with a level behind an equals sign, or a
scope alone, which shows all of its events. An empty text shows errors. -/
def ofText? (text : String) : Option LogFilter :=
  let cs := text.toList
  if cs.isEmpty then some (ofLevel .error)
  else
    match level? cs with
    | some level => some ⟨"", level⟩
    | none =>
      let scope := String.ofList (cs.takeWhile (· ≠ '='))
      match cs.dropWhile (· ≠ '=') with
      | [] => some ⟨scope, some .trace⟩
      | _ :: name => (level? name).map fun level => ⟨scope, level⟩

end LogFilter

inductive LogFormat where
  | text | json
  deriving DecidableEq, Repr

def LogFormat.ofName? : String → Option LogFormat
  | "text" => some .text
  | "json" => some .json
  | _ => none

namespace Event

/-- The fields behind the message of a line. -/
def fieldsText (e : Event) : String :=
  String.join (e.fields.map fun (name, n) => " " ++ name ++ "=" ++ toString n)

/-- The event as a line of text. -/
def line (e : Event) (withTarget : Bool) : String :=
  e.level.text ++ " " ++ (if withTarget then e.target.text ++ ": " else "") ++ e.message ++
    e.fieldsText

/-- The event as a record. -/
def record (e : Event) : Value :=
  .record [("level", .text e.level.text), ("target", .text e.target.text),
    ("fields", .record (("message", .text e.message) ::
      e.fields.map fun (name, n) => (name, .integer n)))]

/-- The event as an entry of the log. -/
def entry (e : Event) (format : LogFormat) (withTarget : Bool) : Value :=
  match format with
  | .text => .text (e.line withTarget)
  | .json => e.record

end Event
end Companion
