import Companion.MessageTable
import Companion.Template.Engine

/-! What generation gives for a type: artifacts, and diagnostics for directives that no family
knows. `GenerationError` lists the causes for which there is no result at all. -/
namespace Companion

/-- Formatted code for one directive on one type. -/
structure Artifact where
  source : Path
  directive : String
  type : String
  body : String
  deriving DecidableEq, Repr

/-- A directive that no family knows. -/
structure Diagnostic where
  source : Path
  type : String
  directive : String
  deriving DecidableEq, Repr

def Diagnostic.text (d : Diagnostic) : String :=
  (Event.unsupportedDirective d.source d.type d.directive).message

structure Generation where
  artifacts : List Artifact
  diagnostics : List Diagnostic
  deriving DecidableEq, Repr

namespace Generation

def empty : Generation := ⟨[], []⟩

instance : Append Generation :=
  ⟨fun a b => ⟨a.artifacts ++ b.artifacts, a.diagnostics ++ b.diagnostics⟩⟩

@[simp] theorem artifacts_append (a b : Generation) :
    (a ++ b).artifacts = a.artifacts ++ b.artifacts := rfl

@[simp] theorem diagnostics_append (a b : Generation) :
    (a ++ b).diagnostics = a.diagnostics ++ b.diagnostics := rfl

end Generation

inductive GenerationError where
  | invalidArgument (cause : MessageTable.InvalidArgument)
  | duplicateDirective (type directive : String)
  | duplicateFamily (name : String)
  | render (cause : RenderError)
  | invalidTemplate (family : String)
  /-- Rendered text that is no code. -/
  | formatting

def GenerationError.message : GenerationError → String
  | .invalidArgument cause => cause.message
  | .duplicateDirective type directive =>
    "Directive '" ++ directive ++ "' appears more than once on `" ++ type ++ "`"
  | .duplicateFamily name => "Directive family '" ++ name ++ "' is already registered"
  | .render cause => "Template error: " ++ cause.message
  | .invalidTemplate _ => "Invalid template"
  | .formatting => "Code formatting error"

end Companion
