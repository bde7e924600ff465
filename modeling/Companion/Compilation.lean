import Companion.Generator
import Companion.OutputFile
import Companion.Source.File

/-! Compiling source files: the annotated types they declare, with all that is generated for them.
The compilation of several files is that of each, put together in order. -/
namespace Companion

/-- A file that has been read: its path and the types it declares. -/
structure SourceUnit where
  file : Path
  declarations : List Declaration
  deriving DecidableEq, Repr

inductive CompileError where
  /-- A text that is no source file. -/
  | malformed (file : Path)
  | directive (cause : AnnotatedType.CollectError)
  | generation (cause : GenerationError)

def CompileError.message : CompileError → String
  | .malformed file => "Failed to parse " ++ file.display
  | .directive cause => cause.message
  | .generation cause => cause.message

/-- The unit that a text makes. -/
def SourceUnit.ofText (file : Path) (text : String) : Except CompileError SourceUnit :=
  match Source.declarations? text with
  | some declarations => .ok ⟨file, declarations⟩
  | none => .error (.malformed file)

structure Compilation where
  units : Nat
  types : List AnnotatedType
  generation : Generation
  deriving DecidableEq, Repr

namespace Compilation

def empty : Compilation := ⟨0, [], .empty⟩

instance : Append Compilation :=
  ⟨fun a b => ⟨a.units + b.units, a.types ++ b.types, a.generation ++ b.generation⟩⟩

@[simp] theorem units_append (a b : Compilation) : (a ++ b).units = a.units + b.units := rfl

@[simp] theorem types_append (a b : Compilation) : (a ++ b).types = a.types ++ b.types := rfl

@[simp] theorem generation_append (a b : Compilation) :
    (a ++ b).generation = a.generation ++ b.generation := rfl

/-- The files that the artifacts make. -/
def files (c : Compilation) : List OutputFile := OutputFile.assemble c.generation.artifacts

/-- The compilation of one unit. -/
def ofUnit (g : Generator) (unit : SourceUnit) : Logged CompileError Compilation := do
  let types ← (AnnotatedType.collect unit.file unit.declarations).mapError .directive
  Logged.report (.annotated unit.file types.length)
  let generation ← (g.generateAll unit.file types).mapError .generation
  return ⟨1, types, generation⟩

/-- The compilation of a text. -/
def ofText (g : Generator) (file : Path) (text : String) : Logged CompileError Compilation := do
  ofUnit g (← Logged.ofExcept (SourceUnit.ofText file text))

/-- The compilation of several texts; the first error ends it. -/
def ofTexts (g : Generator) : List (Path × String) → Logged CompileError Compilation
  | [] => return .empty
  | (file, text) :: rest => do
    let first ← ofText g file text
    let others ← ofTexts g rest
    return first ++ others

end Compilation
end Companion
