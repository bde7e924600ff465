import Companion.Code.Reader
import Companion.Family.Messages

/-! Generators: families by name, with an engine that holds their templates. A directive that no
family knows gives a diagnostic and does not stop the others. A directive that one knows may stand
on a type once, whether or not it asks for something. -/
namespace Companion

structure Generator where
  engine : Engine
  families : List Family

namespace Generator

def empty : Generator := ⟨.empty, []⟩

/-- The names of the families, in the order of their registration. -/
def names (g : Generator) : List String := g.families.map Family.name

def family? (g : Generator) (name : String) : Option Family := g.families.find? (·.name = name)

/-- Adds the template of a family to the engine. Gives the generator that is left, also on
failure. -/
def addTemplate (g : Generator) (f : Family) : Except GenerationError Unit × Generator :=
  match g.engine.add f.name f.template with
  | some engine => (.ok (), { g with engine })
  | none => (.error (.invalidTemplate f.name), g)

/-- Adds a family behind the others. -/
def addFamily (g : Generator) (f : Family) : Generator := { g with families := g.families ++ [f] }

/-- Registers a family: its template first, and then the family itself. Gives the generator that is
left, also on failure. -/
def register (g : Generator) (f : Family) : Except GenerationError Unit × Generator :=
  if (g.family? f.name).isSome || g.engine.has f.name then (.error (.duplicateFamily f.name), g)
  else
    match g.addTemplate f with
    | (.error e, g) => (.error e, g)
    | (.ok _, g) => (.ok (), g.addFamily f)

/-- Registers families in turn, until one is refused. -/
def registerAll (g : Generator) : List Family → Except GenerationError Unit × Generator
  | [] => (.ok (), g)
  | f :: families =>
    match g.register f with
    | (.error e, g) => (.error e, g)
    | (.ok _, g) => g.registerAll families

/-- An empty generator with the given families registered in turn. -/
def ofFamilies (families : List Family) : Except GenerationError Generator :=
  match empty.registerAll families with
  | (.error e, _) => .error e
  | (.ok _, g) => .ok g

/-- The generator that a run uses: it knows message tables. -/
def standard : Except GenerationError Generator := ofFamilies [.messages]

/-- The body that data of a family gives. -/
def body (g : Generator) (family : String) (data : Value) : Except GenerationError String :=
  match g.engine.chars family data with
  | .error cause => .error (.render cause)
  | .ok text =>
    match Code.format? text with
    | some body => .ok body
    | none => .error .formatting

/-- What a family gives for a directive. -/
def apply (g : Generator) (file : Path) (type : AnnotatedType) (f : Family) (d : Directive) :
    Logged GenerationError Generation := do
  match ← f.build type d with
  | none =>
    Logged.report (.noOutput file type.name d.name)
    return .empty
  | some data =>
    let body ← Logged.ofExcept (g.body f.name data)
    Logged.report (.rendered type.name d.name)
    return ⟨[⟨file, d.name, type.name, body⟩], []⟩

/-- What the generator gives for a list of directives; `seen` holds the names of known directives in
front of them. -/
def generateFrom (g : Generator) (file : Path) (type : AnnotatedType) :
    List String → List Directive → Logged GenerationError Generation
  | _, [] => return .empty
  | seen, d :: ds =>
    match g.family? d.name with
    | none => do
      Logged.report (.unsupportedDirective file type.name d.name)
      let rest ← generateFrom g file type seen ds
      return ⟨[], [⟨file, type.name, d.name⟩]⟩ ++ rest
    | some f =>
      if seen.contains d.name then Logged.fail (.duplicateDirective type.name d.name)
      else do
        let first ← g.apply file type f d
        let rest ← generateFrom g file type (d.name :: seen) ds
        return first ++ rest

/-- What the generator gives for a type of a file. -/
def generate (g : Generator) (file : Path) (type : AnnotatedType) :
    Logged GenerationError Generation := g.generateFrom file type [] type.directives

/-- What the generator gives for the types of a file. -/
def generateAll (g : Generator) (file : Path) :
    List AnnotatedType → Logged GenerationError Generation
  | [] => return .empty
  | type :: types => do
    let first ← g.generate file type
    let rest ← generateAll g file types
    return first ++ rest

end Generator
end Companion
