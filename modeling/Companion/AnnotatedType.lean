import Companion.Declaration
import Companion.Directive.Reader
import Companion.Logged

/-! Annotated types: the declarations whose doc text holds directives and for which code can be
generated. A declaration is passed over when it has no doc text, or when its form is not one of
named fields, unit, and a newtype over a primitive; its doc text is not even read then. -/
namespace Companion

/-- What a type is made of: fields of its own, or one primitive. -/
inductive Underlying where
  | aggregate
  | newtype (primitive : String)
  deriving DecidableEq, Repr

/-- The name of the wrapped primitive; empty for an aggregate. -/
def Underlying.primitive : Underlying → String
  | .aggregate => ""
  | .newtype p => p

structure AnnotatedType where
  name : String
  underlying : Underlying
  directives : List Directive
  deriving DecidableEq, Repr

/-- The primitive types. -/
def primitives : List String :=
  ["bool", "char", "i8", "i16", "i32", "i64", "i128", "isize", "u8", "u16", "u32", "u64", "u128",
    "usize", "f32", "f64"]

def isPrimitive (name : String) : Bool := primitives.contains name

/-- What a type of this form is made of, if code can be generated for it. -/
def Declaration.Shape.underlying? : Declaration.Shape → Option Underlying
  | .named => some .aggregate
  | .unit => some .aggregate
  | .newtype inner => if isPrimitive inner then some (.newtype inner) else none
  | .other => none

/-- The doc text of a declaration, unless it is blank. -/
def Declaration.text? (d : Declaration) : Option String :=
  d.doc.filter fun text => !Text.allBlank text.toList

namespace AnnotatedType

/-- A directive that cannot be read, with the type that carries it. -/
structure CollectError where
  file : Path
  type : String
  cause : Directive.ReadError
  deriving DecidableEq, Repr

def CollectError.message (e : CollectError) : String :=
  "Invalid directive on `" ++ e.type ++ "` in " ++ e.file.display ++ ": " ++ e.cause.message

/-- The annotated type that a declaration gives, if it gives one. -/
def ofDeclaration (file : Path) (d : Declaration) : Logged CollectError (Option AnnotatedType) :=
  match d.text? with
  | none => do
    Logged.report (.undocumented file d.name)
    return none
  | some text =>
    match d.shape.underlying? with
    | none => do
      Logged.report (.unsupportedShape file d.name)
      return none
    | some underlying =>
      match Directive.scan text with
      | .error cause => Logged.fail ⟨file, d.name, cause⟩
      | .ok [] => return none
      | .ok directives => do
        Logged.report (.carries file d.name directives.length)
        return some ⟨d.name, underlying, directives⟩

/-- The annotated types of a file, in the order of their declarations. -/
def collect (file : Path) : List Declaration → Logged CollectError (List AnnotatedType)
  | [] => return []
  | d :: ds => do
    let found ← ofDeclaration file d
    let others ← collect file ds
    return found.toList ++ others

end AnnotatedType
end Companion
