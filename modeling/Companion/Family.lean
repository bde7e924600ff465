import Companion.Generation

/-! Families: what to generate for the directives of one name. A family makes data of a directive,
or decides that the directive asks for nothing, and has a template that shows the data. -/
namespace Companion

structure Family where
  name : String
  template : List Char
  build : AnnotatedType → Directive → Logged GenerationError (Option Value)

/-- A scalar as data of a template. -/
def Value.ofScalar : Scalar → Value
  | .text s => .text s
  | .integer i => .integer i.toInt
  | .boolean b => .boolean b

/-- The characters of a tag of a template. -/
def Template.braced (body : String) : List Char := '{' :: '{' :: body.toList ++ ['}', '}']

/-- A tag of a template. -/
def Template.tagged (body : String) : String := String.ofList (Template.braced body)

/-- The name of a type and an argument of its directive, as data of a template. -/
def Family.namedData (type : AnnotatedType) (a : Argument) : Value :=
  .record
    [("type_name", .text type.name), ("name", .text a.value.plain), ("raw", .ofScalar a.value)]

/-- A family for which a template is enough. It shows the name of the type as `type_name` and the
argument `name`, whose text is `name` and whose value is `raw`. A directive without that argument
asks for nothing. -/
def Family.ofTemplate (name template : String) : Family where
  name := name
  template := template.toList
  build type d := pure ((d.argument? "name").map (Family.namedData type))

end Companion
