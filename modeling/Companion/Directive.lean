import Companion.Scalar

/-! Directives: a name with a list of named arguments, in the order of the text and with repetitions
kept. Of two arguments of one name the later counts. `index` keeps one argument per name, at the
place of its first occurrence and with its last value. -/
namespace Companion

structure Argument where
  name : String
  value : Scalar
  deriving DecidableEq, Repr

structure Directive where
  name : String
  arguments : List Argument
  deriving DecidableEq, Repr

/-- The argument as it stands in a directive. -/
def Argument.display (a : Argument) : String := a.name ++ "=" ++ a.value.display

namespace Directive

/-- The directive as a text that can be read back. -/
def display (d : Directive) : String :=
  d.name ++ "(" ++ String.intercalate ", " (d.arguments.map Argument.display) ++ ")"

/-- The last argument of the given name. -/
def argument? (d : Directive) (name : String) : Option Argument :=
  d.arguments.reverse.find? (·.name == name)

/-- Gives the entry with the name of `a` its value, or adds `a` at the end. -/
def put (a : Argument) : List Argument → List Argument
  | [] => [a]
  | b :: rest => if b.name = a.name then a :: rest else b :: put a rest

/-- One argument per name: names in order of first occurrence, each with its last value. -/
def index (d : Directive) : List Argument := d.arguments.foldl (fun entries a => put a entries) []

end Directive
end Companion
