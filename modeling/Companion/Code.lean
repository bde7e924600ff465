import Companion.Scalar

/-! Generated code: the `impl` block of one type with public constants and functions that look a
text up in a table, and behind it public constants of the module. Its text is `Code.layout`, and
`Code.read?` reads a text of either layout back. -/
namespace Companion

namespace Code

/-- The type of a constant. -/
inductive ConstantType where
  | named (name : String)
  /-- A static text. -/
  | text
  /-- A static list of static texts. -/
  | texts
  deriving DecidableEq, Repr

/-- The value of a constant. -/
inductive ConstantValue where
  | scalar (value : Scalar)
  | texts (items : List String)
  /-- The type's constructor applied to a constant of the type. -/
  | wrapped (type constant : String)
  deriving DecidableEq, Repr

structure Constant where
  docs : List String
  name : String
  type : ConstantType
  value : ConstantValue
  deriving DecidableEq, Repr

/-- A function from texts to static texts, given by a table and a text for all that is not in it. -/
structure Table where
  docs : List String
  name : String
  parameter : String
  arms : List (String × String)
  otherwise : String
  deriving DecidableEq, Repr

/-- What the function gives for a text: the first arm that matches decides. -/
def Table.apply (t : Table) (key : String) : String := (t.arms.lookup key).getD t.otherwise

inductive Member where
  | constant (constant : Constant)
  | table (table : Table)
  deriving DecidableEq, Repr

end Code

structure Code where
  type : String
  members : List Code.Member
  constants : List Code.Constant
  deriving DecidableEq, Repr

namespace Code

/-- The constant of the `impl` block with the given name. -/
def constant? (code : Code) (name : String) : Option Constant :=
  code.members.findSome? fun
    | .constant c => if c.name = name then some c else none
    | .table _ => none

/-- The function of the `impl` block with the given name. -/
def table? (code : Code) (name : String) : Option Table :=
  code.members.findSome? fun
    | .table t => if t.name = name then some t else none
    | .constant _ => none

end Code
end Companion
