import Companion.Text.Decimal
import Companion.Text.Quoted

/-! Values of directive arguments: texts, integers of 64 bits, and booleans. A value has a plain
text, which generated code shows, and a display, from which it can be read back. -/
namespace Companion

inductive Scalar where
  | text (value : String)
  | integer (value : Int64)
  | boolean (value : Bool)
  deriving DecidableEq, Repr

namespace Scalar

/-- The word for the kind of a value. -/
def kind : Scalar → String
  | .text _ => "string"
  | .integer _ => "integer"
  | .boolean _ => "boolean"

/-- The value without quotes. -/
def plain : Scalar → String
  | .text s => s
  | .integer i => String.ofList (Text.decimal i.toInt)
  | .boolean true => "true"
  | .boolean false => "false"

/-- The value as a directive holds it: texts are quoted. -/
def display : Scalar → String
  | .text s => Text.quotePlain s
  | v => v.plain

/-- The integer as a value, if 64 bits hold it. -/
def ofInt? (i : Int) : Option Scalar :=
  if -9223372036854775808 ≤ i ∧ i ≤ 9223372036854775807 then some (.integer (Int64.ofInt i))
  else none

/-- The value of an unquoted token: a boolean, an integer that fits, and otherwise the token
itself. -/
def classify (token : List Char) : Scalar :=
  if token = "true".toList then .boolean true
  else if token = "false".toList then .boolean false
  else ((Text.readDecimal token).bind ofInt?).getD (.text (String.ofList token))

end Scalar
end Companion
