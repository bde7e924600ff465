import Companion.Text.Quoted

/-! What can be wrong with a directive in a text, where, and how it is reported. -/
namespace Companion.Directive

/-- What the reader looked for when it stopped. -/
inductive Expected where
  | directiveName
  | openParenthesis
  | argumentName
  | equals
  | separator
  | validEscapes
  deriving DecidableEq, Repr

def Expected.text : Expected → String
  | .directiveName => "directive name"
  | .openParenthesis => "'('"
  | .argumentName => "argument name"
  | .equals => "'='"
  | .separator => "',' or ')'"
  | .validEscapes => "string with valid escapes"

/-- Offsets count bytes from the start of the text. -/
inductive ReadError where
  | malformed (directive : String) (offset : Nat) (expected : Expected) (found : String)
  | unterminatedString (directive : String) (offset : Nat)
  | unexpectedEnd (directive : String)
  deriving DecidableEq, Repr

def ReadError.message : ReadError → String
  | .malformed directive offset expected found =>
    "Malformed directive '" ++ directive ++ "' at offset " ++ toString offset ++ ": expected " ++
      expected.text ++ ", found " ++ Text.quoteLiteral found
  | .unterminatedString directive offset =>
    "Unterminated string in directive '" ++ directive ++ "' starting at offset " ++ toString offset
  | .unexpectedEnd directive => "Unexpected end of input in directive '" ++ directive ++ "'"

end Companion.Directive
