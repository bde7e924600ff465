import Companion.Code.Layout
import Companion.Source.Grammar.Basic
import Companion.Source.Lexer

/-! Reading generated code. The reader looks at tokens only, so line ends and indentation do not
matter, and it takes the broken and the unbroken form of lists and arms alike. -/
namespace Companion.Code
open Source

/-- The words besides identifiers that can name the type of an `impl` block. -/
def typeWords : List String := ["_", "Self", "self", "super", "crate"]

def eatTypeName : Tokens → Option (String × Tokens)
  | .word w :: rest => if isIdentifier w || typeWords.contains w then some (w, rest) else none
  | _ => none

def eatText : Tokens → Option (String × Tokens)
  | .literal (.string s) _ :: rest => some (s, rest)
  | _ => none

/-- The type of a static text. -/
def eatStaticText (ts : Tokens) : Option Tokens := do
  let ts ← eatPunct "&" ts
  match ts with
  | .lifetime "static" :: ts => eatWord "str" ts
  | _ => none

def eatConstantType (ts : Tokens) : Option (ConstantType × Tokens) :=
  match ts with
  | .punct '&' _ :: .lifetime "static" :: .opening .bracket :: rest => do
    return (.texts, ← eatClosing .bracket (← eatStaticText rest))
  | .punct '&' _ :: _ => do return (.text, ← eatStaticText ts)
  | _ => (eatTypeName ts).map fun (name, ts) => (.named name, ts)

def eatInteger (digits : List Char) (rest : Tokens) : Option (Scalar × Tokens) :=
  ((Text.readDecimal digits).bind Scalar.ofInt?).map fun v => (v, rest)

def eatScalar : Tokens → Option (Scalar × Tokens)
  | .literal (.string s) _ :: rest => some (.text s, rest)
  | .literal .integer digits :: rest => eatInteger digits.toList rest
  | .punct '-' _ :: .literal .integer digits :: rest => eatInteger ('-' :: digits.toList) rest
  | .word "true" :: rest => some (.boolean true, rest)
  | .word "false" :: rest => some (.boolean false, rest)
  | _ => none

/-- A constructor applied to a constant of its own type. -/
def eatWrapped (ts : Tokens) : Option (ConstantValue × Tokens) := do
  let (outer, ts) ← eatTypeName ts
  let (parts, ts) ← between .parenthesis
    (commaList fun ts => do
      let (inner, ts) ← eatTypeName ts
      let ts ← eatPunct "::" ts
      let (constant, ts) ← eatIdentifier ts
      return ((inner, constant), ts)) ts
  match parts with
  | [(inner, constant)] => if inner = outer then some (.wrapped outer constant, ts) else none
  | _ => none

def eatConstantValue (ts : Tokens) : Option (ConstantValue × Tokens) :=
  if peekPunct "&" ts then
    (between .bracket (commaList eatText) (ts.drop 1)).map fun (items, ts) => (.texts items, ts)
  else
    match eatScalar ts with
    | some (v, ts) => some (.scalar v, ts)
    | none => eatWrapped ts

/-- The doc texts in front of a part. -/
def eatDocs : Tokens → List String × Tokens
  | .doc false text :: rest =>
    let (docs, rest) := eatDocs rest
    (text :: docs, rest)
  | .punct '#' _ :: .opening .bracket :: .word "doc" :: .punct '=' _ ::
      .literal (.string text) _ :: .closing .bracket :: rest =>
    let (docs, rest) := eatDocs rest
    (text :: docs, rest)
  | ts => ([], ts)

/-- A constant behind its doc texts. -/
def eatConstant (docs : List String) (ts : Tokens) : Option (Constant × Tokens) := do
  let ts ← eatWord "const" (← eatWord "pub" ts)
  let (name, ts) ← eatIdentifier ts
  let (type, ts) ← eatConstantType (← eatPunct ":" ts)
  let (value, ts) ← eatConstantValue (← eatPunct "=" ts)
  return (⟨docs, name, type, value⟩, ← eatPunct ";" ts)

/-- What an arm gives, with or without braces around it. -/
def eatArmText (ts : Tokens) : Option (String × Tokens) :=
  if peekOpening .brace ts then
    (between .brace eatText ts).map fun (text, ts) => (text, skipPunct "," ts)
  else do
    let (text, ts) ← eatText ts
    return (text, ← eatPunct "," ts)

def eatArm (ts : Tokens) : Option ((String × String) × Tokens) := do
  let (pattern, ts) ← eatText ts
  let (text, ts) ← eatArmText (← eatPunct "=>" ts)
  return ((pattern, text), ts)

/-- The arms of a table and the text behind them. -/
def eatArms (ts : Tokens) : Option ((List (String × String) × String) × Tokens) := do
  let (arms, ts) ← many peekString eatArm ts
  let (otherwise, ts) ← eatArmText (← eatPunct "=>" (← eatWord "_" ts))
  return ((arms, otherwise), ts)

/-- The parameter of a table. -/
def eatParameter (ts : Tokens) : Option (String × Tokens) := do
  let (parameter, ts) ← eatIdentifier ts
  return (parameter, ← eatWord "str" (← eatPunct "&" (← eatPunct ":" ts)))

/-- The match of a table. -/
def eatMatch (parameter : String) (ts : Tokens) :
    Option ((List (String × String) × String) × Tokens) := do
  between .brace eatArms (← eatWord parameter (← eatWord "match" ts))

/-- A table behind its doc texts. -/
def eatTable (docs : List String) (ts : Tokens) : Option (Table × Tokens) := do
  let ts ← eatWord "fn" (← eatWord "pub" ts)
  let (name, ts) ← eatIdentifier ts
  let (parameter, ts) ← between .parenthesis eatParameter ts
  let ts ← eatStaticText (← eatPunct "->" ts)
  let ((arms, otherwise), ts) ← between .brace (eatMatch parameter) ts
  return (⟨docs, name, parameter, arms, otherwise⟩, ts)

def eatMember (ts : Tokens) : Option (Member × Tokens) :=
  let (docs, ts) := eatDocs ts
  if peekWord "const" (ts.drop 1) then (eatConstant docs ts).map fun (c, ts) => (.constant c, ts)
  else (eatTable docs ts).map fun (t, ts) => (.table t, ts)

/-- The code that a list of tokens makes. -/
def ofTokens? (ts : Tokens) : Option Code := do
  let (type, ts) ← eatTypeName (← eatWord "impl" ts)
  let (members, ts) ← between .brace (many (fun ts => !atEnd ts) eatMember) ts
  let (constants, ts) ← many (fun ts => !atEnd ts)
    (fun ts => let (docs, ts) := eatDocs ts; eatConstant docs ts) ts
  if ts.isEmpty then return ⟨type, members, constants⟩ else none

/-- The code that a text holds. -/
def read? (text : List Char) : Option Code := (lex? text).bind ofTokens?

/-- The text in its layout, if it holds code. -/
def format? (text : List Char) : Option String :=
  (read? text).map fun code => String.ofList code.layout

end Companion.Code
