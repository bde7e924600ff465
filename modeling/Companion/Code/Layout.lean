import Companion.Code
import Companion.Text.Size

/-! The layout of generated code. Every level is indented by four spaces. A list of texts, an arm of
a table and a wrapped constant are broken over several lines when their line would be too wide;
nothing else is. A doc text is a line comment; if it has several lines it is a block comment, unless
it would end that comment itself, and then an attribute. -/
namespace Companion.Code

/-- The most bytes of a line, its indentation included. The comma behind an arm does not count. -/
def maxWidth : Nat := 89

def fits (line : List Char) : Bool := Text.byteSize line ≤ maxWidth

/-- A line that stands `level` levels deep. -/
def indented (level : Nat) (text : List Char) : List Char := List.replicate (4 * level) ' ' ++ text

/-! ### Doc texts -/

/-- The nesting depth of comments behind a text; `none` if it closes a comment it did not open. -/
def commentDepth : Nat → List Char → Option Nat
  | depth, '/' :: '*' :: rest => commentDepth (depth + 1) rest
  | 0, '*' :: '/' :: _ => none
  | depth + 1, '*' :: '/' :: rest => commentDepth depth rest
  | depth, _ :: rest => commentDepth depth rest
  | depth, [] => some depth

/-- The text without the spaces before its line ends; those before its own end stay. -/
def trimLines : List Char → List Char
  | [] => []
  | c :: cs =>
    match c, trimLines cs with
    | ' ', '\n' :: rest => '\n' :: rest
    | c, rest => c :: rest

/-- The text without the spaces at its end. -/
def trimSpaces (cs : List Char) : List Char := (cs.reverse.dropWhile (· = ' ')).reverse

/-- Whether the text can stand between the marks of a block comment. -/
def suitsBlockComment (cs : List Char) : Bool :=
  commentDepth 0 cs = some 0 && cs.head? ≠ some '*' && cs.head? ≠ some '/'

def docLine (doc : String) : List Char :=
  let cs := doc.toList
  if !cs.contains '\n' && cs.head? ≠ some '/' then "///".toList ++ trimSpaces cs
  else if suitsBlockComment cs then "/**".toList ++ trimLines cs ++ "*/".toList
  else "#[doc = ".toList ++ Text.literalChars doc ++ "]".toList

def docLines (level : Nat) (docs : List String) : List (List Char) :=
  docs.map fun doc => indented level (docLine doc)

/-! ### Constants -/

def ConstantType.chars : ConstantType → List Char
  | .named name => name.toList
  | .text => "&'static str".toList
  | .texts => "&'static [&'static str]".toList

def scalarChars : Scalar → List Char
  | .text s => Text.literalChars s
  | v => v.plain.toList

/-- Texts with a comma and a space between them. -/
def joinItems : List (List Char) → List Char
  | [] => []
  | [t] => t
  | t :: ts => t ++ ", ".toList ++ joinItems ts

/-- What stands in front of the value of a constant. -/
def Constant.head (c : Constant) : List Char :=
  "pub const ".toList ++ c.name.toList ++ ": ".toList ++ c.type.chars ++ " = ".toList

/-- A list of parts between brackets: on one line if that fits, else one part on each line. -/
def bracketed (level : Nat) (opening : List Char) (parts : List (List Char)) (closing : List Char) :
    List (List Char) :=
  let line := indented level (opening ++ joinItems parts ++ closing)
  if fits line then [line]
  else
    indented level opening ::
      parts.map (fun part => indented (level + 1) (part ++ ",".toList)) ++ [indented level closing]

def Constant.lines (level : Nat) (c : Constant) : List (List Char) :=
  docLines level c.docs ++
    match c.value with
    | .scalar v => [indented level (c.head ++ scalarChars v ++ ";".toList)]
    | .texts items =>
      bracketed level (c.head ++ "&[".toList) (items.map Text.literalChars) "];".toList
    | .wrapped type constant =>
      bracketed level (c.head ++ type.toList ++ "(".toList)
        [type.toList ++ "::".toList ++ constant.toList] ");".toList

/-! ### Tables -/

/-- An arm of a table: on one line if that fits, else with its text between braces. -/
def armLines (pattern text : List Char) : List (List Char) :=
  let line := indented 3 (pattern ++ " => ".toList ++ text)
  if fits line then [line ++ ",".toList]
  else [indented 3 (pattern ++ " => \x7b".toList), indented 4 text, indented 3 "\x7d".toList]

def Table.lines (t : Table) : List (List Char) :=
  docLines 1 t.docs ++
    indented 1 ("pub fn ".toList ++ t.name.toList ++ "(".toList ++ t.parameter.toList ++
      ": &str) -> &'static str \x7b".toList) ::
    indented 2 ("match ".toList ++ t.parameter.toList ++ " \x7b".toList) ::
    t.arms.flatMap (fun arm => armLines (Text.literalChars arm.1) (Text.literalChars arm.2)) ++
    armLines "_".toList (Text.literalChars t.otherwise) ++
    [indented 2 "\x7d".toList, indented 1 "\x7d".toList]

def Member.lines : Member → List (List Char)
  | .constant c => c.lines 1
  | .table t => t.lines

/-- The lines of the code. -/
def lines (code : Code) : List (List Char) :=
  ("impl ".toList ++ code.type.toList ++ " \x7b".toList) :: code.members.flatMap Member.lines ++
    "\x7d".toList :: code.constants.flatMap (Constant.lines 0)

/-- The text of the code; every line is ended. -/
def layout (code : Code) : List Char := code.lines.flatMap fun line => line ++ ['\n']

end Companion.Code
