import Companion.Template.Value
import Companion.Text.Blank

/-! Templates: text with tags between double braces. A tag shows a value named by a path, calls a
helper, opens, divides or closes a block. `compile` cuts a text into pieces, reads each tag, and
nests the blocks; a text whose tags or blocks do not close is no template. -/
namespace Companion

/-- What a helper or block is applied to: the value at a path of the data, or a constant. -/
inductive Operand where
  | path (steps : List String)
  | constant (value : Value)

/-- A template as the sequence of its parts. -/
inductive Template where
  | done
  | text (text : List Char) (next : Template)
  | value (steps : List String) (next : Template)
  | call (helper : String) (operands : List Operand) (next : Template)
  | branch (condition : Operand) (yes no next : Template)
  | each (items : Operand) (body next : Template)

namespace Template

/-! ### Pieces -/

inductive Piece where
  | text (chars : List Char)
  | tag (chars : List Char)
  deriving DecidableEq, Repr

/-- Where in a template a character stands. -/
inductive Mode where
  | text
  | openBrace
  | tag
  | quoted
  | closeBrace
  deriving DecidableEq, Repr

/-- The pieces read so far, last first, and the piece being read, last character first. -/
structure Cutting where
  pieces : List Piece
  mode : Mode
  chars : List Char

/-- The pieces with the text being read added, unless it is empty. -/
def Cutting.withText (s : Cutting) : List Piece :=
  if s.chars.isEmpty then s.pieces else .text s.chars.reverse :: s.pieces

/-- A character of a tag outside of quotes. -/
def Cutting.inTag (s : Cutting) (chars : List Char) (c : Char) : Cutting :=
  if c = '"' then { s with mode := .quoted, chars := c :: chars }
  else if c = '}' then { s with mode := .closeBrace, chars := chars }
  else { s with mode := .tag, chars := c :: chars }

def Cutting.step (s : Cutting) (c : Char) : Cutting :=
  match s.mode with
  | .text => if c = '{' then { s with mode := .openBrace } else { s with chars := c :: s.chars }
  | .openBrace =>
    if c = '{' then ⟨s.withText, .tag, []⟩
    else { s with mode := .text, chars := c :: '{' :: s.chars }
  | .tag => s.inTag s.chars c
  | .quoted =>
    if c = '"' then { s with mode := .tag, chars := c :: s.chars }
    else { s with chars := c :: s.chars }
  | .closeBrace =>
    if c = '}' then ⟨.tag s.chars.reverse :: s.pieces, .text, []⟩ else s.inTag ('}' :: s.chars) c

/-- The pieces of a text, unless it ends inside a tag. -/
def pieces? (text : List Char) : Option (List Piece) :=
  let s := text.foldl Cutting.step ⟨[], .text, []⟩
  match s.mode with
  | .text => some s.withText.reverse
  | .openBrace => some (Cutting.withText { s with chars := '{' :: s.chars }).reverse
  | _ => none

/-! ### Tags -/

inductive Word where
  | bare (chars : List Char)
  | quoted (chars : List Char)
  deriving DecidableEq, Repr

/-- The words of a tag: runs of other characters than blanks, and texts between double quotes.
`word` is the unfinished word, last character first, and `inside` says that it is quoted. -/
def wordsFrom (inside : Bool) (word : List Char) : List Char → List Word
  | [] =>
    if inside then [.quoted word.reverse] else if word.isEmpty then [] else [.bare word.reverse]
  | c :: cs =>
    if inside then
      if c = '"' then .quoted word.reverse :: wordsFrom false [] cs
      else wordsFrom true (c :: word) cs
    else if c = '"' || Text.isBlank c then
      let rest := wordsFrom (c = '"') [] cs
      if word.isEmpty then rest else .bare word.reverse :: rest
    else wordsFrom false (c :: word) cs

/-- The characters of the names in a path. -/
def isStepChar (c : Char) : Bool :=
  c.isAlphanum || c = '_' || c = '-' || c = '$' || 0x80 ≤ c.toNat

/-- The names of a path, between dots. -/
def splitDots : List Char → List (List Char)
  | [] => [[]]
  | c :: cs =>
    if c = '.' then [] :: splitDots cs
    else
      match splitDots cs with
      | [] => [[c]]
      | p :: ps => (c :: p) :: ps

/-- A path: names with dots between them. A leading `this` is the data itself. -/
def path? (word : List Char) : Option (List String) :=
  let names := splitDots word
  if names.all fun n => !n.isEmpty && n.all isStepChar then
    match names.map String.ofList with
    | "this" :: rest => some rest
    | names => some names
  else none

/-- A number: digits with an optional sign in front and an optional fraction behind. -/
def number? (word : List Char) : Option Value :=
  let unsigned := if word.head? = some '-' then word.tail else word
  let whole := unsigned.takeWhile Char.isDigit
  let sign : Int := if word.head? = some '-' then -1 else 1
  match unsigned.dropWhile Char.isDigit with
  | [] => (Text.readDigits whole).map fun n => .number (sign * n) 0
  | '.' :: fraction =>
    if whole.isEmpty then none
    else (Text.readDigits (whole ++ fraction)).map fun n => .number (sign * n) fraction.length
  | _ => none

def operand? : Word → Option Operand
  | .quoted cs => some (.constant (.text (String.ofList cs)))
  | .bare cs =>
    if cs = "true".toList then some (.constant (.boolean true))
    else if cs = "false".toList then some (.constant (.boolean false))
    else if cs = "null".toList then some (.constant .null)
    else
      match number? cs with
      | some v => some (.constant v)
      | none => (path? cs).map .path

/-- The kinds of blocks. -/
inductive Block where
  | branch
  | each
  deriving DecidableEq, Repr

def Block.named? (name : List Char) : Option Block :=
  if name = "if".toList then some .branch
  else if name = "each".toList then some .each
  else none

inductive Tag where
  | text (chars : List Char)
  | value (steps : List String)
  | call (helper : String) (operands : List Operand)
  | opening (block : Block) (operand : Operand)
  | otherwise
  | closing (block : Block)

/-- The names that call a helper also without operands. -/
def helperNames : List String := ["rust_literal", "rust_str", "code_type", "screaming_snake"]

/-- A tag that shows something: one path, or a helper with its operands. -/
def expression? : List Word → Option Tag
  | [.bare name] =>
    if helperNames.contains (String.ofList name) then some (.call (String.ofList name) [])
    else (path? name).map .value
  | .bare name :: words =>
    if name.all isStepChar then (words.mapM operand?).map (.call (String.ofList name)) else none
  | _ => none

def opening? : List Word → Option Tag
  | [.bare name, word] =>
    match Block.named? name, operand? word with
    | some block, some operand => some (.opening block operand)
    | _, _ => none
  | _ => none

def closing? : List Word → Option Tag
  | [.bare name] => (Block.named? name).map .closing
  | _ => none

/-- The tag that stands between the braces. -/
def tag? (chars : List Char) : Option Tag :=
  match chars with
  | '#' :: rest => opening? (wordsFrom false [] rest)
  | '/' :: rest => closing? (wordsFrom false [] rest)
  | chars =>
    match wordsFrom false [] chars with
    | [.bare word] => if word = "else".toList then some .otherwise else expression? [.bare word]
    | words => expression? words

def Piece.tag? : Piece → Option Tag
  | .text cs => some (.text cs)
  | .tag cs => Template.tag? cs

/-! ### Blocks -/

/-- A block whose opening tag lies further left: its kind, what follows its division, if that has
been met, and what follows the block. -/
structure Frame where
  block : Block
  no : Option Template
  outer : Template

/-- What is known to the right of a place: the innermost block from there on, and the blocks around
it. -/
structure Nesting where
  body : Template
  frames : List Frame

/-- Adds a tag on the left. -/
def Nesting.add (tag : Tag) (s : Nesting) : Option Nesting :=
  match tag, s.frames with
  | .text cs, _ => some { s with body := .text cs s.body }
  | .value steps, _ => some { s with body := .value steps s.body }
  | .call helper operands, _ => some { s with body := .call helper operands s.body }
  | .closing block, frames => some ⟨.done, ⟨block, none, s.body⟩ :: frames⟩
  | .otherwise, ⟨block, none, outer⟩ :: frames =>
    some ⟨.done, ⟨block, some s.body, outer⟩ :: frames⟩
  | .opening .branch operand, ⟨.branch, no, outer⟩ :: frames =>
    some ⟨.branch operand s.body (no.getD .done) outer, frames⟩
  | .opening .each operand, ⟨.each, none, outer⟩ :: frames =>
    some ⟨.each operand s.body outer, frames⟩
  | _, _ => none

/-- The tags of a text from right to left. -/
def nesting? (tags : List Tag) : Option Nesting :=
  tags.foldr (fun tag s => s.bind (Nesting.add tag)) (some ⟨.done, []⟩)

/-- The template that a sequence of tags makes, if its blocks are closed in turn. -/
def nest? (tags : List Tag) : Option Template :=
  match nesting? tags with
  | some ⟨body, []⟩ => some body
  | _ => none

/-- The template with the given text. -/
def compile (text : List Char) : Option Template :=
  (pieces? text).bind fun pieces => (pieces.mapM Piece.tag?).bind nest?

end Template
end Companion
