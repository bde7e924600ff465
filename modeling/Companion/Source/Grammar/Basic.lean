import Companion.Declaration
import Companion.Source.Token

/-! The grammar of Rust source, as far as it decides which texts are files and what types they
declare. The grammar is a function from *rules* to readers of tokens. A rule's reader takes the
readers of all rules as an argument, so every part of the grammar is an ordinary definition;
`Source.File` ties the knot. A reader gives the rest of the tokens and the *form* of what it read,
or nothing on a fault. Where a rule has alternatives, the next tokens decide between them, and the
choice is never undone. -/
namespace Companion.Source

abbrev Tokens := List Token

/-- What later decisions need to know of a part that has been read. -/
inductive Form where
  /-- A path of one name without arguments. -/
  | name (text : String)
  /-- A path of one name with arguments between angle brackets. -/
  | applied
  /-- A path of several names without arguments. -/
  | module
  /-- Any other path. -/
  | path
  /-- A type that is no path. -/
  | type
  /-- A type between parentheses. -/
  | parenthesized
  | pattern
  /-- The pattern `..`. -/
  | rest
  | expression
  /-- An expression that ends a statement by itself. -/
  | block
  /-- A macro call with other delimiters than braces. -/
  | call
  /-- A macro call with braces. -/
  | bracedCall
  | range
  | comparison
  /-- An item, with the type it declares, if it declares one. -/
  | item (declared : Option Declaration)
  | other
  deriving DecidableEq, Repr

/-- The parts of the grammar that take part in recursion. -/
inductive Rule where
  /-- A type; `plus` says that further bounds may follow. -/
  | type (plus : Bool)
  /-- A bound of a type parameter. -/
  | bound
  /-- Parameters between angle brackets, if there are any. -/
  | generics
  /-- Arguments between angle brackets. -/
  | arguments
  | pattern
  /-- Patterns with bars between them. -/
  | patterns
  /-- An expression; `braces` says that a record may follow a path. -/
  | expression (braces : Bool)
  /-- An operand with its prefix operators. -/
  | operand (braces : Bool)
  /-- The operators behind an operand of the given form that bind at least as tightly as `level`. -/
  | operators (braces : Bool) (level : Nat) (left : Form)
  /-- Calls, fields, indices and question marks behind an operand. -/
  | trailers (left : Form)
  /-- An expression where a statement or the body of an arm may end. -/
  | statement
  /-- A block with its braces. -/
  | block
  /-- The statements up to the end of a block. -/
  | statements
  | item
  deriving DecidableEq, Repr

abbrev Reader := Tokens → Option (Form × Tokens)

/-- The readers of all rules. -/
abbrev Readers := Rule → Reader

/-! ### Looking at tokens -/

/-- The end of the text or of the enclosing delimiters. -/
def atEnd : Tokens → Bool
  | [] => true
  | .closing _ :: _ => true
  | _ => false

/-- Whether the characters stand at the start, each but the last touching the next. -/
def startsPunct : List Char → Tokens → Bool
  | [], _ => true
  | [c], .punct d _ :: _ => c = d
  | c :: cs, .punct d touching :: rest => c = d && touching && startsPunct cs rest
  | _, _ => false

def peekPunct (operator : String) (ts : Tokens) : Bool := startsPunct operator.toList ts

def peekWord (word : String) : Tokens → Bool
  | .word w :: _ => w = word
  | _ => false

def peekOpening (d : Delimiter) : Tokens → Bool
  | .opening e :: _ => d = e
  | _ => false

def peekLifetime : Tokens → Bool
  | .lifetime _ :: _ => true
  | _ => false

/-- The words that are no identifiers. -/
def keywords : List String :=
  ["_", "abstract", "as", "async", "await", "become", "box", "break", "const", "continue", "crate",
    "do", "dyn", "else", "enum", "extern", "false", "final", "fn", "for", "if", "impl", "in", "let",
    "loop", "macro", "match", "mod", "move", "mut", "override", "priv", "pub", "ref",
    "return", "Self", "self", "static", "struct", "super", "trait", "true", "try", "type", "typeof",
    "unsafe", "unsized", "use", "virtual", "where", "while", "yield"]

def isIdentifier (word : String) : Bool := !keywords.contains word

def peekIdentifier : Tokens → Bool
  | .word w :: _ => isIdentifier w
  | _ => false

def peekAnyWord : Tokens → Bool
  | .word _ :: _ => true
  | _ => false

/-- One of the keywords that name a module or type. -/
def peekPathKeyword (ts : Tokens) : Bool :=
  peekWord "super" ts || peekWord "self" ts || peekWord "Self" ts || peekWord "crate" ts

/-- A number or another literal, also a boolean or a negative number. -/
def peekLiteral : Tokens → Bool
  | .literal .. :: _ => true
  | .word w :: _ => w = "true" || w = "false"
  | .punct '-' _ :: .literal .integer _ :: _ => true
  | .punct '-' _ :: .literal .float _ :: _ => true
  | _ => false

/-- A string literal. -/
def peekString : Tokens → Bool
  | .literal (.string _) _ :: _ => true
  | _ => false

/-! ### Taking tokens -/

def eatPunct (operator : String) (ts : Tokens) : Option Tokens :=
  if peekPunct operator ts then some (ts.drop operator.toList.length) else none

def eatWord (word : String) (ts : Tokens) : Option Tokens :=
  if peekWord word ts then some (ts.drop 1) else none

def eatOpening (d : Delimiter) (ts : Tokens) : Option Tokens :=
  if peekOpening d ts then some (ts.drop 1) else none

def eatClosing (d : Delimiter) : Tokens → Option Tokens
  | .closing e :: rest => if d = e then some rest else none
  | _ => none

def eatIdentifier : Tokens → Option (String × Tokens)
  | .word w :: rest => if isIdentifier w then some (w, rest) else none
  | _ => none

def eatAnyWord : Tokens → Option (String × Tokens)
  | .word w :: rest => some (w, rest)
  | _ => none

def eatLifetime : Tokens → Option Tokens
  | .lifetime _ :: rest => some rest
  | _ => none

def eatLiteral : Tokens → Option Tokens
  | .literal .. :: rest => some rest
  | .word w :: rest => if w = "true" || w = "false" then some rest else none
  | .punct '-' _ :: .literal .integer _ :: rest => some rest
  | .punct '-' _ :: .literal .float _ :: rest => some rest
  | _ => none

/-- The operator, if it stands here. -/
def skipPunct (operator : String) (ts : Tokens) : Tokens := (eatPunct operator ts).getD ts

def skipWord (word : String) (ts : Tokens) : Tokens := (eatWord word ts).getD ts

def skipLifetime (ts : Tokens) : Tokens := (eatLifetime ts).getD ts

/-- The tokens behind `depth` enclosing delimiters. -/
def behind : Nat → Tokens → Tokens
  | 0, ts => ts
  | _, [] => []
  | n + 1, .opening _ :: rest => behind (n + 2) rest
  | n + 1, .closing _ :: rest => behind n rest
  | n + 1, _ :: rest => behind (n + 1) rest

/-- The tokens behind the first token, or behind the first delimiters with all they hold. -/
def next : Tokens → Tokens
  | [] => []
  | .opening _ :: rest => behind 1 rest
  | _ :: rest => rest

/-- Delimiters of any kind with all they hold. -/
def eatGroup : Tokens → Option Tokens
  | .opening _ :: rest => some (behind 1 rest)
  | _ => none

/-! ### Repetition -/

/-- Reads as long as `more` holds, at most `fuel` times. -/
def manyFuel {α : Type} (more : Tokens → Bool) (read : Tokens → Option (α × Tokens)) :
    Nat → Tokens → Option (List α × Tokens)
  | 0, _ => none
  | fuel + 1, ts =>
    if more ts then
      match read ts with
      | some (a, ts) => (manyFuel more read fuel ts).map fun (as, ts) => (a :: as, ts)
      | none => none
    else some ([], ts)

/-- Reads as long as `more` holds. Every part takes a token, so there are no more parts than
tokens. -/
def many {α : Type} (more : Tokens → Bool) (read : Tokens → Option (α × Tokens)) (ts : Tokens) :
    Option (List α × Tokens) := manyFuel more read (ts.length + 1) ts

/-- Parts up to the end of the delimiters, with commas between them and possibly behind the last. -/
def commaList {α : Type} (read : Tokens → Option (α × Tokens)) (ts : Tokens) :
    Option (List α × Tokens) :=
  many (fun ts => !atEnd ts)
    (fun ts => do
      let (a, ts) ← read ts
      if atEnd ts then return (a, ts) else return (a, ← eatPunct "," ts)) ts

/-- What stands between the given delimiters, which `read` has to take to its end. -/
def between {α : Type} (d : Delimiter) (read : Tokens → Option (α × Tokens)) (ts : Tokens) :
    Option (α × Tokens) := do
  let ts ← eatOpening d ts
  let (a, ts) ← read ts
  return (a, ← eatClosing d ts)

/-- Reads the rule if its first token stands here. -/
def optionally (here : Bool) (read : Tokens → Option Tokens) (ts : Tokens) : Option Tokens :=
  if here then read ts else some ts

/-- The tokens behind a rule. -/
def Readers.skip (g : Readers) (rule : Rule) (ts : Tokens) : Option Tokens :=
  (g rule ts).map Prod.snd

/-! ### Paths without arguments -/

/-- Names with double colons between them. -/
def modulePath (ts : Tokens) : Option Tokens := do
  let isStep := fun ts => peekIdentifier ts || peekPathKeyword ts
  let (_, ts) ← (some (skipPunct "::" ts)).bind fun ts => if isStep ts then eatAnyWord ts else none
  let (_, ts) ← many (peekPunct "::")
    (fun ts => do
      let ts ← eatPunct "::" ts
      if isStep ts then eatAnyWord ts else none) ts
  return ts

end Companion.Source
