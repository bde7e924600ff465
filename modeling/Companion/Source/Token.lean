/-! Tokens of Rust source. Punctuation is kept character by character; a character that directly
touches the next one is marked, so that longer operators can be told from neighbours. Comments are
gone, except doc comments, which are attributes in disguise. -/
namespace Companion.Source

inductive Delimiter where
  | parenthesis | bracket | brace
  deriving DecidableEq, Repr

inductive LiteralKind where
  /-- A string literal, with the text it denotes. -/
  | string (value : String)
  | integer
  | float
  /-- Characters, bytes, byte strings and strings for foreign code. -/
  | other
  deriving DecidableEq, Repr

inductive Token where
  /-- An identifier or keyword. Raw identifiers keep their mark `r#`. -/
  | word (text : String)
  | lifetime (name : String)
  | punct (char : Char) (touching : Bool)
  | literal (kind : LiteralKind) (text : String)
  /-- A doc comment on what follows it, or, if `inner`, on what it stands in. -/
  | doc (inner : Bool) (text : String)
  | opening (delimiter : Delimiter)
  | closing (delimiter : Delimiter)
  deriving DecidableEq, Repr

/-- The characters of which operators are made. -/
def punctuation : List Char := "~!@#$%^&*-=+|;:,<.>/?'".toList

def isPunctuation (c : Char) : Bool := punctuation.contains c

def openingDelimiter? (c : Char) : Option Delimiter :=
  if c = '(' then some .parenthesis
  else if c = '[' then some .bracket
  else if c = '{' then some .brace
  else none

def closingDelimiter? (c : Char) : Option Delimiter :=
  if c = ')' then some .parenthesis
  else if c = ']' then some .bracket
  else if c = '}' then some .brace
  else none

/-- Whether every delimiter is closed by its own kind; `stack` holds those open before the text. -/
def balanced : List Delimiter → List Token → Bool
  | stack, [] => stack.isEmpty
  | stack, .opening d :: rest => balanced (d :: stack) rest
  | [], .closing _ :: _ => false
  | top :: stack, .closing d :: rest => top = d && balanced stack rest
  | stack, _ :: rest => balanced stack rest

end Companion.Source
