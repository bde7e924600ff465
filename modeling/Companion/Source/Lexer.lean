import Companion.Source.Token
import Companion.Text.Blank
import Companion.Text.Xid

/-! Lexing Rust source, one character at a time. What has been read of an unfinished token is its
`Mode`; a character either continues that token or ends it and starts the next. Reading a text from
a state is a fold, so what a concatenation gives follows from its parts (`run_append`). -/
namespace Companion.Source

def isWordStart (c : Char) : Bool := c = '_' || Text.isXidStart c

def isWordContinue (c : Char) : Bool := Text.isXidContinue c

/-- Blanks between tokens; the two direction marks count as such. -/
def isGap (c : Char) : Bool := Text.isBlank c || c.toNat = 0x200e || c.toNat = 0x200f

def hexValue? (c : Char) : Option Nat :=
  if '0' ≤ c ∧ c ≤ '9' then some (c.toNat - '0'.toNat)
  else if 'a' ≤ c ∧ c ≤ 'f' then some (c.toNat - 'a'.toNat + 10)
  else if 'A' ≤ c ∧ c ≤ 'F' then some (c.toNat - 'A'.toNat + 10)
  else none

/-! ### Modes -/

/-- What a quoted literal is made of. -/
inductive Content where
  /-- Text. -/
  | text
  /-- Bytes: ASCII only. -/
  | bytes
  /-- Text without the null character. -/
  | foreign
  deriving DecidableEq, Repr

/-- Where in a cooked string a character stands. -/
inductive Inside where
  | plain
  /-- Behind a carriage return, which a line feed has to follow. -/
  | carriage
  | escape
  | hexFirst
  | hexSecond (high : Nat)
  | codeOpen
  | code (value digits : Nat)
  /-- Behind a backslash at the end of a line: blanks are skipped. -/
  | lineStart
  /-- Among those blanks, behind a carriage return. -/
  | lineCarriage
  deriving DecidableEq, Repr

/-- Where in an escaped character literal a character stands. -/
inductive InsideChar where
  | escape
  | hexFirst
  | hexSecond
  | codeOpen
  | code (value digits : Nat)
  | close
  deriving DecidableEq, Repr

/-- What the last character may have begun inside a block comment. -/
inductive Mark where
  | none | star | slash
  deriving DecidableEq, Repr

/-- The unfinished token. Character lists are held last character first. -/
inductive Mode where
  | ground
  | word (chars : List Char)
  /-- Behind `r`, `br` or `cr` and some `#`. -/
  | hashes (word : List Char) (count : Nat)
  | rawWord (chars : List Char)
  | string (content : Content) (inside : Inside) (text value : List Char)
  /-- A raw string; `seen` counts the `#` behind its last quote. -/
  | rawString (content : Content) (count : Nat) (seen : Option Nat) (carriage : Bool)
      (text value : List Char)
  /-- Behind a single quote. -/
  | quote
  /-- Behind a single quote and one more character. -/
  | quoteChar (char : Char)
  | charEscape (inside : InsideChar) (text : List Char)
  /-- Behind `b` and a single quote. -/
  | byteQuote
  /-- Behind the one character of a byte literal. -/
  | byteClose (text : List Char)
  | byteEscape (inside : InsideChar) (text : List Char)
  | lifetime (chars : List Char)
  | rawLifetime
  | rawLifetimeWord (chars : List Char)
  /-- A decimal number without point or exponent. -/
  | digits (chars : List Char)
  /-- A decimal number and a point that may not belong to it. -/
  | point (chars : List Char)
  | fraction (chars : List Char)
  /-- Behind an exponent's letter: the number before it, whether that has a fraction, the letter
  with its underscores, the sign with its underscores. -/
  | exponent (number : List Char) (fraction : Bool) (letter : List Char) (sign : List Char)
  /-- Among an exponent's digits. -/
  | exponentDigits (chars : List Char)
  | radix (base : Nat) (empty : Bool) (chars : List Char)
  /-- A complete literal that may get a suffix. -/
  | closed (kind : LiteralKind) (chars : List Char)
  | suffix (kind : LiteralKind) (chars : List Char)
  | punct (char : Char)
  /-- A slash, possibly behind another character of punctuation. -/
  | slash (before : Option Char)
  /-- Behind two slashes. -/
  | lineOpen
  /-- Behind three slashes. -/
  | lineDoc
  | lineComment
  | docLine (inner : Bool) (carriage : Bool) (chars : List Char)
  /-- Behind a slash and a star. -/
  | blockOpen
  /-- Behind a slash and two stars. -/
  | blockDoc
  | blockComment (depth : Nat) (mark : Mark)
  | docBlock (inner : Bool) (depth : Nat) (mark : Mark) (chars : List Char)
  | failed
  deriving DecidableEq, Repr

/-- The tokens read so far, last first, and the unfinished one. -/
structure Lexing where
  tokens : List Token
  mode : Mode
  deriving DecidableEq, Repr

def Lexing.failed : Lexing := ⟨[], .failed⟩

/-! ### Starting tokens -/

/-- A character where no token is unfinished. -/
def ground (tokens : List Token) (c : Char) : Lexing :=
  if isGap c then ⟨tokens, .ground⟩
  else if isWordStart c then ⟨tokens, .word [c]⟩
  else if c.isDigit then ⟨tokens, .digits [c]⟩
  else if c = '"' then ⟨tokens, .string .text .plain [c] []⟩
  else if c = '\'' then ⟨tokens, .quote⟩
  else if c = '/' then ⟨tokens, .slash none⟩
  else if isPunctuation c then ⟨tokens, .punct c⟩
  else
    match openingDelimiter? c, closingDelimiter? c with
    | some d, _ => ⟨.opening d :: tokens, .ground⟩
    | _, some d => ⟨.closing d :: tokens, .ground⟩
    | _, _ => .failed

def textOf (chars : List Char) : String := String.ofList chars.reverse

/-- A character behind a complete literal: it may begin a suffix. -/
def afterLiteral (tokens : List Token) (kind : LiteralKind) (chars : List Char) (c : Char) :
    Lexing :=
  if isWordStart c then ⟨tokens, .suffix kind (c :: chars)⟩
  else ground (.literal kind (textOf chars) :: tokens) c

/-- A character behind a complete number, which no mark of a word may follow. -/
def afterNumber (tokens : List Token) (kind : LiteralKind) (chars : List Char) (c : Char) :
    Lexing :=
  if isWordStart c then ⟨tokens, .suffix kind (c :: chars)⟩
  else if isWordContinue c then .failed
  else ground (.literal kind (textOf chars) :: tokens) c

/-- A character behind a character of punctuation. -/
def afterPunct (tokens : List Token) (p c : Char) : Lexing :=
  if c = '/' then ⟨tokens, .slash (some p)⟩
  else ground (.punct p (isPunctuation c) :: tokens) c

/-! ### Words and what starts like them -/

/-- The content and rawness of a string that a word may introduce. -/
def stringPrefix? (word : List Char) : Option (Content × Bool) :=
  if word = ['r'] then some (.text, true)
  else if word = ['b'] then some (.bytes, false)
  else if word = ['r', 'b'] then some (.bytes, true)
  else if word = ['c'] then some (.foreign, false)
  else if word = ['r', 'c'] then some (.foreign, true)
  else none

/-- A character behind a word. -/
def afterWord (tokens : List Token) (word : List Char) (c : Char) : Lexing :=
  if isWordContinue c then ⟨tokens, .word (c :: word)⟩
  else
    match stringPrefix? word with
    | none => ground (.word (textOf word) :: tokens) c
    | some (content, raw) =>
      if c = '"' then
        if raw then ⟨tokens, .rawString content 0 none false (c :: word) []⟩
        else ⟨tokens, .string content .plain (c :: word) []⟩
      else if c = '#' && raw then ⟨tokens, .hashes word 1⟩
      else if c = '\'' && word = ['b'] then ⟨tokens, .byteQuote⟩
      else ground (.word (textOf word) :: tokens) c

/-- How many `#` a raw string may have. -/
def maxHashes : Nat := 255

/-- A character behind the `#` of a raw string or raw identifier. -/
def afterHashes (tokens : List Token) (word : List Char) (count : Nat) (c : Char) : Lexing :=
  if c = '#' then ⟨tokens, .hashes word (count + 1)⟩
  else if c = '"' then
    match stringPrefix? word with
    | some (content, _) =>
      if count ≤ maxHashes then
        ⟨tokens, .rawString content count none false (c :: List.replicate count '#' ++ word) []⟩
      else .failed
    | none => .failed
  else if word = ['r'] && count = 1 && isWordStart c then ⟨tokens, .rawWord [c]⟩
  else .failed

/-- Words that cannot be raw identifiers. -/
def neverRaw : List String := ["_", "super", "self", "Self", "crate"]

/-- The tokens with a raw identifier added, if there is such an identifier. -/
def withRawWord? (tokens : List Token) (word : List Char) : Option (List Token) :=
  if neverRaw.contains (textOf word) then none else some (.word ("r#" ++ textOf word) :: tokens)

/-! ### Strings -/

/-- Whether the content may hold the character. -/
def Content.admits : Content → Char → Bool
  | .text, _ => true
  | .bytes, c => c.toNat < 128
  | .foreign, c => c.toNat ≠ 0

/-- The kind of a string literal. -/
def Content.kind (content : Content) (value : List Char) : LiteralKind :=
  match content with
  | .text => .string (textOf value)
  | _ => .other

/-- The character that a one-letter escape stands for. -/
def simpleEscape? (c : Char) : Option Char :=
  if c = 'n' then some '\n'
  else if c = 'r' then some '\r'
  else if c = 't' then some '\t'
  else if c = '\\' then some '\\'
  else if c = '\'' then some '\''
  else if c = '"' then some '"'
  else if c = '0' then some (Char.ofNat 0)
  else none

/-- The character with the given code, if there is one. -/
def charOfCode? (n : Nat) : Option Char := if n.isValidChar then some (Char.ofNat n) else none

/-- A plain character of a cooked string. -/
def plainInString (tokens : List Token) (content : Content) (text value : List Char) (c : Char) :
    Lexing :=
  if c = '"' then ⟨tokens, .closed (content.kind value) (c :: text)⟩
  else if c = '\\' then ⟨tokens, .string content .escape (c :: text) value⟩
  else if c = '\r' then ⟨tokens, .string content .carriage (c :: text) value⟩
  else if content.admits c then ⟨tokens, .string content .plain (c :: text) (c :: value)⟩
  else .failed

/-- An escaped character has been read. -/
def escapedInString (tokens : List Token) (content : Content) (text value : List Char)
    (decoded : Option Char) : Lexing :=
  match decoded with
  | some d =>
    if content = .foreign && d.toNat = 0 then .failed
    else ⟨tokens, .string content .plain text (d :: value)⟩
  | none => .failed

/-- The most digits that the code of a character may have. -/
def maxCodeDigits : Nat := 6

/-- A character of a cooked string. -/
def inString (tokens : List Token) (content : Content) (inside : Inside) (text value : List Char)
    (c : Char) : Lexing :=
  let goOn (next : Inside) : Lexing := ⟨tokens, .string content next (c :: text) value⟩
  match inside with
  | .plain => plainInString tokens content text value c
  | .carriage =>
    if c = '\n' then ⟨tokens, .string content .plain (c :: text) ('\n' :: value)⟩ else .failed
  | .escape =>
    if c = 'x' then goOn .hexFirst
    else if c = 'u' && content ≠ .bytes then goOn .codeOpen
    else if c = '\n' then goOn .lineStart
    else if c = '\r' then goOn .lineCarriage
    else escapedInString tokens content (c :: text) value (simpleEscape? c)
  | .hexFirst =>
    match hexValue? c with
    | some n => if n < 8 || content ≠ .text then goOn (.hexSecond n) else .failed
    | none => .failed
  | .hexSecond high =>
    escapedInString tokens content (c :: text) value
      ((hexValue? c).map fun low => Char.ofNat (16 * high + low))
  | .codeOpen => if c = '{' then goOn (.code 0 0) else .failed
  | .code code digits =>
    match hexValue? c with
    | some n =>
      if digits = maxCodeDigits then .failed else goOn (.code (16 * code + n) (digits + 1))
    | none =>
      if digits = 0 then .failed
      else if c = '_' then goOn (.code code digits)
      else if c = '}' then escapedInString tokens content (c :: text) value (charOfCode? code)
      else .failed
  | .lineStart =>
    if c = ' ' || c = '\t' || c = '\n' then goOn .lineStart
    else if c = '\r' then goOn .lineCarriage
    else plainInString tokens content text value c
  | .lineCarriage => if c = '\n' then goOn .lineStart else .failed

/-- A character of a raw string. At its end the value holds the closing quote and its `#`. -/
def inRawString (tokens : List Token) (content : Content) (count : Nat) (seen : Option Nat)
    (carriage : Bool) (text value : List Char) (c : Char) : Lexing :=
  let next (seen : Option Nat) (carriage : Bool) : Lexing :=
    ⟨tokens, .rawString content count seen carriage (c :: text) (c :: value)⟩
  let close : Lexing := ⟨tokens, .closed (content.kind ((c :: value).drop (count + 1))) (c :: text)⟩
  if carriage && c ≠ '\n' then .failed
  else if c = '"' then if count = 0 then close else next (some 0) false
  else if c = '#' then
    match seen with
    | some n => if n + 1 = count then close else next (some (n + 1)) false
    | none => next none false
  else if content.admits c then next none (c = '\r')
  else .failed

/-! ### Characters and lifetimes -/

/-- A character behind a single quote and one more character. -/
def afterQuoteChar (tokens : List Token) (first c : Char) : Lexing :=
  if c = '\'' then ⟨tokens, .closed .other [c, first, '\'']⟩
  else if !isWordStart first then .failed
  else if isWordContinue c then ⟨tokens, .lifetime [c, first]⟩
  else if c = '#' then if first = 'r' then ⟨tokens, .rawLifetime⟩ else .failed
  else ground (.lifetime (textOf [first]) :: tokens) c

/-- A character of an escaped character or byte; `wide` admits codes above ASCII in two digits, and
`coded` admits codes between braces. The result is the next place, or none on a fault. -/
def insideChar? (wide coded : Bool) (inside : InsideChar) (c : Char) : Option InsideChar :=
  match inside with
  | .escape =>
    if c = 'x' then some .hexFirst
    else if c = 'u' && coded then some .codeOpen
    else (simpleEscape? c).map fun _ => .close
  | .hexFirst =>
    match hexValue? c with
    | some n => if n < 8 || wide then some .hexSecond else none
    | none => none
  | .hexSecond => (hexValue? c).map fun _ => .close
  | .codeOpen => if c = '{' then some (.code 0 0) else none
  | .code code digits =>
    match hexValue? c with
    | some n => if digits = maxCodeDigits then none else some (.code (16 * code + n) (digits + 1))
    | none =>
      if digits = 0 then none
      else if c = '_' then some (.code code digits)
      else if c = '}' then (charOfCode? code).map fun _ => .close
      else none
  | .close => none

/-- A character of an escaped literal between single quotes. -/
def inEscapedChar (tokens : List Token) (wide coded : Bool) (again : InsideChar → List Char → Mode)
    (inside : InsideChar) (text : List Char) (c : Char) : Lexing :=
  if inside = .close && c = '\'' then ⟨tokens, .closed .other (c :: text)⟩
  else
    match insideChar? wide coded inside c with
    | some next => ⟨tokens, again next (c :: text)⟩
    | none => .failed

/-! ### Numbers -/

/-- A character behind a decimal number without point or exponent. -/
def afterDigits (tokens : List Token) (chars : List Char) (c : Char) : Lexing :=
  if c.isDigit || c = '_' then ⟨tokens, .digits (c :: chars)⟩
  else if c = '.' then ⟨tokens, .point chars⟩
  else if c = 'e' || c = 'E' then ⟨tokens, .exponent chars false [c] []⟩
  else if chars = ['0'] && c = 'x' then ⟨tokens, .radix 16 true (c :: chars)⟩
  else if chars = ['0'] && c = 'o' then ⟨tokens, .radix 8 true (c :: chars)⟩
  else if chars = ['0'] && c = 'b' then ⟨tokens, .radix 2 true (c :: chars)⟩
  else afterNumber tokens .integer chars c

/-- A character behind the fraction of a number. -/
def afterFraction (tokens : List Token) (chars : List Char) (c : Char) : Lexing :=
  if c.isDigit || c = '_' then ⟨tokens, .fraction (c :: chars)⟩
  else if c = 'e' || c = 'E' then ⟨tokens, .exponent chars true [c] []⟩
  else afterNumber tokens .float chars c

/-- A character behind a number and a point: a second point, or a word, leaves the point outside. -/
def afterPoint (tokens : List Token) (chars : List Char) (c : Char) : Lexing :=
  if c = '.' || isWordStart c then
    afterPunct (.literal .integer (textOf chars) :: tokens) '.' c
  else afterFraction tokens ('.' :: chars) c

/-- The kind of a number. -/
def numberKind (fraction : Bool) : LiteralKind := if fraction then .float else .integer

/-- What stands behind a number whose exponent has no digits: the letter is then a suffix, and a
sign with its underscores stands for itself. -/
def withoutExponent (tokens : List Token) (number : List Char) (fraction : Bool)
    (letter sign : List Char) : Lexing :=
  let chars := letter ++ number
  match sign.reverse with
  | [] => ⟨tokens, .suffix (numberKind fraction) chars⟩
  | [s] => ⟨.literal (numberKind fraction) (textOf chars) :: tokens, .punct s⟩
  | s :: word =>
    ⟨.punct s false :: .literal (numberKind fraction) (textOf chars) :: tokens, .word word.reverse⟩

/-- A character behind a complete suffix or a part of it. -/
def afterSuffix (tokens : List Token) (kind : LiteralKind) (chars : List Char) (c : Char) :
    Lexing :=
  if isWordContinue c then ⟨tokens, .suffix kind (c :: chars)⟩
  else ground (.literal kind (textOf chars) :: tokens) c

/-- A character behind the letter of an exponent, before its digits. -/
def inExponent (tokens : List Token) (number : List Char) (fraction : Bool)
    (letter sign : List Char) (c : Char) : Lexing :=
  if c.isDigit then ⟨tokens, .exponentDigits (c :: sign ++ letter ++ number)⟩
  else if c = '_' then
    if sign.isEmpty then ⟨tokens, .exponent number fraction (c :: letter) sign⟩
    else ⟨tokens, .exponent number fraction letter (c :: sign)⟩
  else if (c = '+' || c = '-') && sign.isEmpty then ⟨tokens, .exponent number fraction letter [c]⟩
  else
    match withoutExponent tokens number fraction letter sign with
    | ⟨tokens, .suffix kind chars⟩ => afterSuffix tokens kind chars c
    | ⟨tokens, .punct p⟩ => afterPunct tokens p c
    | ⟨tokens, .word word⟩ => afterWord tokens word c
    | _ => .failed

/-- A character behind the digits of an exponent. -/
def afterExponentDigits (tokens : List Token) (chars : List Char) (c : Char) : Lexing :=
  if c.isDigit || c = '_' then ⟨tokens, .exponentDigits (c :: chars)⟩
  else afterNumber tokens .float chars c

/-- A character of a number in another base. -/
def inRadix (tokens : List Token) (base : Nat) (empty : Bool) (chars : List Char) (c : Char) :
    Lexing :=
  if c = '_' then ⟨tokens, .radix base empty (c :: chars)⟩
  else
    match hexValue? c with
    | some n =>
      if n < base then ⟨tokens, .radix base false (c :: chars)⟩
      else if c.isDigit || empty then .failed
      else afterNumber tokens .integer chars c
    | none => if empty then .failed else afterNumber tokens .integer chars c

/-! ### Comments -/

/-- Whether a carriage return stands without a line feed behind it. -/
def hasBareCarriage : List Char → Bool
  | [] => false
  | '\r' :: '\n' :: rest => hasBareCarriage rest
  | '\r' :: _ => true
  | _ :: rest => hasBareCarriage rest

/-- The depth of a block comment after a character, and what the character may begin. -/
def blockDepth (depth : Nat) (mark : Mark) (c : Char) : Nat × Mark :=
  match mark with
  | .slash => if c = '*' then (depth + 1, .none) else (depth, if c = '/' then .slash else .none)
  | .star =>
    if c = '/' then (depth - 1, .none) else (depth, if c = '*' then .star else .none)
  | .none => (depth, if c = '/' then .slash else if c = '*' then .star else .none)

def inBlockComment (tokens : List Token) (depth : Nat) (mark : Mark) (c : Char) : Lexing :=
  match blockDepth depth mark c with
  | (0, _) => ⟨tokens, .ground⟩
  | (depth, mark) => ⟨tokens, .blockComment depth mark⟩

/-- A character of a block of documentation; its closing star is not part of the text. -/
def inDocBlock (tokens : List Token) (inner : Bool) (depth : Nat) (mark : Mark) (chars : List Char)
    (c : Char) : Lexing :=
  match blockDepth depth mark c with
  | (0, _) =>
    if hasBareCarriage (chars.drop 1).reverse then .failed
    else ⟨.doc inner (textOf (chars.drop 1)) :: tokens, .ground⟩
  | (depth, mark) => ⟨tokens, .docBlock inner depth mark (c :: chars)⟩

/-- A character of a line of documentation. -/
def inDocLine (tokens : List Token) (inner carriage : Bool) (chars : List Char) (c : Char) :
    Lexing :=
  if c = '\n' then ⟨.doc inner (textOf chars) :: tokens, .ground⟩
  else if carriage then .failed
  else if c = '\r' then ⟨tokens, .docLine inner true chars⟩
  else ⟨tokens, .docLine inner false (c :: chars)⟩

/-- A character behind a slash that may open a comment. -/
def afterSlash (tokens : List Token) (before : Option Char) (c : Char) : Lexing :=
  let closed (touching : Bool) : List Token :=
    match before with
    | some p => .punct p touching :: tokens
    | none => tokens
  if c = '/' then ⟨closed false, .lineOpen⟩
  else if c = '*' then ⟨closed false, .blockOpen⟩
  else afterPunct (closed true) '/' c

/-! ### The machine -/

/-- One character more. -/
def Lexing.step (s : Lexing) (c : Char) : Lexing :=
  let tokens := s.tokens
  match s.mode with
  | .ground => ground tokens c
  | .word chars => afterWord tokens chars c
  | .hashes word count => afterHashes tokens word count c
  | .rawWord chars =>
    if isWordContinue c then ⟨tokens, .rawWord (c :: chars)⟩
    else
      match withRawWord? tokens chars with
      | some tokens => ground tokens c
      | none => .failed
  | .string content inside text value => inString tokens content inside text value c
  | .rawString content count seen carriage text value =>
    inRawString tokens content count seen carriage text value c
  | .quote => if c = '\\' then ⟨tokens, .charEscape .escape [c, '\'']⟩ else ⟨tokens, .quoteChar c⟩
  | .quoteChar first => afterQuoteChar tokens first c
  | .charEscape inside text => inEscapedChar tokens false true .charEscape inside text c
  | .byteQuote =>
    if c = '\\' then ⟨tokens, .byteEscape .escape [c, '\'', 'b']⟩
    else if c.toNat < 128 then ⟨tokens, .byteClose [c, '\'', 'b']⟩
    else .failed
  | .byteClose text => if c = '\'' then ⟨tokens, .closed .other (c :: text)⟩ else .failed
  | .byteEscape inside text => inEscapedChar tokens true false .byteEscape inside text c
  | .lifetime chars =>
    if isWordContinue c then ⟨tokens, .lifetime (c :: chars)⟩
    else if c = '\'' || c = '#' then .failed
    else ground (.lifetime (textOf chars) :: tokens) c
  | .rawLifetime => if isWordStart c then ⟨tokens, .rawLifetimeWord [c]⟩ else .failed
  | .rawLifetimeWord chars =>
    if isWordContinue c then ⟨tokens, .rawLifetimeWord (c :: chars)⟩
    else if c = '\'' || neverRaw.contains (textOf chars) then .failed
    else ground (.lifetime ("r#" ++ textOf chars) :: tokens) c
  | .digits chars => afterDigits tokens chars c
  | .point chars => afterPoint tokens chars c
  | .fraction chars => afterFraction tokens chars c
  | .exponent number fraction letter sign => inExponent tokens number fraction letter sign c
  | .exponentDigits chars => afterExponentDigits tokens chars c
  | .radix base empty chars => inRadix tokens base empty chars c
  | .closed kind chars => afterLiteral tokens kind chars c
  | .suffix kind chars => afterSuffix tokens kind chars c
  | .punct p => afterPunct tokens p c
  | .slash before => afterSlash tokens before c
  | .lineOpen =>
    if c = '/' then ⟨tokens, .lineDoc⟩
    else if c = '!' then ⟨tokens, .docLine true false []⟩
    else if c = '\n' then ⟨tokens, .ground⟩
    else ⟨tokens, .lineComment⟩
  | .lineDoc => if c = '/' then ⟨tokens, .lineComment⟩ else inDocLine tokens false false [] c
  | .lineComment => if c = '\n' then ⟨tokens, .ground⟩ else s
  | .docLine inner carriage chars => inDocLine tokens inner carriage chars c
  | .blockOpen =>
    if c = '*' then ⟨tokens, .blockDoc⟩
    else if c = '!' then ⟨tokens, .docBlock true 1 .none []⟩
    else inBlockComment tokens 1 .none c
  | .blockDoc =>
    if c = '/' then ⟨tokens, .ground⟩
    else if c = '*' then ⟨tokens, .blockComment 1 .star⟩
    else inDocBlock tokens false 1 .none [] c
  | .blockComment depth mark => inBlockComment tokens depth mark c
  | .docBlock inner depth mark chars => inDocBlock tokens inner depth mark chars c
  | .failed => s

/-- The tokens at the end of the text, last first, unless a token is left open. -/
def Lexing.finish? (s : Lexing) : Option (List Token) :=
  let tokens := s.tokens
  match s.mode with
  | .ground | .lineOpen | .lineComment => some tokens
  | .word chars => some (.word (textOf chars) :: tokens)
  | .rawWord chars => withRawWord? tokens chars
  | .quoteChar first =>
    if isWordStart first then some (.lifetime (textOf [first]) :: tokens) else none
  | .lifetime chars => some (.lifetime (textOf chars) :: tokens)
  | .rawLifetimeWord chars =>
    if neverRaw.contains (textOf chars) then none
    else some (.lifetime ("r#" ++ textOf chars) :: tokens)
  | .digits chars => some (.literal .integer (textOf chars) :: tokens)
  | .point chars => some (.literal .float (textOf ('.' :: chars)) :: tokens)
  | .fraction chars => some (.literal .float (textOf chars) :: tokens)
  | .exponentDigits chars => some (.literal .float (textOf chars) :: tokens)
  | .exponent number fraction letter sign =>
    match withoutExponent tokens number fraction letter sign with
    | ⟨tokens, .suffix kind chars⟩ => some (.literal kind (textOf chars) :: tokens)
    | ⟨tokens, .punct p⟩ => some (.punct p false :: tokens)
    | ⟨tokens, .word word⟩ => some (.word (textOf word) :: tokens)
    | _ => none
  | .radix _ empty chars =>
    if empty then none else some (.literal .integer (textOf chars) :: tokens)
  | .closed kind chars | .suffix kind chars => some (.literal kind (textOf chars) :: tokens)
  | .punct p => some (.punct p false :: tokens)
  | .slash (some p) => some (.punct '/' false :: .punct p true :: tokens)
  | .slash none => some (.punct '/' false :: tokens)
  | .lineDoc => some (.doc false "" :: tokens)
  | .docLine inner carriage chars =>
    if carriage then none else some (.doc inner (textOf chars) :: tokens)
  | _ => none

/-- Reads a text from a state. -/
def Lexing.run (s : Lexing) (cs : List Char) : Lexing := cs.foldl Lexing.step s

theorem Lexing.run_append (s : Lexing) (a b : List Char) : s.run (a ++ b) = (s.run a).run b :=
  List.foldl_append

/-- The tokens of a text whose delimiters are closed in turn; `none` if it has no such tokens. -/
def lex? (cs : List Char) : Option (List Token) :=
  ((Lexing.run ⟨[], .ground⟩ cs).finish?.map List.reverse).filter (balanced [])

end Companion.Source
