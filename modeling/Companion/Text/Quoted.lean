import Companion.Text.Printable

/-! Quoted text. Two dialects write a text between double quotes. In the *plain* dialect of
directive values only the quote, the backslash and the three line-format characters are escaped. In
the *literal* dialect of generated code every character that cannot be read off the page is written
by its code as well, so a literal never breaks a line and never ends early. -/
namespace Companion.Text

/-- A character between plain quotes. -/
def escapePlain (c : Char) : List Char :=
  if c = '"' then ['\\', '"']
  else if c = '\\' then ['\\', '\\']
  else if c = '\n' then ['\\', 'n']
  else if c = '\t' then ['\\', 't']
  else if c = '\r' then ['\\', 'r']
  else [c]

/-- The character that the plain escape with letter `c` stands for. -/
def unescapePlain? (c : Char) : Option Char :=
  if c = '"' then some '"'
  else if c = '\\' then some '\\'
  else if c = 'n' then some '\n'
  else if c = 't' then some '\t'
  else if c = 'r' then some '\r'
  else none

/-- A code point as the escape of the literal dialect, with lower-case digits. -/
def escapeCode (n : Nat) : List Char := '\\' :: 'u' :: '{' :: Nat.toDigits 16 n ++ ['}']

/-- A character between the quotes of a literal. -/
def escapeLiteral (c : Char) : List Char :=
  if c = '"' then ['\\', '"']
  else if c = '\\' then ['\\', '\\']
  else if c = '\n' then ['\\', 'n']
  else if c = '\r' then ['\\', 'r']
  else if c = '\t' then ['\\', 't']
  else if c.toNat = 0 then ['\\', '0']
  else if isGraphemeExtend c || !isPrintable c then escapeCode c.toNat
  else [c]

/-- A text between quotes, each character written by `escape`. -/
def quoteWith (escape : Char → List Char) (cs : List Char) : List Char :=
  '"' :: cs.flatMap escape ++ ['"']

/-- The text as a directive value shows it. -/
def quotePlain (s : String) : String := String.ofList (quoteWith escapePlain s.toList)

/-- The characters of the string literal of generated code that denotes a text. -/
def literalChars (s : String) : List Char := quoteWith escapeLiteral s.toList

/-- The text as a string literal of generated code. -/
def quoteLiteral (s : String) : String := String.ofList (literalChars s)

/-- What stands behind an opening plain quote: the text up to the closing quote with its escapes
resolved, and the rest. There is none when the quote is not closed or an escape is unknown. -/
def readPlain : List Char → Option (List Char × List Char)
  | [] => none
  | '"' :: rest => some ([], rest)
  | '\\' :: [] => none
  | '\\' :: c :: rest =>
    match unescapePlain? c, readPlain rest with
    | some d, some (s, rest) => some (d :: s, rest)
    | _, _ => none
  | c :: rest =>
    match readPlain rest with
    | some (s, rest) => some (c :: s, rest)
    | none => none

/-- Whether a closing quote stands in what follows an opening one. A backslash takes the next
character with it, whatever it is. -/
def closesQuote : List Char → Bool
  | [] => false
  | '"' :: _ => true
  | '\\' :: [] => false
  | '\\' :: _ :: rest => closesQuote rest
  | _ :: rest => closesQuote rest

theorem length_readPlain {cs s rest : List Char} (h : readPlain cs = some (s, rest)) :
    rest.length < cs.length := by
  fun_induction readPlain cs generalizing s rest with
  | case1 => simp at h
  | case2 tail => grind
  | case3 => simp at h
  | case4 c tail d hd s' rest' hs ih => grind
  | case5 c tail _ _ => simp at h
  | case6 c tail _ _ s' rest' hs ih => grind
  | case7 c tail _ _ hs => simp at h

end Companion.Text
