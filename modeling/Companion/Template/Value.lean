import Companion.Text.Decimal
import Companion.Text.Quoted

/-! The data that templates show: JSON values. A number of scale 0 is an integer. Any other number
is a double, given by the fewest digits that tell it from other doubles; there is no negative
zero. -/
namespace Companion

inductive Value where
  | null
  | boolean (value : Bool)
  /-- The number `mantissa / 10 ^ scale`. -/
  | number (mantissa : Int) (scale : Nat)
  | text (value : String)
  | list (items : List Value)
  | record (fields : List (String × Value))
  deriving Inhabited

namespace Value

/-- An integer. -/
def integer (i : Int) : Value := .number i 0

/-- The text of the double `n / 10 ^ scale`. The point stands behind at most sixteen digits, or in
front of at most four zeros and the digits; what needs more is written with an exponent. -/
def fractionText (n scale : Nat) : List Char :=
  let digits := Nat.toDigits 10 n
  let kept := (digits.reverse.dropWhile (· = '0')).reverse
  let point : Int := digits.length - scale
  if n = 0 then ['0', '.', '0']
  else if 0 < point ∧ point ≤ 16 then
    let whole := point.toNat
    let zeros := List.replicate (whole - kept.length) '0'
    let fraction := kept.drop whole
    kept.take whole ++ zeros ++ '.' :: if fraction = [] then ['0'] else fraction
  else if -5 < point ∧ point ≤ 0 then '0' :: '.' :: List.replicate point.natAbs '0' ++ kept
  else
    let fraction := kept.drop 1
    kept.take 1 ++ (if fraction = [] then [] else '.' :: fraction) ++
      'e' :: Text.decimal (point - 1)

def numberText (mantissa : Int) (scale : Nat) : List Char :=
  if scale = 0 then Text.decimal mantissa
  else (if mantissa < 0 then ['-'] else []) ++ fractionText mantissa.natAbs scale

/-- Four hexadecimal digits. -/
def hex4 (n : Nat) : List Char :=
  let digits := Nat.toDigits 16 n
  List.replicate (4 - digits.length) '0' ++ digits

/-- A character between the quotes of a JSON text. -/
def escapeJson (c : Char) : List Char :=
  if c = '"' then ['\\', '"']
  else if c = '\\' then ['\\', '\\']
  else if c = '\n' then ['\\', 'n']
  else if c = '\r' then ['\\', 'r']
  else if c = '\t' then ['\\', 't']
  else if c.toNat = 8 then ['\\', 'b']
  else if c.toNat = 12 then ['\\', 'f']
  else if c.toNat < 32 then '\\' :: 'u' :: hex4 c.toNat
  else [c]

def quoteJson (s : String) : List Char := Text.quoteWith escapeJson s.toList

/-- Texts with commas between them. -/
def joinComma : List (List Char) → List Char
  | [] => []
  | [t] => t
  | t :: ts => t ++ ',' :: joinComma ts

mutual

/-- Compact JSON with the fields of records in the order of their names. -/
def jsonChars : Value → List Char
  | .null => ['n', 'u', 'l', 'l']
  | .boolean true => ['t', 'r', 'u', 'e']
  | .boolean false => ['f', 'a', 'l', 's', 'e']
  | .number mantissa scale => numberText mantissa scale
  | .text s => quoteJson s
  | .list items => '[' :: joinComma (jsonItems items) ++ [']']
  | .record fields =>
    let sorted := (jsonFields fields).mergeSort fun a b => decide (a.1 ≤ b.1)
    '{' :: joinComma (sorted.map fun f => quoteJson f.1 ++ ':' :: f.2) ++ ['}']

def jsonItems : List Value → List (List Char)
  | [] => []
  | v :: vs => v.jsonChars :: jsonItems vs

def jsonFields : List (String × Value) → List (String × List Char)
  | [] => []
  | (name, v) :: rest => (name, v.jsonChars) :: jsonFields rest

end

def json (v : Value) : String := String.ofList v.jsonChars

/-- The field of a record; nothing else has fields. -/
def field? : Value → String → Option Value
  | .record fields, name => fields.lookup name
  | _, _ => none

/-- The value as one part of a longer text: null is nothing, a text is itself. -/
def plain : Value → String
  | .text s => s
  | .null => ""
  | v => v.json

mutual

/-- The value where a template names it by a path. -/
def shown : Value → String
  | .null => ""
  | .text s => s
  | .list items => "[" ++ String.intercalate ", " (shownItems items) ++ "]"
  | .record _ => "[object]"
  | v => v.json

def shownItems : List Value → List String
  | [] => []
  | v :: vs => v.shown :: shownItems vs

end

/-- The value as a literal of generated code, if it is a scalar. -/
def literal? : Value → Option (List Char)
  | .text s => some (Text.literalChars s)
  | .number mantissa scale => some (Value.number mantissa scale).jsonChars
  | .boolean b => some (Value.boolean b).jsonChars
  | _ => none

/-- Whether a condition on the value holds: false, null, zero and all that is empty fail. -/
def holds : Value → Bool
  | .null => false
  | .boolean b => b
  | .number mantissa _ => mantissa ≠ 0
  | .text s => !s.isEmpty
  | .list items => !items.isEmpty
  | .record fields => !fields.isEmpty

/-- What a loop over the value goes through. -/
def items : Value → List Value
  | .list items => items
  | .record fields => fields.map Prod.snd
  | _ => []

end Value
end Companion
