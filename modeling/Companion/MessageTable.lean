import Companion.AnnotatedType

/-! Message tables: what an `i18n` directive asks for. Every argument other than `code` and
`default` names a locale and gives its message. `code` is a value that the type's constant takes, so
it has to be representable by the wrapped primitive. `default` names the argument whose value
answers for a locale without a message; without it, or when it names no argument, the first locale
does. -/
namespace Companion

/-- A locale with its message. -/
structure Message where
  locale : String
  value : Scalar
  deriving DecidableEq, Repr

/-- The code of a type, with the name of the primitive that represents it, empty for an
aggregate. -/
structure ErrorCode where
  representation : String
  value : Scalar
  deriving DecidableEq, Repr

structure MessageTable where
  type : String
  underlying : Underlying
  code : Option ErrorCode
  fallback : Message
  locales : List Message
  deriving DecidableEq, Repr

namespace ErrorCode

/-- The integers that a primitive represents, of those that 64 bits hold; `none` for a primitive
that represents no integers. -/
def integerRange? (primitive : String) : Option (Int × Int) :=
  match primitive with
  | "i8" => some (-128, 127)
  | "i16" => some (-32768, 32767)
  | "i32" => some (-2147483648, 2147483647)
  | "i64" => some (-9223372036854775808, 9223372036854775807)
  | "i128" =>
    some (-170141183460469231731687303715884105728, 170141183460469231731687303715884105727)
  | "isize" => some (-9223372036854775808, 9223372036854775807)
  | "u8" => some (0, 255)
  | "u16" => some (0, 65535)
  | "u32" => some (0, 4294967295)
  | "u64" => some (0, 18446744073709551615)
  | "u128" => some (0, 340282366920938463463374607431768211455)
  | "usize" => some (0, 18446744073709551615)
  | _ => none

/-- Whether a primitive represents an integer. -/
def integerFits (primitive : String) (i : Int) : Bool :=
  match integerRange? primitive with
  | some (low, high) => low ≤ i && i ≤ high
  | none => false

/-- Whether the value of a code can be a constant of its representation. An aggregate takes any. -/
def acceptable (c : ErrorCode) : Bool :=
  if c.representation = "" then true
  else
    match c.value with
    | .boolean _ => c.representation = "bool"
    | .integer i => integerFits c.representation i.toInt
    | .text _ => false

end ErrorCode

namespace MessageTable

/-- An argument that does not suit the type that carries it. -/
structure InvalidArgument where
  type : String
  directive : String
  argument : String
  value : Scalar
  representation : String
  deriving DecidableEq, Repr

def InvalidArgument.message (e : InvalidArgument) : String :=
  "Invalid argument '" ++ e.argument ++ "' in " ++ e.directive ++ " directive on `" ++ e.type ++
    "`: " ++ e.value.kind ++ " value " ++ e.value.display ++ " cannot be represented as `" ++
    e.representation ++ "`"

/-- The argument of an index with the given name. -/
def lookup? (index : List Argument) (name : String) : Option Argument :=
  index.find? (·.name = name)

/-- The locales that an index of arguments gives messages for. -/
def localesOf (index : List Argument) : List Message :=
  (index.filter fun a => a.name ≠ "code" && a.name ≠ "default").map fun a => ⟨a.name, a.value⟩

/-- The argument that `default` names, if it names one; it cannot name itself. -/
def namedDefault? (index : List Argument) (tag : String) : Option Message :=
  ((lookup? index tag).filter fun a => a.name ≠ "default").map fun a => ⟨a.name, a.value⟩

/-- The message for every locale without one; `first` is the first locale of the table. -/
def fallbackOf (type : String) (index : List Argument) (first : Message) :
    Logged InvalidArgument Message :=
  match lookup? index "default" with
  | none => return first
  | some a =>
    match namedDefault? index a.value.plain with
    | some m => return m
    | none => do
      Logged.report (.unknownDefault type a.value.plain first.locale)
      return first

/-- The table that a directive on a type asks for, if it gives any message at all. -/
def ofDirective (type : AnnotatedType) (d : Directive) :
    Logged InvalidArgument (Option MessageTable) :=
  let index := d.index
  let code := (lookup? index "code").map fun a => (⟨type.underlying.primitive, a.value⟩ : ErrorCode)
  let locales := localesOf index
  match locales with
  | [] => return none
  | first :: _ =>
    match code.filter fun c => !c.acceptable with
    | some c => Logged.fail ⟨type.name, d.name, "code", c.value, c.representation⟩
    | none => do
      let fallback ← fallbackOf type.name index first
      return some ⟨type.name, type.underlying, code, fallback, locales⟩

/-- Whether the type wraps a primitive. -/
def isNewtype (t : MessageTable) : Bool :=
  match t.underlying with
  | .newtype _ => true
  | .aggregate => false

end MessageTable
end Companion
