import Companion.Family

/-! The `i18n` family: the messages and the code of an error type. -/
namespace Companion

namespace Message

/-- The message as data of a template. -/
def data (m : Message) : Value :=
  .record [("locale", .text m.locale), ("value", .ofScalar m.value)]

end Message

namespace MessageTable

/-- The code as data of a template. -/
def codeData : Option ErrorCode → Value
  | none => .null
  | some c =>
    .record [("representation_type", .text c.representation), ("value", .ofScalar c.value)]

/-- The table as data of a template. -/
def data (t : MessageTable) : Value :=
  .record [("type_name", .text t.type), ("underlying_type", .text t.underlying.primitive),
    ("alias", .boolean t.isNewtype), ("code", codeData t.code), ("default_locale", t.fallback.data),
    ("locales", .list (t.locales.map Message.data))]

open Template in
/-- The lines of the template. -/
def templateLines : List (List Char) :=
  ["impl ".toList ++ braced "type_name" ++ " \x7b".toList,
    braced "#if code",
    "/// Error code of `".toList ++ braced "type_name" ++ "`.".toList,
    "pub const CODE: ".toList ++ braced "code_type code" ++ " = ".toList ++
      braced "rust_literal code.value" ++ ";".toList,
    braced "/if",
    "/// Locale used when a requested locale has no message.".toList,
    "pub const DEFAULT_LOCALE: &'static str = ".toList ++ braced "rust_str default_locale.locale" ++
      ";".toList,
    "/// Locales with a message, in declaration order.".toList,
    "pub const LOCALES: &'static [&'static str] = &[".toList ++ braced "#each locales" ++
      braced "rust_str locale" ++ ", ".toList ++ braced "/each" ++ "];".toList,
    "/// Message for `locale`, falling back to the default locale.".toList,
    "pub fn message(locale: &str) -> &'static str \x7b".toList,
    "match locale \x7b".toList,
    braced "#each locales",
    braced "rust_str locale" ++ " => ".toList ++ braced "rust_str value" ++ ",".toList,
    braced "/each",
    "_ => ".toList ++ braced "rust_str default_locale.value" ++ ",".toList,
    "\x7d".toList,
    "\x7d".toList,
    "\x7d".toList,
    braced "#if alias" ++ braced "#if code",
    "#[doc = ".toList ++ braced "rust_str \" \" default_locale.value \" [\" code.value \"]\"" ++
      "]".toList,
    "pub const ".toList ++ braced "screaming_snake type_name" ++ ": ".toList ++
    braced "type_name" ++
      " = ".toList ++ braced "type_name" ++ "(".toList ++ braced "type_name" ++ "::CODE);".toList,
    braced "/if" ++ braced "/if"]

end MessageTable

/-- The family that writes message tables. -/
def Family.messages : Family where
  name := "i18n"
  template := List.intercalate ['\n'] MessageTable.templateLines
  build type d := do
    let table ← (MessageTable.ofDirective type d).mapError .invalidArgument
    return table.map MessageTable.data

end Companion
