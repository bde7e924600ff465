/-! Type declarations of a source file, as far as generation looks at them. -/
namespace Companion

namespace Declaration

/-- The form of a declared type. A newtype wraps one value of a type with a plain name. -/
inductive Shape where
  | named
  | unit
  | newtype (inner : String)
  | other
  deriving DecidableEq, Repr

end Declaration

/-- A declared type with the text of its doc comments, if it has any. -/
structure Declaration where
  name : String
  shape : Declaration.Shape
  doc : Option String
  deriving DecidableEq, Repr

end Companion
