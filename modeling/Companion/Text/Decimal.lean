/-! Integers in decimal: an optional minus sign and digits, without a plus sign and without
grouping. -/
namespace Companion.Text

/-- The decimal text of an integer. -/
def decimal (i : Int) : List Char :=
  if i < 0 then '-' :: Nat.toDigits 10 i.natAbs else Nat.toDigits 10 i.natAbs

/-- The value of a non-empty run of ASCII digits. -/
def readDigits (cs : List Char) : Option Nat :=
  if cs.isEmpty || !cs.all Char.isDigit then none else some (Nat.ofDigitChars 10 cs 0)

/-- The integer that a text denotes: one optional minus sign and then digits only. -/
def readDecimal : List Char → Option Int
  | '-' :: cs => (readDigits cs).map fun n => -(n : Int)
  | cs => (readDigits cs).map fun n => (n : Int)

end Companion.Text
