import Mathlib
import Companion.Scalar

/-! Values and their texts. The decimal text of an integer is read back as that integer, whatever
its sign and size, and a value's plain text is classified as the value where the value is no
text. -/
namespace Companion

namespace Text

theorem readDigits_toDigits (n : Nat) : readDigits (Nat.toDigits 10 n) = some n := by
  have hne : (Nat.toDigits 10 n).isEmpty = false := by
    rw [List.isEmpty_eq_false_iff]
    exact Nat.toDigits_ne_nil
  have hall : (Nat.toDigits 10 n).all Char.isDigit = true := by
    rw [List.all_eq_true]
    intro c hc
    exact Nat.isDigit_of_mem_toDigits (by decide) (by decide) hc
  rw [readDigits, hne, hall]
  exact congrArg some (Nat.ofDigitChars_toDigits (by decide) (by decide))

theorem toDigits_ne_minus (n : Nat) (rest : List Char) : Nat.toDigits 10 n ≠ '-' :: rest := by
  intro h
  have hdigit : Char.isDigit '-' = true :=
    Nat.isDigit_of_mem_toDigits (b := 10) (n := n) (by decide) (by decide)
      (by rw [h]; exact List.mem_cons_self)
  exact absurd hdigit (by decide)

theorem readDecimal_decimal (i : Int) : readDecimal (decimal i) = some i := by
  rw [decimal]
  split
  · next hneg =>
    rw [readDecimal, readDigits_toDigits]
    show some (-(i.natAbs : Int)) = some i
    congr 1
    omega
  · next hpos =>
    rw [readDecimal, readDigits_toDigits]
    · show some (i.natAbs : Int) = some i
      congr 1
      omega
    · exact toDigits_ne_minus _

theorem mem_decimal {i : Int} {c : Char} (h : c ∈ decimal i) : c = '-' ∨ c.isDigit = true := by
  rw [decimal] at h
  split at h
  · rcases List.mem_cons.1 h with rfl | h
    · exact Or.inl rfl
    · exact Or.inr (Nat.isDigit_of_mem_toDigits (by decide) (by decide) h)
  · exact Or.inr (Nat.isDigit_of_mem_toDigits (by decide) (by decide) h)

end Text

namespace Scalar

theorem ofInt?_toInt (i : Int64) : ofInt? i.toInt = some (.integer i) := by
  have hlow := i.le_toInt
  have hhigh := i.toInt_lt
  rw [ofInt?, if_pos ⟨by omega, by omega⟩, Int64.ofInt_toInt]

/-- A token that can be a decimal number is no word. -/
theorem classify_of_not_word {token : List Char} (h : ∀ c ∈ token, c = '-' ∨ c.isDigit = true) :
    classify token = ((Text.readDecimal token).bind ofInt?).getD (.text (String.ofList token)) := by
  have htrue : token ≠ "true".toList := by
    rintro rfl
    exact absurd (h 't' (by decide)) (by decide)
  have hfalse : token ≠ "false".toList := by
    rintro rfl
    exact absurd (h 'f' (by decide)) (by decide)
  rw [classify, if_neg htrue, if_neg hfalse]

theorem classify_of_readDecimal {token : List Char} {i : Int64}
    (h : ∀ c ∈ token, c = '-' ∨ c.isDigit = true) (hread : Text.readDecimal token = some i.toInt) :
    classify token = .integer i := by
  rw [classify_of_not_word h, hread]
  show (ofInt? i.toInt).getD _ = _
  rw [ofInt?_toInt]
  rfl

theorem classify_decimal (i : Int64) : classify (Text.decimal i.toInt) = .integer i :=
  classify_of_readDecimal (fun _ hc => Text.mem_decimal hc) (Text.readDecimal_decimal i.toInt)

theorem classify_boolean (b : Bool) : classify (plain (.boolean b)).toList = .boolean b := by
  cases b <;> decide

end Scalar
end Companion
