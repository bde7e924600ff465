/-! Reading bytes as UTF-8 where they need not be UTF-8. Every longest run of bytes that starts a
character but does not complete it, and every byte that starts none, gives one replacement
character. -/
namespace Companion.Text

/-- The replacement character. -/
def replacement : Char := Char.ofNat 0xfffd

/-- How many bytes follow a first byte, and which values the byte behind it may have. -/
def sequenceOf (first : Nat) : Option (Nat × Nat × Nat) :=
  if 0xc2 ≤ first ∧ first ≤ 0xdf then some (1, 0x80, 0xbf)
  else if first = 0xe0 then some (2, 0xa0, 0xbf)
  else if first = 0xed then some (2, 0x80, 0x9f)
  else if 0xe1 ≤ first ∧ first ≤ 0xef then some (2, 0x80, 0xbf)
  else if first = 0xf0 then some (3, 0x90, 0xbf)
  else if 0xf1 ≤ first ∧ first ≤ 0xf3 then some (3, 0x80, 0xbf)
  else if first = 0xf4 then some (3, 0x80, 0x8f)
  else none

/-- The value of a first byte in a sequence of `count` further bytes. -/
def firstValue (count first : Nat) : Nat := first % (64 >>> count)

/-- Reads `count` further bytes onto `value`, the next one between `low` and `high`. Gives the
character, if all are there, and the rest. -/
def readSequence : Nat → Nat → Nat → Nat → List UInt8 → Char × List UInt8
  | 0, value, _, _, bytes => (Char.ofNat value, bytes)
  | _ + 1, _, _, _, [] => (replacement, [])
  | count + 1, value, low, high, b :: bytes =>
    if low ≤ b.toNat ∧ b.toNat ≤ high then
      readSequence count (64 * value + b.toNat % 64) 0x80 0xbf bytes
    else (replacement, b :: bytes)

/-- The first character of a text behind its first byte, and the rest. -/
def readChar (first : UInt8) (bytes : List UInt8) : Char × List UInt8 :=
  if first.toNat < 0x80 then (Char.ofNat first.toNat, bytes)
  else
    match sequenceOf first.toNat with
    | some (count, low, high) => readSequence count (firstValue count first.toNat) low high bytes
    | none => (replacement, bytes)

theorem length_readSequence_le (count value low high : Nat) (bytes : List UInt8) :
    (readSequence count value low high bytes).2.length ≤ bytes.length := by
  fun_induction readSequence count value low high bytes with
  | case1 => simp
  | case2 => simp
  | case3 => simp; omega
  | case4 => simp

theorem length_readChar_le (first : UInt8) (bytes : List UInt8) :
    (readChar first bytes).2.length ≤ bytes.length := by
  unfold readChar
  split
  · simp
  · split
    · exact length_readSequence_le ..
    · simp

/-- The text of a list of bytes. -/
def decodeLossy : List UInt8 → List Char
  | [] => []
  | b :: bytes =>
    have := length_readChar_le b bytes
    (readChar b bytes).1 :: decodeLossy (readChar b bytes).2
termination_by bytes => bytes.length

end Companion.Text
