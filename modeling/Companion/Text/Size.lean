/-! Sizes of texts in bytes of UTF-8. Positions in error messages and line widths count these. -/
namespace Companion.Text

/-- The number of bytes of a text. -/
def byteSize : List Char → Nat
  | [] => 0
  | c :: cs => c.utf8Size + byteSize cs

theorem byteSize_append (a b : List Char) : byteSize (a ++ b) = byteSize a + byteSize b := by
  induction a with
  | nil => simp [byteSize]
  | cons c cs ih => simp only [List.cons_append, byteSize, ih]; omega

theorem byteSize_le_of_suffix {rest text : List Char} (h : rest <:+ text) :
    byteSize rest ≤ byteSize text := by
  obtain ⟨front, rfl⟩ := h
  rw [byteSize_append]
  exact Nat.le_add_left _ _

theorem byteSize_ofList (cs : List Char) : (String.ofList cs).utf8ByteSize = byteSize cs := by
  induction cs with
  | nil => rfl
  | cons c cs ih => simp [String.ofList_cons, String.utf8ByteSize_append, byteSize, ih]

theorem byteSize_toList (s : String) : byteSize s.toList = s.utf8ByteSize := by
  rw [← byteSize_ofList, String.ofList_toList]

end Companion.Text
