import Companion.Text.Utf8

/-! Raw text: the bytes under which a file system knows a file, which need not be UTF-8. Where a raw
text is shown or becomes part of a text it is decoded, and texts that do not decode may then look
alike. -/
namespace Companion

structure RawText where
  ofList ::
  toList : List UInt8
  deriving DecidableEq, Repr

namespace RawText

/-- The bytes of a text in UTF-8. -/
def ofString (s : String) : RawText := ⟨s.toList.flatMap String.utf8EncodeChar⟩

instance : Coe String RawText := ⟨ofString⟩

instance : Append RawText := ⟨fun a b => ⟨a.toList ++ b.toList⟩⟩

/-- Raw texts stand in the order of their bytes. -/
instance : LT RawText := ⟨fun a b => a.toList < b.toList⟩

instance (a b : RawText) : Decidable (a < b) := inferInstanceAs (Decidable (a.toList < b.toList))

def isEmpty (t : RawText) : Bool := t.toList.isEmpty

/-- The text that the bytes make, with a replacement character for what is no UTF-8. -/
def decode (t : RawText) : String := String.ofList (Text.decodeLossy t.toList)

/-- The bytes are the UTF-8 of a text. -/
def IsText (t : RawText) : Prop := ofString t.decode = t

instance (t : RawText) : Decidable t.IsText := inferInstanceAs (Decidable (_ = _))

@[simp] theorem toList_append (a b : RawText) : (a ++ b).toList = a.toList ++ b.toList := rfl

theorem toList_inj {a b : RawText} : a.toList = b.toList ↔ a = b :=
  ⟨congrArg ofList, congrArg toList⟩

protected theorem lt_irrefl (a : RawText) : ¬a < a := List.lt_irrefl a.toList

protected theorem lt_trans {a b c : RawText} (hab : a < b) (hbc : b < c) : a < c :=
  List.lt_trans hab hbc

instance : Std.Irrefl fun a b : RawText => a < b := ⟨RawText.lt_irrefl⟩

instance : Std.Asymm fun a b : RawText => a < b := ⟨fun _ _ hab => List.lt_asymm hab⟩

protected theorem eq_of_not_lt {a b : RawText} (hab : ¬a < b) (hba : ¬b < a) : a = b :=
  toList_inj.1 (List.le_antisymm (List.not_lt.1 hba) (List.not_lt.1 hab))

end RawText
end Companion
