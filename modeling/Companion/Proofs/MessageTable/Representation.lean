import Mathlib
import Companion.MessageTable

/-! Which values a type represents. An integer type is a sign and a width in bits, from which its
least and greatest integer follow; the ranges by which codes are checked are these
(`integerRange?_eq`). A code is accepted exactly when the type that carries it represents the value
(`acceptable_eq`), which for the types that declarations give means that it can be a constant of the
type (`represents_iff_takes`). -/
namespace Companion

/-! ### Integer types -/

structure IntegerType where
  signed : Bool
  bits : Nat
  deriving DecidableEq, Repr

namespace IntegerType

/-- The integer types by name. Those of the size of a pointer have 64 bits. -/
def named? (name : String) : Option IntegerType :=
  match name with
  | "i8" => some ⟨true, 8⟩
  | "i16" => some ⟨true, 16⟩
  | "i32" => some ⟨true, 32⟩
  | "i64" => some ⟨true, 64⟩
  | "i128" => some ⟨true, 128⟩
  | "isize" => some ⟨true, 64⟩
  | "u8" => some ⟨false, 8⟩
  | "u16" => some ⟨false, 16⟩
  | "u32" => some ⟨false, 32⟩
  | "u64" => some ⟨false, 64⟩
  | "u128" => some ⟨false, 128⟩
  | "usize" => some ⟨false, 64⟩
  | _ => none

def least (t : IntegerType) : Int := if t.signed then -2 ^ (t.bits - 1) else 0

def greatest (t : IntegerType) : Int := if t.signed then 2 ^ (t.bits - 1) - 1 else 2 ^ t.bits - 1

def holds (t : IntegerType) (i : Int) : Bool := t.least ≤ i && i ≤ t.greatest

theorem holds_iff {t : IntegerType} {i : Int} :
    t.holds i = true ↔ t.least ≤ i ∧ i ≤ t.greatest := by
  simp [holds]

end IntegerType

/-! ### Types that carry a code -/

/-- Whether a constant of the type can have the value. A type that names no primitive takes any. -/
def Underlying.represents (u : Underlying) (v : Scalar) : Bool :=
  u.primitive = "" ||
    match v with
    | .boolean _ => u.primitive = "bool"
    | .integer i => (IntegerType.named? u.primitive).any (·.holds i.toInt)
    | .text _ => false

/-- The values that a constant of an aggregate or of a newtype over a primitive can have. -/
inductive Underlying.Takes : Underlying → Scalar → Prop where
  | aggregate (v : Scalar) : Takes .aggregate v
  | boolean (b : Bool) : Takes (.newtype "bool") (.boolean b)
  | integer {p : String} {t : IntegerType} {i : Int64} (type : IntegerType.named? p = some t)
      (low : t.least ≤ i.toInt) (high : i.toInt ≤ t.greatest) : Takes (.newtype p) (.integer i)

/-- What the underlying type of a declaration is: an aggregate, or a newtype over one of the
primitives. -/
def Underlying.Declared : Underlying → Prop
  | .aggregate => True
  | .newtype p => isPrimitive p = true

theorem Underlying.represents_iff_takes {u : Underlying} (h : u.Declared) (v : Scalar) :
    u.represents v = true ↔ u.Takes v := by
  cases u with
  | aggregate => exact ⟨fun _ => .aggregate v, fun _ => rfl⟩
  | newtype p =>
    have hprimitive : isPrimitive p = true := h
    have hnamed : p ≠ "" := by
      rintro rfl
      exact absurd hprimitive (by decide)
    constructor
    · intro hv
      have hvalue := (Bool.or_eq_true_iff.1 hv).resolve_left fun hempty =>
        hnamed (of_decide_eq_true hempty)
      cases v with
      | text s => cases hvalue
      | boolean b =>
        obtain rfl : p = "bool" := of_decide_eq_true hvalue
        exact .boolean b
      | integer i =>
        obtain ⟨t, ht, hholds⟩ := (Option.any_eq_true _ _).1 hvalue
        obtain ⟨hlow, hhigh⟩ := IntegerType.holds_iff.1 hholds
        exact .integer ht hlow hhigh
    · intro hv
      cases hv with
      | boolean b => rfl
      | integer ht hlow hhigh =>
        simp [represents, primitive, ht, IntegerType.holds_iff.2 ⟨hlow, hhigh⟩]

/-- No constant of a character or a fraction is a code. -/
theorem Underlying.not_takes {p : String} (h : p ∈ ["char", "f32", "f64"]) (v : Scalar) :
    ¬Takes (.newtype p) v := by
  intro hv
  cases hv with
  | boolean b => exact absurd h (by decide)
  | integer ht _ _ =>
    simp only [List.mem_cons, List.not_mem_nil, or_false] at h
    rcases h with rfl | rfl | rfl <;> cases ht

namespace ErrorCode

theorem integerRange?_eq (primitive : String) :
    integerRange? primitive = (IntegerType.named? primitive).map fun t =>
      (t.least, t.greatest) := by
  unfold integerRange?
  split
  case h_13 =>
    unfold IntegerType.named?
    split
    case h_13 => rfl
    all_goals contradiction
  all_goals rfl

theorem integerFits_eq (primitive : String) (i : Int) :
    integerFits primitive i = (IntegerType.named? primitive).any (·.holds i) := by
  rw [integerFits, integerRange?_eq]
  cases IntegerType.named? primitive <;> rfl

theorem acceptable_eq (u : Underlying) (v : Scalar) :
    acceptable ⟨u.primitive, v⟩ = u.represents v := by
  unfold acceptable Underlying.represents
  by_cases hempty : u.primitive = ""
  · simp [hempty]
  · cases v <;> simp [hempty, integerFits_eq]

end ErrorCode
end Companion
