import Mathlib
import Companion.Proofs.Scalar

/-! Unquoted values.

`Numeral` says which texts are decimal integers and what each of them is worth, by the places of its
digits and without a bound; the reader of decimal texts finds exactly that
(`readDecimal_eq_some_iff`). A token is an integer when it denotes one that 64 bits hold, and a
boolean when it is one of the two words; any other token is kept as it stands (`classify_eq_iff`).
Several texts may denote one number, but of these only one is without zeros that the number does not
need and without a sign on zero (`decimal_eq_iff`). So such zeros and signs are all that is lost
when a token is classified and the plain text of its value is taken (`classify_by_value`). -/
namespace Companion

namespace Text

/-! ### Digits at their places -/

def digitValue (c : Char) : Nat := c.toNat - '0'.toNat

/-- The sum of the digits, each times the power of ten of its place. -/
def placeValue (digits : List Char) : Nat := Nat.ofDigits 10 (digits.reverse.map digitValue)

theorem toNat_of_isDigit {c : Char} (h : c.isDigit = true) :
    c.toNat = 48 + digitValue c ∧ digitValue c < 10 := by
  have hlow : 48 ≤ c.toNat := (Char.isDigit_iff_toNat.1 h).1
  have hhigh : c.toNat ≤ 57 := (Char.isDigit_iff_toNat.1 h).2
  show c.toNat = 48 + (c.toNat - 48) ∧ c.toNat - 48 < 10
  omega

theorem toDigits_digitValue {c : Char} (h : c.isDigit = true) :
    Nat.toDigits 10 (digitValue c) = [c] := by
  obtain ⟨hvalue, hlt⟩ := toNat_of_isDigit h
  rw [Nat.toDigits_of_lt_base hlt]
  congr 1
  apply Char.toNat_inj.1
  rw [Nat.toNat_digitChar_of_lt_ten hlt, hvalue]

theorem placeValue_concat (digits : List Char) (c : Char) :
    placeValue (digits ++ [c]) = 10 * placeValue digits + digitValue c := by
  simp [placeValue, Nat.ofDigits_cons, Nat.add_comm]

theorem placeValue_zero_cons (digits : List Char) :
    placeValue ('0' :: digits) = placeValue digits := by
  simp [placeValue, digitValue, Nat.ofDigits_append]

theorem placeValue_lt {digits : List Char} (h : ∀ c ∈ digits, c.isDigit = true) :
    placeValue digits < 10 ^ digits.length := by
  have hbound : ∀ d ∈ digits.reverse.map digitValue, d < 10 := by
    intro d hd
    obtain ⟨c, hc, rfl⟩ := List.mem_map.1 hd
    exact (toNat_of_isDigit (h c (List.mem_reverse.1 hc))).2
  have hlt := Nat.ofDigits_lt_base_pow_length (by decide) hbound
  rwa [List.length_map, List.length_reverse] at hlt

theorem placeValue_pos {d : Char} (hdigit : d.isDigit = true) (hzero : d ≠ '0') (rest : List Char) :
    0 < placeValue (d :: rest) := by
  induction rest using List.reverseRecOn with
  | nil =>
    have hvalue := (toNat_of_isDigit hdigit).1
    have hne : d.toNat ≠ 48 := fun h => hzero (Char.toNat_inj.1 h)
    have hsingle : placeValue [d] = digitValue d := by simp [placeValue]
    omega
  | append_singleton rest c ih =>
    rw [← List.cons_append, placeValue_concat]
    omega

/-- Reading the digits from the left, as the reader does, gives the same number. -/
theorem ofDigitChars_eq_placeValue (digits : List Char) :
    Nat.ofDigitChars 10 digits 0 = placeValue digits := by
  induction digits using List.reverseRecOn with
  | nil => rfl
  | append_singleton digits c ih => rw [Nat.ofDigitChars_append, ih, placeValue_concat]; rfl

theorem placeValue_toDigits (n : Nat) : placeValue (Nat.toDigits 10 n) = n := by
  rw [← ofDigitChars_eq_placeValue]
  exact Nat.ofDigitChars_toDigits (by decide) (by decide)

theorem readDigits_eq_some_iff {digits : List Char} {n : Nat} :
    readDigits digits = some n ↔ digits ≠ [] ∧ (∀ c ∈ digits, c.isDigit = true) ∧
      placeValue digits = n := by
  rw [readDigits, ofDigitChars_eq_placeValue, ← List.all_eq_true]
  by_cases hne : digits = []
  · simp [hne]
  · cases hall : digits.all Char.isDigit <;> simp [hne]

/-! ### Signed numbers -/

/-- The text is one or more digits, behind a minus sign or not, and this is the number that it
denotes. -/
inductive Numeral : List Char → Int → Prop where
  | unsigned {digits : List Char} : digits ≠ [] → (∀ c ∈ digits, c.isDigit = true) →
      Numeral digits (placeValue digits)
  | minus {digits : List Char} : digits ≠ [] → (∀ c ∈ digits, c.isDigit = true) →
      Numeral ('-' :: digits) (-placeValue digits)

theorem Numeral.mem {text : List Char} {i : Int} (h : Numeral text i) {c : Char} (hc : c ∈ text) :
    c = '-' ∨ c.isDigit = true := by
  cases h with
  | unsigned _ hdigit => exact Or.inr (hdigit c hc)
  | minus _ hdigit => exact (List.mem_cons.1 hc).imp_right (hdigit c)

theorem readDecimal_minus (digits : List Char) :
    readDecimal ('-' :: digits) = (readDigits digits).map fun n : Nat => -(n : Int) := by
  rw [readDecimal]
  cases readDigits digits <;> rfl

theorem readDecimal_unsigned {digits : List Char} (h : ∀ rest, digits ≠ '-' :: rest) :
    readDecimal digits = (readDigits digits).map fun n : Nat => (n : Int) := by
  rw [readDecimal]
  · cases readDigits digits <;> rfl
  · exact h

theorem readDecimal_eq_some_iff {text : List Char} {i : Int} :
    readDecimal text = some i ↔ Numeral text i := by
  constructor
  · intro h
    by_cases hsign : ∃ digits, text = '-' :: digits
    · obtain ⟨digits, rfl⟩ := hsign
      rw [readDecimal_minus] at h
      obtain ⟨n, hread, rfl⟩ := Option.map_eq_some_iff.1 h
      obtain ⟨hne, hdigit, rfl⟩ := readDigits_eq_some_iff.1 hread
      exact .minus hne hdigit
    · rw [readDecimal_unsigned (not_exists.1 hsign)] at h
      obtain ⟨n, hread, rfl⟩ := Option.map_eq_some_iff.1 h
      obtain ⟨hne, hdigit, rfl⟩ := readDigits_eq_some_iff.1 hread
      exact .unsigned hne hdigit
  · rintro (⟨hne, hdigit⟩ | ⟨hne, hdigit⟩)
    · have hsign : ∀ rest, text ≠ '-' :: rest := by
        rintro rest rfl
        exact absurd (hdigit '-' List.mem_cons_self) (by decide)
      rw [readDecimal_unsigned hsign, readDigits_eq_some_iff.2 ⟨hne, hdigit, rfl⟩, Option.map_some]
    · rw [readDecimal_minus, readDigits_eq_some_iff.2 ⟨hne, hdigit, rfl⟩, Option.map_some]

/-! ### One text for each number -/

/-- The text has zeros that its number does not need, or is zero with a sign. -/
inductive Redundant : List Char → Prop where
  | leadingZero (c : Char) (digits : List Char) : Redundant ('0' :: c :: digits)
  | minusLeadingZero (c : Char) (digits : List Char) : Redundant ('-' :: '0' :: c :: digits)
  | minusZero : Redundant ['-', '0']

theorem redundant_minus_iff (digits : List Char) :
    Redundant ('-' :: digits) ↔ ∃ rest, digits = '0' :: rest := by
  constructor
  · rintro (_ | _ | _)
    · exact ⟨_, rfl⟩
    · exact ⟨_, rfl⟩
  · rintro ⟨_ | ⟨c, rest⟩, rfl⟩
    · exact .minusZero
    · exact .minusLeadingZero c rest

theorem redundant_digits_iff {digits : List Char} (h : ∀ c ∈ digits, c.isDigit = true) :
    Redundant digits ↔ ∃ c rest, digits = '0' :: c :: rest := by
  constructor
  · rintro (_ | _ | _)
    · exact ⟨_, _, rfl⟩
    · exact absurd (h '-' List.mem_cons_self) (by decide)
    · exact absurd (h '-' List.mem_cons_self) (by decide)
  · rintro ⟨c, rest, rfl⟩
    exact .leadingZero c rest

/-- A text with a zero in front has more characters than its number needs. -/
theorem toDigits_ne_zero_cons {n : Nat} (hpos : 0 < n) (rest : List Char) :
    Nat.toDigits 10 n ≠ '0' :: rest := by
  intro h
  have hdigit : ∀ d ∈ rest, d.isDigit = true := fun d hd =>
    Nat.isDigit_of_mem_toDigits (by decide) (by decide) (h ▸ List.mem_cons_of_mem '0' hd)
  have hvalue : n = placeValue rest := by
    rw [← placeValue_zero_cons, ← h, placeValue_toDigits]
  have hlt : n < 10 ^ rest.length := hvalue ▸ placeValue_lt hdigit
  have hsome : 0 < rest.length := by
    apply List.length_pos_of_ne_nil
    rintro rfl
    exact absurd hvalue (by simpa [placeValue] using hpos.ne')
  have hlength := (Nat.length_toDigits_le_iff (by decide) hsome).2 hlt
  rw [h] at hlength
  simp at hlength

/-- Digits that do not start with a zero are the text of their number. -/
theorem toDigits_placeValue {d : Char} {rest : List Char}
    (hdigit : ∀ c ∈ d :: rest, c.isDigit = true) (hzero : d ≠ '0') :
    Nat.toDigits 10 (placeValue (d :: rest)) = d :: rest := by
  -- On the digits behind the first from the last on, as the text of a number grows.
  induction rest using List.reverseRecOn with
  | nil => simpa [placeValue] using toDigits_digitValue (hdigit d List.mem_cons_self)
  | append_singleton rest c ih =>
    have hfront := ih fun e he => hdigit e (List.mem_append_left [c] he)
    have hc : c.isDigit = true := hdigit c (by simp)
    have hpos := placeValue_pos (hdigit d List.mem_cons_self) hzero rest
    calc Nat.toDigits 10 (placeValue (d :: (rest ++ [c])))
        = Nat.toDigits 10 (10 * placeValue (d :: rest) + digitValue c) := by
          rw [← List.cons_append, placeValue_concat]
      _ = Nat.toDigits 10 (placeValue (d :: rest)) ++ Nat.toDigits 10 (digitValue c) :=
          (Nat.toDigits_append_toDigits (by decide) hpos (toNat_of_isDigit hc).2).symm
      _ = d :: (rest ++ [c]) := by rw [hfront, toDigits_digitValue hc]; rfl

theorem toDigits_placeValue_iff {digits : List Char} (hne : digits ≠ [])
    (hdigit : ∀ c ∈ digits, c.isDigit = true) :
    Nat.toDigits 10 (placeValue digits) = digits ↔ ∀ c rest, digits ≠ '0' :: c :: rest := by
  constructor
  · rintro h c rest rfl
    rcases Nat.eq_zero_or_pos (placeValue ('0' :: c :: rest)) with hvalue | hpos
    · rw [hvalue, Nat.toDigits_zero] at h
      cases h
    · exact toDigits_ne_zero_cons hpos _ h
  · intro hlead
    cases digits with
    | nil => exact absurd rfl hne
    | cons d rest =>
      by_cases hzero : d = '0'
      · cases rest with
        | nil => rw [hzero]; rfl
        | cons c rest => exact absurd (by rw [hzero]) (hlead c rest)
      · exact toDigits_placeValue hdigit hzero

theorem decimal_natCast (n : Nat) : decimal n = Nat.toDigits 10 n := by
  rw [decimal, if_neg (by omega), Int.natAbs_natCast]

theorem decimal_neg_natCast {n : Nat} (h : 0 < n) : decimal (-n) = '-' :: Nat.toDigits 10 n := by
  rw [decimal, if_pos (by omega), Int.natAbs_neg, Int.natAbs_natCast]

/-- **A text is the decimal text of the number that it denotes unless it is redundant.** -/
theorem decimal_eq_iff {text : List Char} {i : Int} (h : Numeral text i) :
    decimal i = text ↔ ¬ Redundant text := by
  cases h with
  | unsigned hne hdigit =>
    rw [decimal_natCast, toDigits_placeValue_iff hne hdigit, redundant_digits_iff hdigit]
    simp only [not_exists, ne_eq]
  | @minus digits hne hdigit =>
    obtain ⟨d, rest, rfl⟩ := List.exists_cons_of_ne_nil hne
    rw [redundant_minus_iff]
    by_cases hzero : d = '0'
    · subst hzero
      refine iff_of_false (fun h => ?_) (not_not_intro ⟨rest, rfl⟩)
      rcases Nat.eq_zero_or_pos (placeValue ('0' :: rest)) with hvalue | hpos
      · rw [hvalue] at h
        cases h
      · rw [decimal_neg_natCast hpos] at h
        exact toDigits_ne_zero_cons hpos rest (List.cons.inj h).2
    · have hpos := placeValue_pos (hdigit d List.mem_cons_self) hzero rest
      refine iff_of_true ?_ (by simp [hzero])
      rw [decimal_neg_natCast hpos, toDigits_placeValue hdigit hzero]

end Text

namespace Scalar
open Text

/-! ### Integers of 64 bits -/

def Fits (i : Int) : Prop := -2 ^ 63 ≤ i ∧ i ≤ 2 ^ 63 - 1

theorem fits_toInt (n : Int64) : Fits n.toInt := by
  have hlow := n.le_toInt
  have hhigh := n.toInt_lt
  exact ⟨hlow, by omega⟩

theorem exists_toInt {i : Int} (h : Fits i) : ∃ n : Int64, n.toInt = i := by
  obtain ⟨hlow, hhigh⟩ := h
  exact ⟨Int64.ofInt i, Int64.toInt_ofInt_of_le hlow (by omega)⟩

theorem ofInt?_of_not_fits {i : Int} (h : ¬ Fits i) : ofInt? i = none := if_neg h

/-! ### The value of a token -/

/-- The value of a token, by what the token is. -/
inductive TokenValue (token : List Char) : Scalar → Prop where
  | word {b : Bool} : token = (plain (.boolean b)).toList → TokenValue token (.boolean b)
  | number {n : Int64} : Numeral token n.toInt → TokenValue token (.integer n)
  | other : (∀ b, token ≠ (plain (.boolean b)).toList) → (∀ i, Numeral token i → ¬ Fits i) →
      TokenValue token (.text (String.ofList token))

theorem not_numeral_word (b : Bool) (i : Int) : ¬ Numeral (plain (.boolean b)).toList i := by
  intro h
  cases b with
  | false => exact absurd (h.mem (c := 'f') (by decide)) (by decide)
  | true => exact absurd (h.mem (c := 't') (by decide)) (by decide)

theorem exists_tokenValue (token : List Char) : ∃ v, TokenValue token v := by
  by_cases hword : ∃ b, token = (plain (.boolean b)).toList
  · obtain ⟨b, h⟩ := hword
    exact ⟨_, .word h⟩
  · by_cases hnumber : ∃ i, Numeral token i ∧ Fits i
    · obtain ⟨i, hnumeral, hfits⟩ := hnumber
      obtain ⟨n, rfl⟩ := exists_toInt hfits
      exact ⟨_, .number hnumeral⟩
    · exact ⟨_, .other (not_exists.1 hword) fun i hnumeral hfits => hnumber ⟨i, hnumeral, hfits⟩⟩

variable {token : List Char} {v : Scalar}

theorem classify_of_tokenValue (h : TokenValue token v) : classify token = v := by
  cases h with
  | word h => rw [h, classify_boolean]
  | number h => exact classify_of_readDecimal (fun _ hc => h.mem hc) (readDecimal_eq_some_iff.2 h)
  | other hword hnumber =>
    have hnone : (readDecimal token).bind ofInt? = none := by
      rw [Option.bind_eq_none_iff]
      intro i hread
      exact ofInt?_of_not_fits (hnumber i (readDecimal_eq_some_iff.1 hread))
    have htrue : token ≠ "true".toList := hword true
    have hfalse : token ≠ "false".toList := hword false
    rw [classify, if_neg htrue, if_neg hfalse, hnone]
    rfl

theorem classify_eq_iff : classify token = v ↔ TokenValue token v := by
  refine ⟨?_, classify_of_tokenValue⟩
  rintro rfl
  obtain ⟨v, h⟩ := exists_tokenValue token
  rwa [classify_of_tokenValue h]

theorem classify_eq_boolean_iff {b : Bool} :
    classify token = .boolean b ↔ token = (plain (.boolean b)).toList := by
  rw [classify_eq_iff]
  constructor
  · rintro ⟨h⟩
    exact h
  · exact .word

/-- A plus sign, a sign alone and characters beyond ASCII make no number and no word. -/
theorem tokenValue_of_foreign
    (h : token.head? = some '+' ∨ token = ['-'] ∨ ∃ c ∈ token, 128 ≤ c.toNat) :
    TokenValue token (.text (String.ofList token)) := by
  rcases h with hplus | rfl | ⟨c, hc, hbeyond⟩
  · refine .other ?_ fun i hnumeral => absurd (hnumeral.mem (List.mem_of_head? hplus)) (by decide)
    rintro b rfl
    cases b <;> exact absurd hplus (by decide)
  · refine .other (by decide) fun i hnumeral => ?_
    cases hnumeral with
    | unsigned _ hdigit => exact absurd (hdigit '-' List.mem_cons_self) (by decide)
    | minus hne _ => exact absurd rfl hne
  · have hascii : ∀ b, ∀ d ∈ (plain (.boolean b)).toList, d.toNat < 128 := by
      intro b
      cases b <;> simp [plain]
    refine .other ?_ fun i hnumeral => ?_
    · rintro b rfl
      exact absurd (hascii b c hc) (by omega)
    · rcases hnumeral.mem hc with rfl | hdigit
      · exact absurd hbeyond (by decide)
      · have hvalue := toNat_of_isDigit hdigit
        omega

/-! ### What classification keeps -/

theorem plain_eq_iff (h : TokenValue token v) :
    v.plain = String.ofList token ↔ ¬ ∃ i, Numeral token i ∧ Fits i ∧ Redundant token := by
  cases h with
  | @word b h =>
    subst h
    refine iff_of_true String.ofList_toList.symm ?_
    rintro ⟨i, hnumeral, -⟩
    exact not_numeral_word b i hnumeral
  | @number n h =>
    rw [plain, String.ofList_inj, decimal_eq_iff h, not_iff_not]
    constructor
    · intro hredundant
      exact ⟨_, h, fits_toInt n, hredundant⟩
    · rintro ⟨-, -, -, hredundant⟩
      exact hredundant
  | other _ hnumber =>
    refine iff_of_true rfl ?_
    rintro ⟨i, hnumeral, hfits, -⟩
    exact hnumber i hnumeral hfits

/-- **A token is classified by its value.** It is an integer exactly when it is a decimal number
that 64 bits hold, and the integer is that number; a boolean when it is one of the two words; and
the token itself in every other case, among them numbers that are too large, a plus sign in front, a
minus sign alone and digits beyond ASCII. The decimal text of every integer is classified as it, and
the plain text of a token's value is the token again unless the token is a number that fits and is
written with zeros that it does not need or as zero with a sign. -/
theorem classify_by_value :
    (∀ token : List Char,
      (∀ i : Int, (∃ n : Int64, n.toInt = i ∧ classify token = .integer n) ↔
        Numeral token i ∧ -2 ^ 63 ≤ i ∧ i ≤ 2 ^ 63 - 1) ∧
      (classify token = .boolean true ↔ token = "true".toList) ∧
      (classify token = .boolean false ↔ token = "false".toList) ∧
      (∀ s, classify token = .text s ↔ s = String.ofList token ∧ token ≠ "true".toList ∧
        token ≠ "false".toList ∧ ∀ i, Numeral token i → ¬ (-2 ^ 63 ≤ i ∧ i ≤ 2 ^ 63 - 1)) ∧
      (token.head? = some '+' ∨ token = ['-'] ∨ (∃ c ∈ token, 128 ≤ c.toNat) →
        classify token = .text (String.ofList token))) ∧
    (∀ n : Int64, classify (decimal n.toInt) = .integer n) ∧
    ∀ token : List Char, (classify token).plain = String.ofList token ↔
      ¬ ∃ i, Numeral token i ∧ (-2 ^ 63 ≤ i ∧ i ≤ 2 ^ 63 - 1) ∧ Redundant token := by
  refine ⟨fun token => ⟨fun i => ⟨?_, ?_⟩, ?_, ?_, fun s => ⟨?_, ?_⟩, ?_⟩, classify_decimal,
    fun token => ?_⟩
  · rintro ⟨n, rfl, hclassify⟩
    cases classify_eq_iff.1 hclassify with
    | number h => exact ⟨h, fits_toInt n⟩
  · rintro ⟨h, hfits⟩
    obtain ⟨n, rfl⟩ := exists_toInt hfits
    exact ⟨n, rfl, classify_of_tokenValue (.number h)⟩
  · exact classify_eq_boolean_iff
  · exact classify_eq_boolean_iff
  · intro hclassify
    cases classify_eq_iff.1 hclassify with
    | other hword hnumber => exact ⟨rfl, hword true, hword false, hnumber⟩
  · rintro ⟨rfl, htrue, hfalse, hnumber⟩
    exact classify_of_tokenValue (.other (Bool.forall_bool.2 ⟨hfalse, htrue⟩) hnumber)
  · exact fun h => classify_of_tokenValue (tokenValue_of_foreign h)
  · exact plain_eq_iff (classify_eq_iff.1 rfl)

example : classify "-9223372036854775808".toList = .integer Int64.minValue ∧
    classify "9223372036854775808".toList = .text "9223372036854775808" ∧
    (classify "-007".toList).plain = "-7" ∧ (classify "-0".toList).plain = "0" := by decide

end Scalar
end Companion
