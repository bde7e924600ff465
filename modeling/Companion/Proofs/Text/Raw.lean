import Mathlib
import Companion.Text.Raw

/-! Raw text against text. Decoding takes the code of a character off the bytes, or loses up to
three bytes of which none is ASCII (`firstChar_readChar`), and it takes off every code that is there
(`readChar_encode`). So a text is found again in its bytes (`decode_ofString`), and bytes that
decode without a replacement are the text they decode to (`isText_of_not_mem`). Whatever the bytes
are, an ASCII character comes from its own byte (`mem_of_mem_decode`), and what is decoded takes no
fewer bytes (`length_le_decode`). -/
namespace Companion

namespace Text

/-! ### Codes of characters -/

theorem toNat_valid (c : Char) : c.toNat < 0xd800 ∨ 0xdfff < c.toNat ∧ c.toNat < 0x110000 := c.valid

theorem toNat_ofNat_of_valid {n : Nat} (h : n < 0xd800 ∨ 0xdfff < n ∧ n < 0x110000) :
    (Char.ofNat n).toNat = n := by
  rw [Char.toNat_ofNat]
  exact if_pos h

theorem toNat_byte {n : Nat} (h : n < 256) : (UInt8.ofNat n).toNat = n := by
  rw [UInt8.toNat_ofNat']
  exact Nat.mod_eq_of_lt h

theorem length_encode_pos (c : Char) : 0 < (String.utf8EncodeChar c).length := by
  rw [String.length_utf8EncodeChar]
  exact c.utf8Size_pos

/-- The code of an ASCII character is its byte. -/
theorem encode_of_ascii {c : Char} (h : c.toNat ≤ 0x7f) :
    String.utf8EncodeChar c = [UInt8.ofNat c.toNat] :=
  if_pos h

/-- The code of any other character holds no ASCII byte. -/
theorem not_ascii_of_mem_encode {c : Char} (h : ¬c.toNat ≤ 0x7f) {b : UInt8}
    (hb : b ∈ String.utf8EncodeChar c) : 0x80 ≤ b.toNat := by
  have hvalid := toNat_valid c
  simp only [String.utf8EncodeChar, Char.toNat_val] at hb
  rw [if_neg h] at hb
  split_ifs at hb <;> simp only [List.mem_cons, List.not_mem_nil, or_false] at hb
  · rcases hb with rfl | rfl <;> rw [toNat_byte (by omega)] <;> omega
  · rcases hb with rfl | rfl | rfl <;> rw [toNat_byte (by omega)] <;> omega
  · rcases hb with rfl | rfl | rfl | rfl <;> rw [toNat_byte (by omega)] <;> omega

/-- The byte of an ASCII character in the code of a character is that character's. -/
theorem eq_of_mem_encode {c d : Char} (hascii : c.toNat ≤ 0x7f)
    (h : UInt8.ofNat c.toNat ∈ String.utf8EncodeChar d) : c = d := by
  by_cases hd : d.toNat ≤ 0x7f
  · rw [encode_of_ascii hd, List.mem_singleton, ← UInt8.toNat_inj, toNat_byte (by omega),
      toNat_byte (by omega)] at h
    rw [← Char.ofNat_toNat c, h, Char.ofNat_toNat]
  · have hbyte := not_ascii_of_mem_encode hd h
    rw [toNat_byte (by omega)] at hbyte
    omega

/-! ### Sequences

A first byte asks for further bytes, of which the first has bounds of its own. -/

/-- Bytes that continue a character, the first of them between `low` and `high`. -/
def IsSequence (low high : Nat) : List UInt8 → Prop
  | [] => True
  | b :: bytes => (low ≤ b.toNat ∧ b.toNat ≤ high) ∧ IsSequence 0x80 0xbf bytes

/-- The value of a character behind `value`. -/
def valueOf (value : Nat) (bytes : List UInt8) : Nat :=
  bytes.foldl (fun v b => 64 * v + b.toNat % 64) value

theorem readSequence_of_isSequence {low high : Nat} {taken : List UInt8}
    (h : IsSequence low high taken) (value : Nat) (rest : List UInt8) :
    readSequence taken.length value low high (taken ++ rest) =
      (Char.ofNat (valueOf value taken), rest) := by
  induction taken generalizing value low high with
  | nil => rfl
  | cons b taken ih =>
    rw [List.length_cons, List.cons_append, readSequence, if_pos h.1, ih h.2]
    rfl

/-- Reading a sequence takes all bytes that are asked for, or fewer than these. -/
theorem readSequence_cases (count value low high : Nat) (bytes : List UInt8) :
    ∃ taken rest, bytes = taken ++ rest ∧ IsSequence low high taken ∧
      (taken.length = count ∧
        readSequence count value low high bytes = (Char.ofNat (valueOf value taken), rest) ∨
      taken.length < count ∧ readSequence count value low high bytes = (replacement, rest)) := by
  fun_induction readSequence count value low high bytes with
  | case1 value low high bytes => exact ⟨[], bytes, rfl, trivial, Or.inl ⟨rfl, rfl⟩⟩
  | case2 count => exact ⟨[], [], rfl, trivial, Or.inr ⟨Nat.succ_pos count, rfl⟩⟩
  | case3 count value low high b bytes hb ih =>
    obtain ⟨taken, rest, rfl, hseq, hcases⟩ := ih
    refine ⟨b :: taken, rest, rfl, ⟨hb, hseq⟩, ?_⟩
    rcases hcases with ⟨hlength, hread⟩ | ⟨hlength, hread⟩
    · exact Or.inl ⟨congrArg (· + 1) hlength, hread⟩
    · exact Or.inr ⟨Nat.succ_lt_succ hlength, hread⟩
  | case4 count value low high b bytes hb =>
    exact ⟨[], b :: bytes, rfl, trivial, Or.inr ⟨Nat.succ_pos count, rfl⟩⟩

theorem IsSequence.not_ascii {low high : Nat} (hlow : 0x80 ≤ low) {taken : List UInt8}
    (h : IsSequence low high taken) : ∀ b ∈ taken, 0x80 ≤ b.toNat := by
  induction taken generalizing low high with
  | nil => simp
  | cons b taken ih =>
    intro b' hb'
    rcases List.mem_cons.1 hb' with rfl | hb'
    · exact hlow.trans h.1.1
    · exact ih (Nat.le_refl _) h.2 b' hb'

/-- What a first byte asks for: one to three bytes, with bounds that leave out the values of shorter
sequences, of surrogates and of what lies behind the last character. -/
theorem sequenceOf_cases {first count low high : Nat}
    (h : sequenceOf first = some (count, low, high)) :
    0x80 ≤ low ∧ (count = 1 ∧ 0xc2 ≤ first ∧ first ≤ 0xdf ∧ low = 0x80 ∧ high = 0xbf ∨
      count = 2 ∧ 0xe0 ≤ first ∧ first ≤ 0xef ∧ high ≤ 0xbf ∧ (first = 0xe0 → 0xa0 ≤ low) ∧
        (first = 0xed → high ≤ 0x9f) ∨
      count = 3 ∧ 0xf0 ≤ first ∧ first ≤ 0xf4 ∧ high ≤ 0xbf ∧ (first = 0xf0 → 0x90 ≤ low) ∧
        (first = 0xf4 → high ≤ 0x8f)) := by
  unfold sequenceOf at h
  split_ifs at h <;> simp only [Option.some.injEq, Prod.mk.injEq] at h <;> omega

/-- A byte with all bytes that it asks for is the code of the character it starts. -/
theorem encode_sequence {b : UInt8} {count low high : Nat} {taken : List UInt8}
    (h : sequenceOf b.toNat = some (count, low, high)) (hlength : taken.length = count)
    (hseq : IsSequence low high taken) :
    String.utf8EncodeChar (Char.ofNat (valueOf (firstValue count b.toNat) taken)) = b :: taken := by
  obtain ⟨hlow, hcases⟩ := sequenceOf_cases h
  rcases hcases with ⟨rfl, hb⟩ | ⟨rfl, hb⟩ | ⟨rfl, hb⟩
  · obtain ⟨x, rfl⟩ := List.length_eq_one_iff.1 hlength
    have hvalue : valueOf (firstValue 1 b.toNat) [x] = 64 * (b.toNat % 32) + x.toNat % 64 := rfl
    rw [hvalue]
    obtain ⟨hx, -⟩ := hseq
    generalize hn : 64 * (b.toNat % 32) + x.toNat % 64 = n
    have hvalid : (Char.ofNat n).toNat = n := toNat_ofNat_of_valid (by omega)
    simp only [String.utf8EncodeChar, Char.toNat_val, hvalid]
    rw [if_neg (by omega), if_pos (by omega)]
    simp only [List.cons.injEq, ← UInt8.toNat_inj, and_true]
    rw [toNat_byte (by omega), toNat_byte (by omega)]
    omega
  · obtain ⟨x, y, rfl⟩ := List.length_eq_two.1 hlength
    have hvalue : valueOf (firstValue 2 b.toNat) [x, y] =
        64 * (64 * (b.toNat % 16) + x.toNat % 64) + y.toNat % 64 := rfl
    rw [hvalue]
    obtain ⟨hx, hy, -⟩ := hseq
    generalize hn : 64 * (64 * (b.toNat % 16) + x.toNat % 64) + y.toNat % 64 = n
    have hvalid : (Char.ofNat n).toNat = n := toNat_ofNat_of_valid (by omega)
    simp only [String.utf8EncodeChar, Char.toNat_val, hvalid]
    rw [if_neg (by omega), if_neg (by omega), if_pos (by omega)]
    simp only [List.cons.injEq, ← UInt8.toNat_inj, and_true]
    rw [toNat_byte (by omega), toNat_byte (by omega), toNat_byte (by omega)]
    omega
  · obtain ⟨x, y, z, rfl⟩ := List.length_eq_three.1 hlength
    have hvalue : valueOf (firstValue 3 b.toNat) [x, y, z] =
        64 * (64 * (64 * (b.toNat % 8) + x.toNat % 64) + y.toNat % 64) + z.toNat % 64 := rfl
    rw [hvalue]
    obtain ⟨hx, hy, hz, -⟩ := hseq
    generalize hn : 64 * (64 * (64 * (b.toNat % 8) + x.toNat % 64) + y.toNat % 64) + z.toNat % 64 =
      n
    have hvalid : (Char.ofNat n).toNat = n := toNat_ofNat_of_valid (by omega)
    simp only [String.utf8EncodeChar, Char.toNat_val, hvalid]
    rw [if_neg (by omega), if_neg (by omega), if_neg (by omega)]
    simp only [List.cons.injEq, ← UInt8.toNat_inj, and_true]
    rw [toNat_byte (by omega), toNat_byte (by omega), toNat_byte (by omega), toNat_byte (by omega)]
    omega

/-- A first byte is followed by what it asks for in the code of every character that is not
ASCII. -/
theorem exists_sequence {c : Char} (h : ¬c.toNat ≤ 0x7f) : ∃ b taken low high,
    String.utf8EncodeChar c = b :: taken ∧ ¬b.toNat < 0x80 ∧
      sequenceOf b.toNat = some (taken.length, low, high) ∧ IsSequence low high taken ∧
      Char.ofNat (valueOf (firstValue taken.length b.toNat) taken) = c := by
  have hvalid := toNat_valid c
  have hc := Char.ofNat_toNat c
  simp only [String.utf8EncodeChar, Char.toNat_val]
  rw [if_neg h]
  generalize c.toNat = v at h hvalid hc
  subst hc
  have hlast : (UInt8.ofNat (v % 64 + 128)).toNat = v % 64 + 128 := toNat_byte (by omega)
  have hmiddle : (UInt8.ofNat (v / 64 % 64 + 128)).toNat = v / 64 % 64 + 128 :=
    toNat_byte (by omega)
  split_ifs with h₁ h₂
  · have hb : (UInt8.ofNat (v / 64 % 32 + 192)).toNat = v / 64 + 192 := by
      rw [toNat_byte (by omega)]
      omega
    refine ⟨_, _, 0x80, 0xbf, rfl, by omega, ?_, ?_, ?_⟩
    · rw [hb, sequenceOf, if_pos (by omega)]
      rfl
    · simp only [IsSequence, hlast, and_true]
      omega
    · have hvalue : valueOf (firstValue 1 (v / 64 + 192)) [UInt8.ofNat (v % 64 + 128)] =
          64 * ((v / 64 + 192) % 32) + (UInt8.ofNat (v % 64 + 128)).toNat % 64 := rfl
      rw [hb, List.length_singleton, hvalue, hlast]
      exact congrArg Char.ofNat (by omega)
  · have hb : (UInt8.ofNat (v / 4096 % 16 + 224)).toNat = v / 4096 + 224 := by
      rw [toNat_byte (by omega)]
      omega
    refine ⟨_, _, if v / 4096 = 0 then 0xa0 else 0x80, if v / 4096 = 13 then 0x9f else 0xbf, rfl,
      by omega, ?_, ?_, ?_⟩
    · simp only [hb, sequenceOf, List.length_cons, List.length_nil]
      split_ifs <;> first | rfl | omega
    · simp only [IsSequence, hmiddle, hlast, and_true]
      split_ifs <;> omega
    · have hvalue : valueOf (firstValue 2 (v / 4096 + 224))
          [UInt8.ofNat (v / 64 % 64 + 128), UInt8.ofNat (v % 64 + 128)] =
          64 * (64 * ((v / 4096 + 224) % 16) + (UInt8.ofNat (v / 64 % 64 + 128)).toNat % 64) +
            (UInt8.ofNat (v % 64 + 128)).toNat % 64 := rfl
      rw [hb, List.length_cons, List.length_singleton, hvalue, hmiddle, hlast]
      exact congrArg Char.ofNat (by omega)
  · have hb : (UInt8.ofNat (v / 262144 % 8 + 240)).toNat = v / 262144 + 240 := by
      rw [toNat_byte (by omega)]
      omega
    have hsecond : (UInt8.ofNat (v / 4096 % 64 + 128)).toNat = v / 4096 % 64 + 128 :=
      toNat_byte (by omega)
    refine ⟨_, _, if v / 262144 = 0 then 0x90 else 0x80, if v / 262144 = 4 then 0x8f else 0xbf, rfl,
      by omega, ?_, ?_, ?_⟩
    · simp only [hb, sequenceOf, List.length_cons, List.length_nil]
      split_ifs <;> first | rfl | omega
    · simp only [IsSequence, hsecond, hmiddle, hlast, and_true]
      split_ifs <;> omega
    · have hvalue : valueOf (firstValue 3 (v / 262144 + 240)) [UInt8.ofNat (v / 4096 % 64 + 128),
          UInt8.ofNat (v / 64 % 64 + 128), UInt8.ofNat (v % 64 + 128)] =
          64 *
            (64 * (64 * ((v / 262144 + 240) % 8) + (UInt8.ofNat (v / 4096 % 64 + 128)).toNat % 64) +
            (UInt8.ofNat (v / 64 % 64 + 128)).toNat % 64) +
            (UInt8.ofNat (v % 64 + 128)).toNat % 64 := rfl
      rw [hb, List.length_cons, List.length_cons, List.length_singleton, hvalue, hsecond,
        hmiddle, hlast]
      exact congrArg Char.ofNat (by omega)

/-! ### Characters -/

/-- The code of a character is read as that character. -/
theorem readChar_encode (c : Char) : ∃ b bytes, String.utf8EncodeChar c = b :: bytes ∧
    ∀ rest, readChar b (bytes ++ rest) = (c, rest) := by
  by_cases hascii : c.toNat ≤ 0x7f
  · refine ⟨_, _, encode_of_ascii hascii, fun rest => ?_⟩
    rw [readChar, toNat_byte (by omega), if_pos (by omega), Char.ofNat_toNat]
    rfl
  · obtain ⟨b, taken, low, high, hcode, hb, hsequence, hseq, hvalue⟩ := exists_sequence hascii
    refine ⟨b, taken, hcode, fun rest => ?_⟩
    rw [readChar, if_neg hb, hsequence]
    show readSequence taken.length (firstValue taken.length b.toNat) low high (taken ++ rest) = _
    rw [readSequence_of_isSequence hseq, hvalue]

/-- What a first character is made of: its code, or up to three bytes that are lost. -/
inductive FirstChar : List UInt8 → Char → List UInt8 → Prop where
  | code (c : Char) (rest : List UInt8) : FirstChar (String.utf8EncodeChar c ++ rest) c rest
  | lost {bytes : List UInt8} (rest : List UInt8) (hne : bytes ≠ []) (hlength : bytes.length ≤ 3)
      (hascii : ∀ b ∈ bytes, 0x80 ≤ b.toNat) : FirstChar (bytes ++ rest) replacement rest

theorem firstChar_readChar (b : UInt8) (bytes : List UInt8) :
    FirstChar (b :: bytes) (readChar b bytes).1 (readChar b bytes).2 := by
  unfold readChar
  split
  · next hb =>
    have hn : (Char.ofNat b.toNat).toNat = b.toNat := toNat_ofNat_of_valid (by omega)
    have hcode : String.utf8EncodeChar (Char.ofNat b.toNat) = [b] := by
      rw [encode_of_ascii (by omega), hn, UInt8.ofNat_toNat]
    have hfirst := FirstChar.code (Char.ofNat b.toNat) bytes
    rwa [hcode] at hfirst
  · next hb =>
    split
    · next count low high hsequence =>
      obtain ⟨hlow, hcount⟩ := sequenceOf_cases hsequence
      obtain ⟨taken, rest, rfl, hseq, hcases⟩ :=
        readSequence_cases count (firstValue count b.toNat) low high bytes
      rcases hcases with ⟨hlength, hread⟩ | ⟨hlength, hread⟩
      · rw [hread, ← List.cons_append, ← encode_sequence hsequence hlength hseq]
        exact FirstChar.code _ rest
      · rw [hread, ← List.cons_append]
        refine FirstChar.lost rest (by simp) ?_ ?_
        · rw [List.length_cons]
          omega
        · exact List.forall_mem_cons.2 ⟨by omega, hseq.not_ascii hlow⟩
    · have hlost : ∀ b' ∈ [b], 0x80 ≤ b'.toNat := by simpa using hb
      exact FirstChar.lost bytes (by simp) (by simp) hlost

/-! ### Texts -/

/-- The bytes make the characters, one after the other. -/
inductive Decodes : List UInt8 → List Char → Prop where
  | nil : Decodes [] []
  | cons {bytes rest : List UInt8} {c : Char} {cs : List Char} (first : FirstChar bytes c rest)
      (others : Decodes rest cs) : Decodes bytes (c :: cs)

theorem decodes_decodeLossy (bytes : List UInt8) : Decodes bytes (decodeLossy bytes) := by
  fun_induction decodeLossy bytes with
  | case1 => exact Decodes.nil
  | case2 b bytes _ ih => exact Decodes.cons (firstChar_readChar b bytes) ih

theorem decodeLossy_encode (cs : List Char) :
    decodeLossy (cs.flatMap String.utf8EncodeChar) = cs := by
  induction cs with
  | nil => rw [List.flatMap_nil, decodeLossy]
  | cons c cs ih =>
    obtain ⟨b, bytes, hcode, hread⟩ := readChar_encode c
    rw [List.flatMap_cons, hcode, List.cons_append, decodeLossy, hread, ih]

variable {bytes : List UInt8} {cs : List Char}

/-- Bytes of which none is lost are the codes of the characters. -/
theorem Decodes.eq_encode (h : Decodes bytes cs) (hkept : replacement ∉ cs) :
    bytes = cs.flatMap String.utf8EncodeChar := by
  induction h with
  | nil => rfl
  | cons first others ih =>
    obtain ⟨hc, hkept⟩ := not_or.1 (mt List.mem_cons.2 hkept)
    cases first with
    | code c rest => rw [List.flatMap_cons, ← ih hkept]
    | lost => exact absurd rfl hc

/-- An ASCII character comes from its own byte. -/
theorem Decodes.mem_of_ascii (h : Decodes bytes cs) {c : Char} (hc : c ∈ cs)
    (hascii : c.toNat ≤ 0x7f) :
    UInt8.ofNat c.toNat ∈ bytes := by
  induction h with
  | nil => cases hc
  | @cons bytes rest c' cs first others ih =>
    have hrest : ∀ front, c ∈ cs → UInt8.ofNat c.toNat ∈ front ++ rest := fun front hc =>
      List.mem_append_right front (ih hc)
    cases first with
    | code _ _ =>
      rcases List.mem_cons.1 hc with rfl | hc
      · rw [encode_of_ascii hascii]
        exact List.mem_append_left rest List.mem_cons_self
      · exact hrest _ hc
    | lost =>
      rcases List.mem_cons.1 hc with rfl | hc
      · exact absurd hascii (by decide)
      · exact hrest _ hc

/-- A text starts with an ASCII character when the bytes start with its byte. -/
theorem Decodes.head?_eq_iff (h : Decodes bytes cs) {c : Char} (hascii : c.toNat ≤ 0x7f) :
    cs.head? = some c ↔ bytes.head? = some (UInt8.ofNat c.toNat) := by
  cases h with
  | nil => simp
  | @cons _ rest c' cs first others =>
    rw [List.head?_cons, Option.some_inj]
    cases first with
    | code =>
      constructor
      · rintro rfl
        rw [encode_of_ascii hascii]
        rfl
      · intro hhead
        obtain ⟨b, code, hcode⟩ :=
          List.exists_cons_of_ne_nil (List.length_pos_iff.1 (length_encode_pos c'))
        rw [hcode, List.cons_append, List.head?_cons, Option.some_inj] at hhead
        refine (eq_of_mem_encode hascii ?_).symm
        rw [hcode, hhead]
        exact List.mem_cons_self
    | @lost lost _ hne _ hlost =>
      obtain ⟨b, bytes, rfl⟩ := List.exists_cons_of_ne_nil hne
      constructor
      · rintro rfl
        exact absurd hascii (by decide)
      · intro hhead
        have hb := hlost b List.mem_cons_self
        rw [List.cons_append, List.head?_cons, Option.some_inj] at hhead
        rw [hhead, toNat_byte (by omega)] at hb
        omega

/-- The codes of the characters are no fewer bytes. -/
theorem Decodes.length_le (h : Decodes bytes cs) :
    bytes.length ≤ (cs.flatMap String.utf8EncodeChar).length := by
  induction h with
  | nil => exact Nat.le_refl _
  | cons first others ih =>
    rw [List.flatMap_cons, List.length_append]
    cases first with
    | code c rest =>
      rw [List.length_append]
      omega
    | lost rest hne hlength =>
      have hcode : (String.utf8EncodeChar replacement).length = 3 := by decide
      rw [List.length_append]
      omega

/-- The bytes in front of an ASCII byte of a text, and those behind it, are texts. -/
theorem exists_of_encode_eq {a b : List UInt8} {x : UInt8} (hx : x.toNat ≤ 0x7f)
    (h : cs.flatMap String.utf8EncodeChar = a ++ x :: b) :
    ∃ as bs : List Char, a = as.flatMap String.utf8EncodeChar ∧
      b = bs.flatMap String.utf8EncodeChar := by
  induction cs generalizing a with
  | nil => simp at h
  | cons c cs ih =>
    rw [List.flatMap_cons] at h
    rcases List.append_eq_append_iff.1 h with ⟨a', rfl, hrest⟩ | ⟨front, hcode, hrest⟩
    · obtain ⟨as, bs, rfl, hb⟩ := ih hrest
      exact ⟨c :: as, bs, rfl, hb⟩
    · cases front with
      | nil =>
        obtain ⟨as, bs, hnone, hb⟩ := ih (a := []) hrest.symm
        refine ⟨[c], bs, ?_, hb⟩
        rw [List.flatMap_singleton, hcode, List.append_nil]
      | cons y front =>
        -- the code of the character holds an ASCII byte, so it is that byte
        obtain ⟨rfl, rfl⟩ := List.cons.inj hrest
        have hascii : c.toNat ≤ 0x7f := by
          by_contra hother
          have := not_ascii_of_mem_encode hother (b := x) (by simp [hcode])
          omega
        rw [encode_of_ascii hascii] at hcode
        have hlength := congrArg List.length hcode
        simp only [List.length_append, List.length_cons, List.length_nil] at hlength
        obtain rfl : a = [] := List.length_eq_zero_iff.1 (by omega)
        obtain rfl : front = [] := List.length_eq_zero_iff.1 (by omega)
        exact ⟨[], cs, rfl, rfl⟩

end Text

namespace RawText

variable {t : RawText} {s : String}

/-! ### Texts as raw texts -/

/-- **A text is found again in its bytes.** -/
@[simp] theorem decode_ofString (s : String) : (ofString s).decode = s := by
  rw [decode, ofString, Text.decodeLossy_encode, String.ofList_toList]

@[simp] theorem ofString_inj {s s' : String} : ofString s = ofString s' ↔ s = s' := by
  refine ⟨fun h => ?_, congrArg ofString⟩
  rw [← decode_ofString s, h, decode_ofString]

theorem isText_iff : t.IsText ↔ ∃ s, t = ofString s := by
  constructor
  · exact fun h => ⟨_, h.symm⟩
  · rintro ⟨s, rfl⟩
    rw [IsText, decode_ofString]

/-- Texts are told apart when they are decoded. -/
theorem IsText.eq_of_decode_eq {t' : RawText} (h : t.IsText) (h' : t'.IsText)
    (heq : t.decode = t'.decode) : t = t' := by
  rw [← h, ← h', heq]

@[simp] theorem ofString_append (s s' : String) :
    ofString (s ++ s') = ofString s ++ ofString s' := by
  rw [ofString, String.toList_append, List.flatMap_append]
  rfl

/-- **Bytes that decode without a replacement are those of a text.** -/
theorem isText_of_not_mem (h : Text.replacement ∉ t.decode.toList) : t.IsText := by
  rw [decode, String.toList_ofList] at h
  have hbytes := (Text.decodes_decodeLossy t.toList).eq_encode h
  rw [IsText, ofString, decode, String.toList_ofList, ← hbytes]

/-! ### ASCII characters -/

/-- **An ASCII character in the text of some bytes is one of the bytes.** -/
theorem mem_of_mem_decode {c : Char} (hascii : c.toNat ≤ 0x7f) (h : c ∈ t.decode.toList) :
    UInt8.ofNat c.toNat ∈ t.toList := by
  rw [decode, String.toList_ofList] at h
  exact (Text.decodes_decodeLossy t.toList).mem_of_ascii h hascii

/-- The byte of an ASCII character in the bytes of a text is that character. -/
theorem mem_ofString_iff {c : Char} (hascii : c.toNat ≤ 0x7f) :
    UInt8.ofNat c.toNat ∈ (ofString s).toList ↔ c ∈ s.toList := by
  constructor
  · intro h
    obtain ⟨c', hc', hmem⟩ := List.mem_flatMap.1 h
    rwa [Text.eq_of_mem_encode hascii hmem]
  · intro h
    refine List.mem_flatMap.2 ⟨c, h, ?_⟩
    rw [Text.encode_of_ascii hascii]
    exact List.mem_cons_self

/-- **Decoding loses no length**: the text of some bytes has at least as many bytes. -/
theorem length_le_decode (t : RawText) : t.toList.length ≤ (ofString t.decode).toList.length := by
  rw [ofString, decode, String.toList_ofList]
  exact (Text.decodes_decodeLossy t.toList).length_le

end RawText
end Companion
