import Mathlib
import Companion.Source.Lexer

/-! Lexing texts part by part. What has been read before a text does not matter to how it is read
(`step_onto`, `run_onto`), so the tokens of a concatenation are those of its parts, as long as each
part ends where no token is left open (`Lexes.append`). -/
namespace Companion.Source

namespace Lexing

/-- The state with further tokens in front of those that it has read. A fault forgets all tokens. -/
def onto (s : Lexing) (base : List Token) : Lexing :=
  match s.mode with
  | .failed => .failed
  | mode => ⟨s.tokens ++ base, mode⟩

@[simp] theorem failed_onto (base : List Token) : Lexing.failed.onto base = .failed := rfl

end Lexing

/-! ### Earlier tokens do not matter -/

variable (tokens base : List Token)

theorem ground_onto (c : Char) : ground (tokens ++ base) c = (ground tokens c).onto base := by
  unfold ground
  repeat' split
  all_goals rfl

theorem afterLiteral_onto (kind : LiteralKind) (chars : List Char) (c : Char) :
    afterLiteral (tokens ++ base) kind chars c = (afterLiteral tokens kind chars c).onto base := by
  unfold afterLiteral
  split
  · rfl
  · exact ground_onto (_ :: tokens) base c

theorem afterNumber_onto (kind : LiteralKind) (chars : List Char) (c : Char) :
    afterNumber (tokens ++ base) kind chars c = (afterNumber tokens kind chars c).onto base := by
  unfold afterNumber
  repeat' split
  · rfl
  · rfl
  · exact ground_onto (_ :: tokens) base c

theorem afterPunct_onto (p c : Char) :
    afterPunct (tokens ++ base) p c = (afterPunct tokens p c).onto base := by
  unfold afterPunct
  split
  · rfl
  · exact ground_onto (_ :: tokens) base c

theorem afterWord_onto (word : List Char) (c : Char) :
    afterWord (tokens ++ base) word c = (afterWord tokens word c).onto base := by
  have hword := ground_onto (.word (textOf word) :: tokens) base c
  unfold afterWord
  repeat' split
  all_goals first | rfl | exact hword

theorem afterHashes_onto (word : List Char) (count : Nat) (c : Char) :
    afterHashes (tokens ++ base) word count c = (afterHashes tokens word count c).onto base := by
  unfold afterHashes
  repeat' split
  all_goals rfl

theorem withRawWord?_onto (word : List Char) :
    withRawWord? (tokens ++ base) word = (withRawWord? tokens word).map (· ++ base) := by
  unfold withRawWord?
  split <;> rfl

theorem plainInString_onto (content : Content) (text value : List Char) (c : Char) :
    plainInString (tokens ++ base) content text value c =
      (plainInString tokens content text value c).onto base := by
  unfold plainInString
  repeat' split
  all_goals rfl

theorem escapedInString_onto (content : Content) (text value : List Char) (decoded : Option Char) :
    escapedInString (tokens ++ base) content text value decoded =
      (escapedInString tokens content text value decoded).onto base := by
  unfold escapedInString
  repeat' split
  all_goals rfl

theorem inString_onto (content : Content) (inside : Inside) (text value : List Char) (c : Char) :
    inString (tokens ++ base) content inside text value c =
      (inString tokens content inside text value c).onto base := by
  unfold inString
  dsimp only
  repeat' split
  all_goals first
    | rfl
    | exact plainInString_onto tokens base content text value c
    | exact escapedInString_onto tokens base content (c :: text) value _

theorem inRawString_onto (content : Content) (count : Nat) (seen : Option Nat) (carriage : Bool)
    (text value : List Char) (c : Char) :
    inRawString (tokens ++ base) content count seen carriage text value c =
      (inRawString tokens content count seen carriage text value c).onto base := by
  unfold inRawString
  dsimp only
  repeat' split
  all_goals rfl

theorem afterQuoteChar_onto (first c : Char) :
    afterQuoteChar (tokens ++ base) first c = (afterQuoteChar tokens first c).onto base := by
  unfold afterQuoteChar
  repeat' split
  all_goals first | rfl | exact ground_onto (_ :: tokens) base c

theorem inEscapedChar_onto (wide coded : Bool) (again : InsideChar → List Char → Mode)
    (hagain : ∀ inside text, again inside text ≠ .failed) (inside : InsideChar) (text : List Char)
    (c : Char) :
    inEscapedChar (tokens ++ base) wide coded again inside text c =
      (inEscapedChar tokens wide coded again inside text c).onto base := by
  unfold inEscapedChar
  repeat' split
  · rfl
  · next inside' _ =>
    have hmode := hagain inside' (c :: text)
    unfold Lexing.onto
    split
    · next hfailed => exact absurd hfailed hmode
    · rfl
  · rfl

theorem afterDigits_onto (chars : List Char) (c : Char) :
    afterDigits (tokens ++ base) chars c = (afterDigits tokens chars c).onto base := by
  unfold afterDigits
  repeat' split
  all_goals first | rfl | exact afterNumber_onto tokens base .integer chars c

theorem afterFraction_onto (chars : List Char) (c : Char) :
    afterFraction (tokens ++ base) chars c = (afterFraction tokens chars c).onto base := by
  unfold afterFraction
  repeat' split
  all_goals first | rfl | exact afterNumber_onto tokens base .float chars c

theorem afterPoint_onto (chars : List Char) (c : Char) :
    afterPoint (tokens ++ base) chars c = (afterPoint tokens chars c).onto base := by
  unfold afterPoint
  split
  · exact afterPunct_onto (_ :: tokens) base '.' c
  · exact afterFraction_onto tokens base ('.' :: chars) c

theorem afterSuffix_onto (kind : LiteralKind) (chars : List Char) (c : Char) :
    afterSuffix (tokens ++ base) kind chars c = (afterSuffix tokens kind chars c).onto base := by
  unfold afterSuffix
  split
  · rfl
  · exact ground_onto (_ :: tokens) base c

theorem inExponent_onto (number : List Char) (fraction : Bool) (letter sign : List Char)
    (c : Char) :
    inExponent (tokens ++ base) number fraction letter sign c =
      (inExponent tokens number fraction letter sign c).onto base := by
  unfold inExponent
  split
  · rfl
  · split
    · split <;> rfl
    · split
      · rfl
      · -- the exponent was none: what stands behind the number depends on the sign
        unfold withoutExponent
        cases sign.reverse with
        | nil => exact afterSuffix_onto tokens base _ _ c
        | cons s word =>
          cases word with
          | nil => exact afterPunct_onto (_ :: tokens) base s c
          | cons d word => exact afterWord_onto (_ :: _ :: tokens) base _ c

theorem afterExponentDigits_onto (chars : List Char) (c : Char) :
    afterExponentDigits (tokens ++ base) chars c = (afterExponentDigits tokens chars c).onto
      base := by
  unfold afterExponentDigits
  split
  · rfl
  · exact afterNumber_onto tokens base .float chars c

theorem inRadix_onto (radix : Nat) (empty : Bool) (chars : List Char) (c : Char) :
    inRadix (tokens ++ base) radix empty chars c = (inRadix tokens radix empty chars c).onto
      base := by
  unfold inRadix
  repeat' split
  all_goals first | rfl | exact afterNumber_onto tokens base .integer chars c

theorem inBlockComment_onto (depth : Nat) (mark : Mark) (c : Char) :
    inBlockComment (tokens ++ base) depth mark c = (inBlockComment tokens depth mark c).onto
      base := by
  unfold inBlockComment
  split <;> rfl

theorem inDocBlock_onto (inner : Bool) (depth : Nat) (mark : Mark) (chars : List Char) (c : Char) :
    inDocBlock (tokens ++ base) inner depth mark chars c =
      (inDocBlock tokens inner depth mark chars c).onto base := by
  unfold inDocBlock
  repeat' split
  all_goals rfl

theorem inDocLine_onto (inner carriage : Bool) (chars : List Char) (c : Char) :
    inDocLine (tokens ++ base) inner carriage chars c =
      (inDocLine tokens inner carriage chars c).onto base := by
  unfold inDocLine
  repeat' split
  all_goals rfl

theorem afterSlash_onto (before : Option Char) (c : Char) :
    afterSlash (tokens ++ base) before c = (afterSlash tokens before c).onto base := by
  unfold afterSlash
  cases before with
  | none =>
    dsimp only
    repeat' split
    all_goals first | rfl | exact afterPunct_onto tokens base '/' c
  | some p =>
    dsimp only
    repeat' split
    all_goals first | rfl | exact afterPunct_onto (_ :: tokens) base '/' c

/-! ### Parts of a text -/

namespace Lexing

theorem step_onto (s : Lexing) (c : Char) : (s.onto base).step c = (s.step c).onto base := by
  obtain ⟨tokens, mode⟩ := s
  cases mode with
  | ground => exact ground_onto tokens base c
  | word chars => exact afterWord_onto tokens base chars c
  | hashes word count => exact afterHashes_onto tokens base word count c
  | rawWord chars =>
    have hraw := withRawWord?_onto tokens base chars
    simp only [step, onto, hraw]
    split
    · rfl
    · cases withRawWord? tokens chars with
      | none => rfl
      | some tokens => exact ground_onto tokens base c
  | string content inside text value => exact inString_onto tokens base content inside text value c
  | rawString content count seen carriage text value =>
    exact inRawString_onto tokens base content count seen carriage text value c
  | quote =>
    simp only [step, onto]
    split <;> rfl
  | quoteChar first => exact afterQuoteChar_onto tokens base first c
  | charEscape inside text =>
    exact inEscapedChar_onto tokens base false true .charEscape (by simp) inside text c
  | byteQuote =>
    simp only [step, onto]
    repeat' split
    all_goals first | rfl | contradiction
  | byteClose text =>
    simp only [step, onto]
    split <;> rfl
  | byteEscape inside text =>
    exact inEscapedChar_onto tokens base true false .byteEscape (by simp) inside text c
  | lifetime chars =>
    simp only [step, onto]
    split
    · rfl
    · split
      · rfl
      · exact ground_onto (.lifetime (textOf chars) :: tokens) base c
  | rawLifetime =>
    simp only [step, onto]
    split <;> rfl
  | rawLifetimeWord chars =>
    simp only [step, onto]
    split
    · rfl
    · split
      · rfl
      · exact ground_onto (.lifetime ("r#" ++ textOf chars) :: tokens) base c
  | digits chars => exact afterDigits_onto tokens base chars c
  | point chars => exact afterPoint_onto tokens base chars c
  | fraction chars => exact afterFraction_onto tokens base chars c
  | exponent number fraction letter sign =>
    exact inExponent_onto tokens base number fraction letter sign c
  | exponentDigits chars => exact afterExponentDigits_onto tokens base chars c
  | radix radix empty chars => exact inRadix_onto tokens base radix empty chars c
  | closed kind chars => exact afterLiteral_onto tokens base kind chars c
  | suffix kind chars => exact afterSuffix_onto tokens base kind chars c
  | punct p => exact afterPunct_onto tokens base p c
  | slash before => exact afterSlash_onto tokens base before c
  | lineOpen =>
    simp only [step, onto]
    repeat' split
    all_goals first | rfl | contradiction
  | lineDoc =>
    simp only [step, onto]
    split
    · rfl
    · exact inDocLine_onto tokens base false false [] c
  | lineComment =>
    simp only [step, onto]
    split <;> rfl
  | docLine inner carriage chars => exact inDocLine_onto tokens base inner carriage chars c
  | blockOpen =>
    simp only [step, onto]
    split
    · rfl
    · split
      · rfl
      · exact inBlockComment_onto tokens base 1 .none c
  | blockDoc =>
    simp only [step, onto]
    split
    · rfl
    · split
      · rfl
      · exact inDocBlock_onto tokens base false 1 .none [] c
  | blockComment depth mark => exact inBlockComment_onto tokens base depth mark c
  | docBlock inner depth mark chars => exact inDocBlock_onto tokens base inner depth mark chars c
  | failed => rfl

theorem run_onto (s : Lexing) (cs : List Char) : (s.onto base).run cs = (s.run cs).onto base := by
  induction cs generalizing s with
  | nil => rfl
  | cons c cs ih =>
    show ((s.onto base).step c).run cs = ((s.step c).run cs).onto base
    rw [step_onto, ih]

/-- A fault stays. -/
theorem run_failed (cs : List Char) : Lexing.failed.run cs = .failed := by
  induction cs with
  | nil => rfl
  | cons c cs ih => exact ih

theorem finish?_onto (s : Lexing) : (s.onto base).finish? = s.finish?.map (· ++ base) := by
  obtain ⟨tokens, mode⟩ := s
  cases mode with
  | rawWord chars => exact withRawWord?_onto tokens base chars
  | exponent number fraction letter sign =>
    simp only [onto, finish?, withoutExponent]
    cases sign.reverse with
    | nil => rfl
    | cons s word => cases word <;> rfl
  | quoteChar first =>
    show (if _ then _ else _) = Option.map _ (if _ then _ else _)
    split <;> rfl
  | rawLifetimeWord chars =>
    show (if _ then _ else _) = Option.map _ (if _ then _ else _)
    split <;> rfl
  | radix _ empty chars =>
    show (if _ then _ else _) = Option.map _ (if _ then _ else _)
    split <;> rfl
  | docLine inner carriage chars =>
    show (if _ then _ else _) = Option.map _ (if _ then _ else _)
    split <;> rfl
  | slash before => cases before <;> rfl
  | _ => rfl

end Lexing

/-! ### Texts and their tokens -/

/-- The text is read as these tokens, and leaves no token open. -/
def Lexes (cs : List Char) (ts : List Token) : Prop :=
  Lexing.run ⟨[], .ground⟩ cs = ⟨ts.reverse, .ground⟩

instance (cs : List Char) (ts : List Token) : Decidable (Lexes cs ts) :=
  inferInstanceAs (Decidable (_ = _))

namespace Lexes

variable {cs ds : List Char} {ts us : List Token}

theorem nil : Lexes [] [] := rfl

theorem run_eq (h : Lexes cs ts) (tokens : List Token) :
    Lexing.run ⟨tokens, .ground⟩ cs = ⟨ts.reverse ++ tokens, .ground⟩ := by
  have honto := Lexing.run_onto tokens ⟨[], .ground⟩ cs
  rw [h] at honto
  exact honto

theorem append (h : Lexes cs ts) (h' : Lexes ds us) : Lexes (cs ++ ds) (ts ++ us) := by
  rw [Lexes, Lexing.run_append, h, h'.run_eq, List.reverse_append]

/-- A token that the next character ends and does not take. -/
theorem of_flush {c : Char} {token : Token} {mode : Mode}
    (hrun : Lexing.run ⟨[], .ground⟩ cs = ⟨[], mode⟩)
    (hflush : Lexing.step ⟨[], mode⟩ c = Lexing.step ⟨[token], .ground⟩ c)
    (h : Lexes (c :: ds) us) :
    Lexes (cs ++ c :: ds) (token :: us) := by
  have hrest : Lexing.run (Lexing.step ⟨[token], .ground⟩ c) ds =
    ⟨us.reverse ++ [token], .ground⟩ :=
    h.run_eq [token]
  rw [Lexes, Lexing.run_append, hrun, List.reverse_cons]
  show Lexing.run (Lexing.step ⟨[], mode⟩ c) ds = _
  rw [hflush, hrest]

theorem lex?_eq (h : Lexes cs ts) (hbalanced : balanced [] ts = true) : lex? cs = some ts := by
  have hfinish : (⟨ts.reverse, .ground⟩ : Lexing).finish? = some ts.reverse := rfl
  rw [lex?, h, hfinish]
  simp [hbalanced]

/-- The tokens of the rest of a text do not depend on the text in front. -/
theorem finish?_append (h : Lexes cs ts) (ds : List Char) :
    (Lexing.run ⟨[], .ground⟩ (cs ++ ds)).finish? =
    (Lexing.run ⟨[], .ground⟩ ds).finish?.map (· ++ ts.reverse) := by
  have honto := Lexing.run_onto ts.reverse ⟨[], .ground⟩ ds
  replace honto : Lexing.run ⟨ts.reverse, .ground⟩ ds = (Lexing.run ⟨[], .ground⟩ ds).onto
    ts.reverse := honto
  rw [Lexing.run_append, h, honto, Lexing.finish?_onto]

theorem exists_of_finish?_append (h : Lexes cs ts)
    (hfinish : (Lexing.run ⟨[], .ground⟩ (cs ++ ds)).finish? = some us) :
    ∃ vs, us.reverse = ts ++ vs ∧ (Lexing.run ⟨[], .ground⟩ ds).finish? = some vs.reverse := by
  rw [h.finish?_append] at hfinish
  obtain ⟨vs, hvs, rfl⟩ := Option.map_eq_some_iff.1 hfinish
  exact ⟨vs.reverse, by simp, by rwa [List.reverse_reverse]⟩

/-- The tokens of a longer text start with those of the text; the others are those of the rest. -/
theorem of_lex?_append (h : Lexes cs ts) (hlex : lex? (cs ++ ds) = some us) :
    ∃ vs, us = ts ++ vs ∧ (Lexing.run ⟨[], .ground⟩ ds).finish? = some vs.reverse := by
  obtain ⟨hlex, -⟩ := Option.filter_eq_some_iff.1 hlex
  obtain ⟨rs, hrs, rfl⟩ := Option.map_eq_some_iff.1 hlex
  exact h.exists_of_finish?_append hrs

end Lexes
end Companion.Source
