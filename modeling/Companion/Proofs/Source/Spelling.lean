import Mathlib
import Companion.Proofs.Source.Lexing
import Companion.Proofs.Text.Classes
import Companion.Source.Grammar.Basic

/-! How tokens are spelled. An identifier, a number, a line of documentation and the literal of any
text are each read as the one token they spell, given what stands behind them. A literal is read
back to its text whatever the text is: no character ends it early (`run_literal`). -/
namespace Companion.Source
open Companion.Text

/-! ### Gaps -/

theorem lexes_gaps {cs : List Char} (h : ∀ c ∈ cs, isGap c = true) : Lexes cs [] := by
  induction cs with
  | nil => exact Lexes.nil
  | cons c cs ih =>
    have hc : Lexes [c] [] := by
      simp [Lexes, Lexing.run, Lexing.step, ground, h c List.mem_cons_self]
    exact hc.append (ih fun d hd => h d (List.mem_cons_of_mem c hd))

/-! ### Modes that collect characters -/

/-- A mode that keeps each of the characters holds all of them behind the text, the last in
front. -/
theorem run_collecting (mode : List Char → Mode) (tokens : List Token) {cs : List Char}
    (hstep : ∀ c ∈ cs, ∀ chars, Lexing.step ⟨tokens, mode chars⟩ c = ⟨tokens, mode (c :: chars)⟩)
    (chars : List Char) :
    Lexing.run ⟨tokens, mode chars⟩ cs = ⟨tokens, mode (cs.reverse ++ chars)⟩ := by
  induction cs generalizing chars with
  | nil => rfl
  | cons c cs ih =>
    show Lexing.run (Lexing.step _ c) cs = _
    rw [hstep c List.mem_cons_self, ih fun d hd => hstep d (List.mem_cons_of_mem c hd)]
    simp

/-! ### Words -/

/-- Gaps take no part in words. -/
theorem gap_codes_apart :
    (whiteSpace.codes ++ [0x200e, 0x200f]).all
      (fun n => !xidStart.has n && !xidContinue.has n && n != 0x5f) = true := by
  decide +kernel

theorem apart_of_isGap {c : Char} (h : isGap c = true) :
    isXidStart c = false ∧ isXidContinue c = false ∧ c ≠ '_' := by
  have hmem : c.toNat ∈ whiteSpace.codes ++ [0x200e, 0x200f] := by
    simp only [isGap, Bool.or_eq_true, decide_eq_true_eq] at h
    rcases h with (hblank | hleft) | hright
    · exact List.mem_append_left _ (Ranges.mem_codes_of_has hblank)
    · simp [hleft]
    · simp [hright]
  have hapart := List.all_eq_true.1 gap_codes_apart c.toNat hmem
  simp only [Bool.and_eq_true, Bool.not_eq_true', bne_iff_ne, ne_eq] at hapart
  obtain ⟨⟨hstart, hcontinue⟩, hlow⟩ := hapart
  refine ⟨hstart, hcontinue, ?_⟩
  rintro rfl
  exact hlow rfl

theorem not_gap_of_isWordStart {c : Char} (h : isWordStart c = true) : isGap c = false := by
  by_contra hgap
  obtain ⟨hstart, -, hunder⟩ := apart_of_isGap (by simpa using hgap)
  simp [isWordStart, hstart, hunder] at h

theorem not_gap_of_isWordContinue {c : Char} (h : isWordContinue c = true) : isGap c = false := by
  by_contra hgap
  obtain ⟨-, hcontinue, -⟩ := apart_of_isGap (by simpa using hgap)
  simp [isWordContinue, hcontinue] at h

/-- A text of the form of a word. -/
def isWordText : List Char → Bool
  | [] => false
  | c :: cs => isWordStart c && cs.all isWordContinue

/-- A character that ends a word and does not turn it into the start of a literal. -/
def EndsWord (c : Char) : Prop := isWordContinue c = false ∧ c ≠ '"' ∧ c ≠ '#' ∧ c ≠ '\''

instance (c : Char) : Decidable (EndsWord c) := inferInstanceAs (Decidable (_ ∧ _))

theorem textOf_reverse (cs : List Char) : textOf cs.reverse = String.ofList cs := by
  simp [textOf]

theorem run_word (tokens : List Token) (chars : List Char) {cs : List Char}
    (h : cs.all isWordContinue = true) :
    Lexing.run ⟨tokens, .word chars⟩ cs = ⟨tokens, .word (cs.reverse ++ chars)⟩ := by
  refine run_collecting .word tokens (fun c hc chars => ?_) chars
  have hcontinue := List.all_eq_true.1 h c hc
  simp [Lexing.step, afterWord, hcontinue]

theorem step_word {c : Char} (h : EndsWord c) (word : List Char) :
    Lexing.step ⟨[], .word word⟩ c = Lexing.step ⟨[.word (textOf word)], .ground⟩ c := by
  obtain ⟨hcontinue, hquote, hhash, hsingle⟩ := h
  show afterWord [] word c = ground [.word (textOf word)] c
  unfold afterWord
  rw [hcontinue]
  simp only [hquote, hhash, hsingle]
  cases stringPrefix? word <;> simp

/-- A text of the form of a word is taken whole. -/
theorem run_wordText {cs : List Char} (h : isWordText cs = true) :
    Lexing.run ⟨[], .ground⟩ cs = ⟨[], .word cs.reverse⟩ := by
  cases cs with
  | nil => cases h
  | cons d ds =>
    obtain ⟨hstart, hcontinue⟩ := Bool.and_eq_true_iff.1 h
    have hfirst : Lexing.step ⟨[], .ground⟩ d = ⟨[], .word [d]⟩ := by
      simp [Lexing.step, ground, not_gap_of_isWordStart hstart, hstart]
    show Lexing.run (Lexing.step _ d) ds = _
    rw [hfirst, run_word [] [d] hcontinue, List.reverse_cons]

theorem lexes_word {word : String} (hword : isWordText word.toList = true) {c : Char}
    {cs : List Char} {ts : List Token} (hc : EndsWord c) (h : Lexes (c :: cs) ts) :
    Lexes (word.toList ++ c :: cs) (.word word :: ts) := by
  have hflush := step_word hc word.toList.reverse
  rw [textOf_reverse, String.ofList_toList] at hflush
  exact Lexes.of_flush (run_wordText hword) hflush h

/-! ### Raw words -/

theorem run_rawWord (tokens : List Token) (chars : List Char) {cs : List Char}
    (h : cs.all isWordContinue = true) :
    Lexing.run ⟨tokens, .rawWord chars⟩ cs = ⟨tokens, .rawWord (cs.reverse ++ chars)⟩ := by
  refine run_collecting .rawWord tokens (fun c hc chars => ?_) chars
  have hcontinue := List.all_eq_true.1 h c hc
  simp [Lexing.step, hcontinue]

theorem lexes_rawWord {word : String} (hword : isWordText word.toList = true)
    (hraw : neverRaw.contains word = false) {c : Char} {cs : List Char} {ts : List Token}
    (hc : EndsWord c) (h : Lexes (c :: cs) ts) :
    Lexes (("r#" ++ word).toList ++ c :: cs) (.word ("r#" ++ word) :: ts) := by
  cases hchars : word.toList with
  | nil => rw [hchars] at hword; cases hword
  | cons d ds =>
    rw [hchars] at hword
    obtain ⟨hstart, hcontinue⟩ := Bool.and_eq_true_iff.1 hword
    have hmark : d ≠ '#' ∧ d ≠ '"' := by
      constructor
      · rintro rfl
        exact absurd hstart (by decide)
      · rintro rfl
        exact absurd hstart (by decide)
    have hrun : Lexing.run ⟨[], .ground⟩ ('r' :: '#' :: d :: ds) =
      ⟨[], .rawWord (d :: ds).reverse⟩ := by
      have hprefix : Lexing.run ⟨[], .ground⟩ ['r', '#'] = ⟨[], .hashes ['r'] 1⟩ := by decide
      have hfirst : Lexing.step ⟨[], .hashes ['r'] 1⟩ d = ⟨[], .rawWord [d]⟩ := by
        simp [Lexing.step, afterHashes, hmark, hstart]
      have hcut : 'r' :: '#' :: d :: ds = ['r', '#'] ++ d :: ds := rfl
      rw [hcut, Lexing.run_append, hprefix]
      show Lexing.run (Lexing.step _ d) ds = _
      rw [hfirst, run_rawWord [] [d] hcontinue, List.reverse_cons]
    have hflush : Lexing.step ⟨[], .rawWord (d :: ds).reverse⟩ c =
        Lexing.step ⟨[.word ("r#" ++ word)], .ground⟩ c := by
      have htext : textOf (d :: ds).reverse = word := by
        rw [textOf_reverse, ← hchars, String.ofList_toList]
      simp only [Lexing.step, hc.1, withRawWord?, htext, hraw]
      rfl
    have htoList : ("r#" ++ word).toList = 'r' :: '#' :: d :: ds := by simp [hchars]
    rw [htoList]
    exact Lexes.of_flush hrun hflush h

/-- An identifier: a word that is no keyword, or any word that may be raw, with the mark of one. -/
def IsIdentifier (name : String) : Prop :=
  isIdentifier name = true ∧ (isWordText name.toList = true ∨
    ∃ word : String, name = "r#" ++ word ∧ isWordText word.toList = true ∧
      neverRaw.contains word = false)

theorem isIdentifier_of_word {name : String} (h : isIdentifier name = true)
    (hword : isWordText name.toList = true) : IsIdentifier name := ⟨h, Or.inl hword⟩

theorem lexes_identifier {name : String} (hname : IsIdentifier name) {c : Char} {cs : List Char}
    {ts : List Token} (hc : EndsWord c) (h : Lexes (c :: cs) ts) :
    Lexes (name.toList ++ c :: cs) (.word name :: ts) := by
  rcases hname.2 with hword | ⟨word, rfl, hword, hraw⟩
  · exact lexes_word hword hc h
  · exact lexes_rawWord hword hraw hc h

/-! ### Literals of texts -/

theorem hexValue?_digitChar : ∀ d < 16, hexValue? (Nat.digitChar d) = some d := by
  decide

/-- The digits of a code are read to the code. -/
theorem run_code (tokens : List Token) (text value : List Char) {n : Nat}
    (h : (Nat.toDigits 16 n).length ≤ maxCodeDigits) :
    Lexing.run ⟨tokens, .string .text (.code 0 0) text value⟩ (Nat.toDigits 16 n) =
      ⟨tokens, .string .text (.code n (Nat.toDigits 16 n).length)
        ((Nat.toDigits 16 n).reverse ++ text) value⟩ := by
  induction n using Nat.strongRecOn with
  | ind n ih =>
    by_cases hn : n < 16
    · have hdigit := hexValue?_digitChar n hn
      rw [Nat.toDigits_of_lt_base hn]
      show inString tokens .text (.code 0 0) text value n.digitChar = _
      simp [inString, hdigit, maxCodeDigits]
    · have hcut := Nat.toDigits_of_base_le (b := 16) (by omega) (Nat.le_of_not_lt hn)
      have hdigit := hexValue?_digitChar (n % 16) (Nat.mod_lt n (by omega))
      have hlength : (Nat.toDigits 16 (n / 16)).length < maxCodeDigits := by
        rw [hcut, List.length_append, List.length_singleton] at h
        omega
      have hfront := ih (n / 16) (by omega) (Nat.le_of_lt hlength)
      have hvalue : 16 * (n / 16) + n % 16 = n := Nat.div_add_mod n 16
      rw [hcut, Lexing.run_append, hfront]
      show inString tokens .text (.code _ _) _ value (n % 16).digitChar = _
      simp [inString, hdigit, Nat.ne_of_lt hlength, hvalue]

theorem run_escapeCode (tokens : List Token) (text value : List Char) (c : Char) :
    Lexing.run ⟨tokens, .string .text .plain text value⟩ (escapeCode c.toNat) =
      ⟨tokens, .string .text .plain ((escapeCode c.toNat).reverse ++ text) (c :: value)⟩ := by
  have hvalid : c.toNat.isValidChar := c.valid
  have hlength : (Nat.toDigits 16 c.toNat).length ≤ maxCodeDigits := by
    rw [maxCodeDigits, Nat.length_toDigits_le_iff (by omega) (by omega)]
    rcases hvalid with h | h <;> omega
  have hopen : Lexing.run ⟨tokens, .string .text .plain text value⟩ ['\\', 'u', '{'] =
      ⟨tokens, .string .text (.code 0 0) ('{' :: 'u' :: '\\' :: text) value⟩ := rfl
  have hcut : escapeCode c.toNat = ['\\', 'u', '{'] ++ (Nat.toDigits 16 c.toNat ++ ['}']) := rfl
  have hsome : (Nat.toDigits 16 c.toNat).length ≠ 0 := by
    simp
  have hcode : charOfCode? c.toNat = some c := by
    rw [charOfCode?, if_pos hvalid, Char.ofNat_toNat]
  rw [hcut, Lexing.run_append, hopen, Lexing.run_append, run_code tokens _ value hlength]
  show inString tokens .text (.code _ _) _ value '}' = _
  simp [inString, hexValue?, hsome, escapedInString, hcode]

/-- The letters of the escapes in literals. -/
def escapeLetters : List Char := ['"', '\\', 'n', 'r', 't', '0']

/-- A character of a literal stands for itself, or is written by a letter or by its code. -/
theorem escapeLiteral_cases (c : Char) :
    (escapeLiteral c = [c] ∧ c ≠ '"' ∧ c ≠ '\\' ∧ c ≠ '\r' ∧ isPrintable c = true) ∨
    (∃ x ∈ escapeLetters, escapeLiteral c = ['\\', x] ∧ simpleEscape? x = some c) ∨
    escapeLiteral c = escapeCode c.toNat := by
  unfold escapeLiteral
  split
  · next h => exact Or.inr (Or.inl ⟨'"', by decide, rfl, by rw [h]; rfl⟩)
  next hquote =>
  split
  · next h => exact Or.inr (Or.inl ⟨'\\', by decide, rfl, by rw [h]; rfl⟩)
  next hslash =>
  split
  · next h => exact Or.inr (Or.inl ⟨'n', by decide, rfl, by rw [h]; rfl⟩)
  split
  · next h => exact Or.inr (Or.inl ⟨'r', by decide, rfl, by rw [h]; rfl⟩)
  next hreturn =>
  split
  · next h => exact Or.inr (Or.inl ⟨'t', by decide, rfl, by rw [h]; rfl⟩)
  split
  · next h =>
    have hnull : Char.ofNat 0 = c := by rw [← h, Char.ofNat_toNat]
    exact Or.inr (Or.inl ⟨'0', by decide, rfl, congrArg some hnull⟩)
  split
  · exact Or.inr (Or.inr rfl)
  · next hprinted =>
    rw [Bool.or_eq_true, not_or, Bool.not_eq_true, Bool.not_eq_true, Bool.not_eq_false'] at hprinted
    exact Or.inl ⟨rfl, hquote, hslash, hreturn, hprinted.2⟩

/-- A character of a literal is read back, however it is written. -/
theorem run_escapeLiteral (tokens : List Token) (text value : List Char) (c : Char) :
    Lexing.run ⟨tokens, .string .text .plain text value⟩ (escapeLiteral c) =
      ⟨tokens, .string .text .plain ((escapeLiteral c).reverse ++ text) (c :: value)⟩ := by
  rcases escapeLiteral_cases c with ⟨h, hquote, hslash, hreturn, -⟩ | ⟨x, hx, h, hmeans⟩ | h
  · rw [h]
    show plainInString tokens .text text value c = _
    simp [plainInString, hquote, hslash, hreturn, Content.admits]
  · rw [h]
    simp only [escapeLetters, List.mem_cons, List.not_mem_nil, or_false] at hx
    rcases hx with rfl | rfl | rfl | rfl | rfl | rfl <;> (obtain rfl := Option.some.inj hmeans; rfl)
  · rw [h]
    exact run_escapeCode tokens text value c

theorem run_escaped (tokens : List Token) (text value cs : List Char) :
    Lexing.run ⟨tokens, .string .text .plain text value⟩ (cs.flatMap escapeLiteral) =
      ⟨tokens, .string .text .plain ((cs.flatMap escapeLiteral).reverse ++ text)
        (cs.reverse ++ value)⟩ := by
  induction cs generalizing text value with
  | nil => rfl
  | cons c cs ih =>
    rw [List.flatMap_cons, Lexing.run_append, run_escapeLiteral, ih]
    simp

/-- **The literal of a text is read back to the text.** -/
theorem run_literal (s : String) : Lexing.run ⟨[], .ground⟩ (literalChars s) =
    ⟨[], .closed (.string s) (literalChars s).reverse⟩ := by
  have hopen : Lexing.run ⟨[], .ground⟩ ['"'] = ⟨[], .string .text .plain ['"'] []⟩ := by decide
  have hcut : literalChars s = ['"'] ++ (s.toList.flatMap escapeLiteral ++ ['"']) := rfl
  have htext : textOf (s.toList.reverse ++ []) = s := by
    rw [List.append_nil, textOf_reverse, String.ofList_toList]
  rw [hcut, Lexing.run_append, hopen, Lexing.run_append, run_escaped]
  show plainInString [] .text _ _ '"' = _
  simp only [plainInString, if_true, Content.kind, htext]
  simp

/-- The token of a text. -/
def textToken (s : String) : Token := .literal (.string s) (quoteLiteral s)

theorem lexes_literal (s : String) {c : Char} {cs : List Char} {ts : List Token}
    (hc : isWordStart c = false) (h : Lexes (c :: cs) ts) :
    Lexes (literalChars s ++ c :: cs) (textToken s :: ts) := by
  refine Lexes.of_flush (run_literal s) ?_ h
  show afterLiteral [] _ _ c = ground [textToken s] c
  rw [afterLiteral, hc, textOf_reverse]
  rfl

/-! ### Documentation -/

theorem run_docLine (tokens : List Token) (chars : List Char) {cs : List Char}
    (h : ∀ c ∈ cs, c ≠ '\n' ∧ c ≠ '\r') :
    Lexing.run ⟨tokens, .docLine false false chars⟩ cs =
      ⟨tokens, .docLine false false (cs.reverse ++ chars)⟩ := by
  refine run_collecting (.docLine false false) tokens (fun c hc chars => ?_) chars
  obtain ⟨hline, hreturn⟩ := h c hc
  simp [Lexing.step, inDocLine, hline, hreturn]

/-- A doc text that can stand on a line of its own. -/
def IsDocLine (doc : String) : Prop :=
  (∀ c ∈ doc.toList, c ≠ '\n' ∧ c ≠ '\r') ∧ doc.toList.head? ≠ some '/'

theorem lexes_docLine {doc : String} (h : IsDocLine doc) :
    Lexes ("///".toList ++ doc.toList ++ ['\n']) [.doc false doc] := by
  obtain ⟨hchars, hhead⟩ := h
  have hopen : Lexing.run ⟨[], .ground⟩ "///".toList = ⟨[], .lineDoc⟩ := by decide
  rw [Lexes, List.append_assoc, Lexing.run_append, hopen]
  cases hdoc : doc.toList with
  | nil =>
    have hempty : doc = "" := String.toList_eq_nil_iff.1 hdoc
    rw [hempty]
    rfl
  | cons c cs =>
    rw [hdoc] at hchars hhead
    obtain ⟨hline, hreturn⟩ := hchars c List.mem_cons_self
    have hslash : c ≠ '/' := by simpa using hhead
    have hfirst : Lexing.step ⟨[], .lineDoc⟩ c = ⟨[], .docLine false false [c]⟩ := by
      simp [Lexing.step, inDocLine, hslash, hline, hreturn]
    have htext : textOf (cs.reverse ++ [c]) = doc := by
      rw [← List.reverse_cons, textOf_reverse, ← hdoc, String.ofList_toList]
    show Lexing.run (Lexing.step _ c) (cs ++ ['\n']) = _
    rw [hfirst, Lexing.run_append, run_docLine [] [c] fun d hd =>
      hchars d (List.mem_cons_of_mem c hd)]
    show inDocLine [] false false _ '\n' = _
    simp only [inDocLine, if_true, htext]
    rfl

/-! ### Integers -/

theorem digit_codes_apart : (List.range' 48 10).all
    (fun n => !whiteSpace.has n && !xidStart.has n && n != 0x5f && n != 0x200e && n != 0x200f) =
      true := by
  decide +kernel

theorem not_gap_of_isDigit {c : Char} (h : c.isDigit = true) :
    isGap c = false ∧ isWordStart c = false := by
  have hmem : c.toNat ∈ List.range' 48 10 := by
    have hbounds : 48 ≤ c.toNat ∧ c.toNat ≤ 57 := by
      simpa [Char.isDigit, UInt32.le_iff_toNat_le] using h
    rw [List.mem_range'_1]
    omega
  have hapart := List.all_eq_true.1 digit_codes_apart c.toNat hmem
  simp only [Bool.and_eq_true, Bool.not_eq_true', bne_iff_ne, ne_eq] at hapart
  obtain ⟨⟨⟨⟨hblank, hstart⟩, hlow⟩, hleft⟩, hright⟩ := hapart
  have hunder : c ≠ '_' := by
    rintro rfl
    exact hlow rfl
  exact ⟨by simp [isGap, isBlank, hblank, hleft, hright], by
    simp [isWordStart, isXidStart, hstart, hunder]⟩

theorem not_punctuation_of_isDigit {c : Char} (h : c.isDigit = true) :
    isPunctuation c = false ∧ c ≠ '/' := by
  have hmarks : punctuation.all (fun p => !p.isDigit) = true := by decide
  constructor
  · cases hp : isPunctuation c with
    | false => rfl
    | true =>
      have hno := List.all_eq_true.1 hmarks c (by simpa [isPunctuation] using hp)
      rw [h] at hno
      cases hno
  · rintro rfl
    exact absurd h (by decide)

theorem run_digits (tokens : List Token) (chars : List Char) {cs : List Char}
    (h : ∀ c ∈ cs, c.isDigit = true) :
    Lexing.run ⟨tokens, .digits chars⟩ cs = ⟨tokens, .digits (cs.reverse ++ chars)⟩ := by
  refine run_collecting .digits tokens (fun c hc chars => ?_) chars
  simp [Lexing.step, afterDigits, h c hc]

theorem step_digits (chars : List Char) : Lexing.step ⟨[], .digits chars⟩ ';' =
    Lexing.step ⟨[.literal .integer (textOf chars)], .ground⟩ ';' := by
  have hword : isWordStart ';' = false ∧ isWordContinue ';' = false := by decide
  show afterDigits [] chars ';' = ground [.literal .integer (textOf chars)] ';'
  simp [afterDigits, afterNumber, hword]

theorem lexes_digits {digits : List Char} (hne : digits ≠ []) (h : ∀ c ∈ digits, c.isDigit = true)
    {cs : List Char} {ts : List Token} (hrest : Lexes (';' :: cs) ts) :
    Lexes (digits ++ ';' :: cs) (.literal .integer (String.ofList digits) :: ts) := by
  cases digits with
  | nil => exact absurd rfl hne
  | cons d ds =>
    have hd := h d List.mem_cons_self
    obtain ⟨hgap, hword⟩ := not_gap_of_isDigit hd
    have hrun : Lexing.run ⟨[], .ground⟩ (d :: ds) = ⟨[], .digits (d :: ds).reverse⟩ := by
      have hfirst : Lexing.step ⟨[], .ground⟩ d = ⟨[], .digits [d]⟩ := by
        simp [Lexing.step, ground, hgap, hword, hd]
      show Lexing.run (Lexing.step _ d) ds = _
      rw [hfirst, run_digits [] [d] fun c hc => h c (List.mem_cons_of_mem d hc), List.reverse_cons]
    have hflush := step_digits (d :: ds).reverse
    rw [textOf_reverse] at hflush
    exact Lexes.of_flush hrun hflush hrest

/-- The tokens of an integer. -/
def integerTokens (i : Int) : List Token :=
  let digits : Token := .literal .integer (String.ofList (Nat.toDigits 10 i.natAbs))
  if i < 0 then [.punct '-' false, digits] else [digits]

theorem lexes_decimal (i : Int) {cs : List Char} {ts : List Token} (hrest : Lexes (';' :: cs) ts) :
    Lexes (decimal i ++ ';' :: cs) (integerTokens i ++ ts) := by
  have hdigit : ∀ c ∈ Nat.toDigits 10 i.natAbs, c.isDigit = true :=
    fun c hc => Nat.isDigit_of_mem_toDigits (by omega) (by omega) hc
  have hdigits := lexes_digits Nat.toDigits_ne_nil hdigit hrest
  rw [decimal, integerTokens]
  split
  · cases hchars : Nat.toDigits 10 i.natAbs with
    | nil => exact absurd hchars Nat.toDigits_ne_nil
    | cons d ds =>
      rw [hchars] at hdigit hdigits
      have hapart : isPunctuation d = false ∧ d ≠ '/' :=
        not_punctuation_of_isDigit (hdigit d List.mem_cons_self)
      have hrun : Lexing.run ⟨[], .ground⟩ ['-'] = ⟨[], .punct '-'⟩ := by decide
      have hflush : Lexing.step ⟨[], .punct '-'⟩ d =
        Lexing.step ⟨[.punct '-' false], .ground⟩ d := by
        show afterPunct [] '-' d = ground [.punct '-' false] d
        simp [afterPunct, hapart]
      exact @Lexes.of_flush ['-'] (ds ++ ';' :: cs) _ d _ _ hrun hflush hdigits
  · exact hdigits

end Companion.Source
