import Mathlib
import Companion.Proofs.Source.Spelling
import Companion.Proofs.Template
import Companion.Proofs.Text.Quotes

/-! Literals of generated code. Between its quotes a literal holds no line break and no quote that
is not escaped, and the lexer reads it back to its text wherever it stands: before its last
character the lexer is inside the string, and with it the string is closed (`Denotes`). A literal
therefore has one text, and no text ends its literal early. -/
namespace Companion.Text
open Source

/-! ### The characters of a literal -/

theorem exists_digitChar_of_mem {n : Nat} {c : Char} (h : c ∈ Nat.toDigits 16 n) :
    ∃ d < 16, c = Nat.digitChar d := by
  induction n using Nat.strongRecOn with
  | ind n ih =>
    by_cases hn : n < 16
    · rw [Nat.toDigits_of_lt_base hn, List.mem_singleton] at h
      exact ⟨n, hn, h⟩
    · rw [Nat.toDigits_of_base_le (by omega) (Nat.le_of_not_lt hn), List.mem_append] at h
      rcases h with h | h
      · exact ih (n / 16) (by omega) h
      · exact ⟨n % 16, Nat.mod_lt n (by omega), List.mem_singleton.1 h⟩

/-- The characters that end a line in some text. -/
def lineBreaks : List Nat := [0xa, 0xb, 0xc, 0xd, 0x85, 0x2028, 0x2029]

def isLineBreak (c : Char) : Bool := lineBreaks.contains c.toNat

theorem lineBreaks_not_printable : lineBreaks.all (fun n => !printable.has n) = true := by
  decide +kernel

theorem not_lineBreak_of_isPrintable {c : Char} (h : isPrintable c = true) :
    isLineBreak c = false := by
  by_contra hbreak
  rw [Bool.not_eq_false, isLineBreak, List.contains_iff_mem] at hbreak
  have hhidden := List.all_eq_true.1 lineBreaks_not_printable c.toNat hbreak
  rw [isPrintable] at h
  simp [h] at hhidden

/-- A character that neither ends a line nor a literal, and escapes nothing. -/
def IsInert (c : Char) : Prop := c ≠ '"' ∧ c ≠ '\\' ∧ isLineBreak c = false

instance (c : Char) : Decidable (IsInert c) := inferInstanceAs (Decidable (_ ∧ _ ∧ _))

theorem isInert_digitChar : ∀ d < 16, IsInert (Nat.digitChar d) := by
  decide

/-- A code is a backslash and characters that do nothing. -/
theorem exists_escapeCode (n : Nat) :
    ∃ cs, escapeCode n = '\\' :: 'u' :: cs ∧ ∀ c ∈ cs, IsInert c := by
  refine ⟨'{' :: Nat.toDigits 16 n ++ ['}'], rfl, fun c hc => ?_⟩
  simp only [List.cons_append, List.mem_cons, List.mem_append, List.not_mem_nil, or_false] at hc
  rcases hc with rfl | hdigit | rfl
  · decide
  · obtain ⟨d, hd, rfl⟩ := exists_digitChar_of_mem hdigit
    exact isInert_digitChar d hd
  · decide

/-- A character of a literal does nothing, or stands behind a backslash with characters that do
nothing behind. -/
theorem escapeLiteral_shape (c : Char) : (escapeLiteral c = [c] ∧ IsInert c) ∨
    ∃ x cs, escapeLiteral c = '\\' :: x :: cs ∧ (x = '"' → cs = []) ∧ isLineBreak x = false ∧
      ∀ d ∈ cs, IsInert d := by
  rcases escapeLiteral_cases c with ⟨h, hquote, hslash, -, hprinted⟩ | ⟨x, hx, h, -⟩ | h
  · exact Or.inl ⟨h, hquote, hslash, not_lineBreak_of_isPrintable hprinted⟩
  · have hletters : ∀ x ∈ escapeLetters, isLineBreak x = false := by
      simp [escapeLetters, isLineBreak, lineBreaks]
    exact Or.inr ⟨x, [], h, fun _ => rfl, hletters x hx, by simp⟩
  · obtain ⟨cs, hcode, hinert⟩ := exists_escapeCode c.toNat
    exact Or.inr ⟨'u', cs, h.trans hcode, by simp, by decide, hinert⟩

theorem not_lineBreak_escapeLiteral {c d : Char} (h : d ∈ escapeLiteral c) :
    isLineBreak d = false := by
  rcases escapeLiteral_shape c with ⟨hc, hinert⟩ | ⟨x, cs, hc, -, hx, hcs⟩
  · rw [hc, List.mem_singleton] at h
    exact h ▸ hinert.2.2
  · rw [hc, List.mem_cons, List.mem_cons] at h
    rcases h with rfl | rfl | h
    · decide
    · exact hx
    · exact (hcs d h).2.2

/-- A literal stands on one line, whatever its text. -/
theorem not_lineBreak_literalChars {s : String} {c : Char} (h : c ∈ literalChars s) :
    isLineBreak c = false := by
  simp only [literalChars, quoteWith, List.cons_append, List.mem_cons, List.mem_append,
    List.mem_flatMap, List.not_mem_nil, or_false] at h
  rcases h with rfl | ⟨_, -, h⟩ | rfl
  · decide
  · exact not_lineBreak_escapeLiteral h
  · decide

/-! ### Quotes in a literal -/

theorem unescaped_inert {ds : List Char} (h : ∀ d ∈ ds, IsInert d) (cs behind : List Char) :
    Unescaped '"' (ds ++ cs) behind ↔ Unescaped '"' cs behind := by
  induction ds with
  | nil => rfl
  | cons d ds ih =>
    have hd := h d List.mem_cons_self
    rw [List.cons_append, unescaped_plain hd.2.1, ih fun e he => h e (List.mem_cons_of_mem d he)]
    exact or_iff_right fun hquote => hd.1 hquote.1

theorem escapes_inert {ds : List Char} (h : ∀ d ∈ ds, IsInert d) (cs : List Char) :
    Escapes (ds ++ cs) ↔ Escapes cs := by
  induction ds with
  | nil => rfl
  | cons d ds ih =>
    have hd := h d List.mem_cons_self
    rw [List.cons_append, escapes_plain hd.2.1, ih fun e he => h e (List.mem_cons_of_mem d he)]

theorem unescaped_escapeLiteral (c : Char) (cs behind : List Char) :
    Unescaped '"' (escapeLiteral c ++ cs) behind ↔ Unescaped '"' cs behind := by
  rcases escapeLiteral_shape c with ⟨hc, hinert⟩ | ⟨x, ds, hc, -, -, hds⟩
  · rw [hc]
    exact unescaped_inert (by simpa using hinert) cs behind
  · rw [hc, List.cons_append, List.cons_append, unescaped_backslash, unescaped_inert hds]
    exact or_iff_right fun h => absurd h.1 (by decide)

theorem escapes_escapeLiteral (c : Char) (cs : List Char) : Escapes (escapeLiteral c ++ cs) ↔
    Escapes cs := by
  rcases escapeLiteral_shape c with ⟨hc, hinert⟩ | ⟨x, ds, hc, -, -, hds⟩
  · rw [hc]
    exact escapes_inert (by simpa using hinert) cs
  · rw [hc, List.cons_append, List.cons_append, escapes_backslash, escapes_inert hds]

theorem not_unescaped_escaped (cs behind : List Char) :
    ¬ Unescaped '"' (cs.flatMap escapeLiteral) behind := by
  induction cs with
  | nil => exact not_unescaped_nil '"' behind
  | cons c cs ih => rwa [List.flatMap_cons, unescaped_escapeLiteral]

theorem not_escapes_escaped (cs : List Char) : ¬ Escapes (cs.flatMap escapeLiteral) := by
  induction cs with
  | nil => exact not_escapes_nil
  | cons c cs ih => rwa [List.flatMap_cons, escapes_escapeLiteral]

/-! ### A literal is open up to its last character -/

/-- The state is inside a string. -/
def InString (s : Lexing) : Prop :=
  ∃ inside text value, s = ⟨s.tokens, .string .text inside text value⟩

theorem InString.finish? {s : Lexing} (h : InString s) : s.finish? = none := by
  obtain ⟨inside, text, value, hs⟩ := h
  rw [hs]
  rfl

theorem plainInString_of_ne {c : Char} (hc : c ≠ '"') (tokens : List Token)
    (text value : List Char) :
    plainInString tokens .text text value c = .failed ∨
      InString (plainInString tokens .text text value c) := by
  rw [plainInString, if_neg hc]
  repeat' split
  all_goals first | exact Or.inl rfl | exact Or.inr ⟨_, _, _, rfl⟩

theorem escapedInString_open (tokens : List Token) (text value : List Char)
    (decoded : Option Char) :
    escapedInString tokens .text text value decoded = .failed ∨
      InString (escapedInString tokens .text text value decoded) := by
  unfold escapedInString
  repeat' split
  all_goals first | exact Or.inl rfl | exact Or.inr ⟨_, _, _, rfl⟩

/-- Only a quote ends a string. -/
theorem step_of_inString {s : Lexing} (h : InString s) {c : Char} (hc : c ≠ '"') :
    s.step c = .failed ∨ InString (s.step c) := by
  obtain ⟨inside, text, value, hs⟩ := h
  rw [hs]
  show inString _ .text inside text value c = _ ∨ InString (inString _ .text inside text value c)
  unfold inString
  dsimp only
  repeat' split
  all_goals first
    | exact plainInString_of_ne hc _ _ _
    | exact escapedInString_open _ _ _ _
    | exact Or.inl rfl
    | exact Or.inr ⟨_, _, _, rfl⟩

theorem run_of_inString {s : Lexing} (h : InString s) {cs : List Char} (hcs : '"' ∉ cs) :
    Lexing.run s cs = .failed ∨ InString (Lexing.run s cs) := by
  induction cs generalizing s with
  | nil => exact Or.inr h
  | cons c cs ih =>
    have hc : c ≠ '"' := fun heq => hcs (heq ▸ List.mem_cons_self)
    show Lexing.run (s.step c) cs = _ ∨ InString (Lexing.run (s.step c) cs)
    rcases step_of_inString h hc with hfail | hopen
    · rw [hfail]
      exact Or.inl (Lexing.run_failed cs)
    · exact ih hopen fun hmem => hcs (List.mem_cons_of_mem c hmem)

/-- A quote can only be the last character of those that write one. -/
theorem quote_not_mem_of_escapeLiteral {c : Char} {front behind : List Char}
    (h : escapeLiteral c = front ++ behind) (hbehind : behind ≠ []) : '"' ∉ front := by
  intro hmem
  rcases escapeLiteral_shape c with ⟨hc, hinert⟩ | ⟨x, cs, hc, hx, -, hcs⟩
  · rw [hc] at h
    have hquote : '"' ∈ [c] := h ▸ List.mem_append_left behind hmem
    exact hinert.1 (List.mem_singleton.1 hquote).symm
  · rw [hc] at h
    match front, h with
    | [_], h =>
      simp only [List.singleton_append, List.cons.injEq] at h
      rw [← h.1] at hmem
      exact absurd hmem (by decide)
    | d :: e :: front, h =>
      simp only [List.cons_append, List.cons.injEq] at h
      obtain ⟨rfl, rfl, rfl⟩ := h
      simp only [List.mem_cons] at hmem
      rcases hmem with hslash | hquote | hfront
      · exact absurd hslash (by decide)
      · have hnil := hx hquote.symm
        simp only [List.append_eq_nil_iff] at hnil
        exact hbehind hnil.2
      · exact (hcs '"' (List.mem_append_left behind hfront)).1 rfl

/-- Inside the writing of one character the string is open. -/
theorem inString_of_escapeLiteral {c : Char} {front behind : List Char}
    (h : escapeLiteral c = front ++ behind) (hbehind : behind ≠ []) (tokens : List Token)
    (text value : List Char) :
    InString (Lexing.run ⟨tokens, .string .text .plain text value⟩ front) := by
  have hstart : InString ⟨tokens, .string .text .plain text value⟩ := ⟨_, _, _, rfl⟩
  refine (run_of_inString hstart (quote_not_mem_of_escapeLiteral h hbehind)).resolve_left
    fun hfail => ?_
  -- a fault would be there behind the whole character too
  have hrun := run_escapeLiteral tokens text value c
  rw [h, Lexing.run_append, hfail, Lexing.run_failed] at hrun
  cases hrun

/-- Wherever the escaped text is cut, the string is open. -/
theorem inString_of_escaped {cs front behind : List Char}
    (h : cs.flatMap escapeLiteral = front ++ behind)
    (tokens : List Token) (text value : List Char) :
    InString (Lexing.run ⟨tokens, .string .text .plain text value⟩ front) := by
  induction cs generalizing front text value with
  | nil =>
    obtain ⟨rfl, -⟩ := List.append_eq_nil_iff.1 h.symm
    exact ⟨_, _, _, rfl⟩
  | cons c cs ih =>
    rw [List.flatMap_cons, List.append_eq_append_iff] at h
    rcases h with ⟨rest, rfl, hrest⟩ | ⟨rest, hfirst, -⟩
    · rw [Lexing.run_append, run_escapeLiteral]
      exact ih hrest _ _
    · by_cases hnil : rest = []
      · rw [hnil, List.append_nil] at hfirst
        rw [← hfirst, run_escapeLiteral]
        exact ⟨_, _, _, rfl⟩
      · exact inString_of_escapeLiteral hfirst hnil tokens text value

/-! ### The text of a literal -/

/-- The literal is one token that stands for the text, wherever it is read. -/
structure Denotes (literal : List Char) (text : String) : Prop where
  /-- Between the quotes there is no line break and no quote that is not escaped; the last quote is
  not either. -/
  quoted : ∃ inner, literal = '"' :: inner ++ ['"'] ∧ (∀ c ∈ inner, isLineBreak c = false) ∧
    (∀ behind, ¬ Unescaped '"' inner behind) ∧ ¬ Escapes inner
  /-- Read on its own it is the text. -/
  read : lex? literal = some [.literal (.string text) (String.ofList literal)]
  /-- Behind any tokens and before any text it is closed with the text as its value. -/
  closed : ∀ tokens rest, Lexing.run ⟨tokens, .ground⟩ (literal ++ rest) =
    Lexing.run ⟨tokens, .closed (.string text) literal.reverse⟩ rest
  /-- No part of it from the front is a literal or any other text that can be read. -/
  unfinished : ∀ front behind, literal = front ++ behind → front ≠ [] → behind ≠ [] →
    lex? front = none

theorem Denotes.unique {literal : List Char} {s t : String} (hs : Denotes literal s)
    (ht : Denotes literal t) :
    s = t := by
  have h := hs.read.symm.trans ht.read
  simpa using h

theorem run_literal_onto (tokens : List Token) (s : String) :
    Lexing.run ⟨tokens, .ground⟩ (literalChars s) =
      ⟨tokens, .closed (.string s) (literalChars s).reverse⟩ := by
  have h := Lexing.run_onto tokens ⟨[], .ground⟩ (literalChars s)
  rw [run_literal] at h
  exact h

theorem lex?_front_literalChars {s : String} {front behind : List Char}
    (h : literalChars s = front ++ behind) (hfront : front ≠ []) (hbehind : behind ≠ []) :
    lex? front = none := by
  obtain ⟨c, front, rfl⟩ := List.exists_cons_of_ne_nil hfront
  obtain ⟨behind, d, rfl⟩ := (List.eq_nil_or_concat' behind).resolve_left hbehind
  have hcut : '"' :: s.toList.flatMap escapeLiteral ++ ['"'] = c :: (front ++ behind) ++ [d] := by
    simpa [literalChars, quoteWith] using h
  obtain ⟨hstart, -⟩ := List.append_inj' hcut rfl
  obtain ⟨rfl, hinner⟩ := List.cons.inj hstart
  have hopen : Lexing.run ⟨[], .ground⟩ ['"'] = ⟨[], .string .text .plain ['"'] []⟩ := by decide
  have hinside : InString (Lexing.run ⟨[], .ground⟩ ('"' :: front)) := by
    have hrun := Lexing.run_append ⟨[], .ground⟩ ['"'] front
    rw [hopen] at hrun
    rw [show '"' :: front = ['"'] ++ front from rfl, hrun]
    exact inString_of_escaped hinner [] _ _
  rw [lex?, hinside.finish?]
  rfl

theorem denotes_literalChars (s : String) : Denotes (literalChars s) s where
  quoted := by
    refine ⟨s.toList.flatMap escapeLiteral, rfl, fun c hc => ?_, not_unescaped_escaped s.toList,
      not_escapes_escaped s.toList⟩
    obtain ⟨d, -, hd⟩ := List.mem_flatMap.1 hc
    exact not_lineBreak_escapeLiteral hd
  read := by
    rw [lex?, run_literal]
    simp [Lexing.finish?, textOf_reverse, balanced]
  closed := by
    intro tokens rest
    rw [Lexing.run_append, run_literal_onto]
  unfinished := fun _ _ => lex?_front_literalChars

end Companion.Text

namespace Companion.Template
open Text

/-- The plain texts of the values, one behind the other. -/
def joined (values : List Value) : String := String.join (values.map Value.plain)

theorem joined_cons (v : Value) (values : List Value) :
    joined (v :: values) = v.plain ++ joined values := by
  simp [joined]

theorem applyHelper_joined (values : List Value) :
    applyHelper "rust_str" values = .ok (literalChars (joined values)) := by
  rw [applyHelper_text, literalChars]
  simp [joined, String.toList_join, List.flatMap, Function.comp_def]

theorem applyHelper_ofText (s : String) (values : List Value) :
    applyHelper "rust_literal" (.text s :: values) = .ok (literalChars s) := by
  simp [applyHelper, Value.literal?]

theorem plain_integer (i : Int) : (Value.integer i).plain = toString i := by
  show String.ofList (decimal i) = i.repr
  cases i with
  | ofNat n => rfl
  | negSucc n =>
    have hrepr : (Int.negSucc n).repr = "-" ++ String.ofList (Nat.toDigits 10 (n + 1)) := rfl
    rw [hrepr, ← String.toList_inj, decimal, if_pos (Int.negSucc_lt_zero n)]
    simp

/-- **A literal in generated code denotes its text, and texts that differ have literals that
differ.** The text of values is put together of what stands for each of them: a text for itself,
nothing for null, its name for a boolean, the digits behind a sign for an integer, and its own text
for any other number. -/
theorem literals_denote :
    (joined [] = "" ∧ (∀ v values, joined (v :: values) = v.plain ++ joined values) ∧
      (∀ s, (Value.text s).plain = s) ∧ Value.null.plain = "" ∧
      (∀ b, (Value.boolean b).plain = if b then "true" else "false") ∧
      (∀ i, (Value.integer i).plain = toString i) ∧
      ∀ mantissa scale, (Value.number mantissa scale).plain =
        String.ofList (Value.numberText mantissa scale)) ∧
    (∀ values, ∃ literal, applyHelper "rust_str" values = .ok literal ∧
      Denotes literal (joined values)) ∧
    (∀ s values, ∃ literal, applyHelper "rust_literal" (.text s :: values) = .ok literal ∧
      Denotes literal s) ∧
    (∀ vs ws, applyHelper "rust_str" vs = applyHelper "rust_str" ws ↔ joined vs = joined ws) ∧
    (∀ s t vs ws,
      applyHelper "rust_literal" (.text s :: vs) = applyHelper "rust_literal" (.text t :: ws) ↔
        s = t) := by
  have hinjective : ∀ s t, literalChars s = literalChars t → s = t := fun s t h =>
    (denotes_literalChars s).unique (h ▸ denotes_literalChars t)
  refine ⟨⟨rfl, joined_cons, fun _ => rfl, rfl, fun b => by cases b <;> rfl, plain_integer,
    fun _ _ => rfl⟩, fun values => ⟨_, applyHelper_joined values, denotes_literalChars _⟩,
    fun s values => ⟨_, applyHelper_ofText s values, denotes_literalChars s⟩,
    fun vs ws => ?_, fun s t vs ws => ?_⟩
  · rw [applyHelper_joined, applyHelper_joined, Except.ok.injEq]
    exact ⟨hinjective _ _, congrArg literalChars⟩
  · rw [applyHelper_ofText, applyHelper_ofText, Except.ok.injEq]
    exact ⟨hinjective s t, congrArg literalChars⟩

-- a text that looks like an escape is no escape
example : literalChars "\\u\x7b41\x7d" = "\"\\\\u\x7b41\x7d\"".toList := by decide +kernel

end Companion.Template
