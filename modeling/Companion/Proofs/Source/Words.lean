import Mathlib
import Companion.Proofs.Source.Names

/-! The words of a text. Every word that the lexer gives is spelled as a word, or as a raw one with
its mark: whatever the text is, no character that ends a word gets into one (`words_lex?`). A step
keeps the tokens so and the unfinished word too (`Lexing.sound_step`). -/
namespace Companion.Source

/-- A word as it may be spelled: its characters, or those of a raw word behind the mark of one. -/
def IsWord (text : String) : Prop :=
  isWordText text.toList = true ∨
    ∃ word : String, text = "r#" ++ word ∧ isWordText word.toList = true ∧
      neverRaw.contains word = false

/-- The words among the tokens are spelled as words. -/
def Words (tokens : List Token) : Prop := ∀ text, Token.word text ∈ tokens → IsWord text

theorem Words.nil : Words [] := by
  intro text h
  cases h

theorem Words.cons {tokens : List Token} {token : Token} (h : Words tokens)
    (htoken : ∀ text, token = .word text → IsWord text) : Words (token :: tokens) := by
  intro text hmem
  rcases List.mem_cons.1 hmem with heq | hmem
  · exact htoken text heq.symm
  · exact h text hmem

theorem Words.consWord {tokens : List Token} {chars : List Char} (h : Words tokens)
    (hchars : isWordText chars.reverse = true) : Words (.word (textOf chars) :: tokens) := by
  refine h.cons fun text htext => Or.inl ?_
  rw [← Token.word.inj htext, textOf, String.toList_ofList]
  exact hchars

/-- What an unfinished word has so far is a word. Behind the sign of an exponent stand underscores
only, which are a word if the exponent is none. -/
def Mode.Sound : Mode → Prop
  | .word chars => isWordText chars.reverse = true
  | .rawWord chars => isWordText chars.reverse = true
  | .exponent _ _ _ sign => ∀ c ∈ sign.reverse.tail, c = '_'
  | _ => True

structure Lexing.Sound (s : Lexing) : Prop where
  words : Words s.tokens
  mode : s.mode.Sound

theorem Lexing.sound_failed : Lexing.failed.Sound := ⟨.nil, trivial⟩

theorem isWordText_singleton {c : Char} (h : isWordStart c = true) :
    isWordText [c].reverse = true := by
  simp [isWordText, h]

theorem isWordText_snoc {c : Char} {chars : List Char} (h : isWordText chars.reverse = true)
    (hc : isWordContinue c = true) : isWordText (c :: chars).reverse = true := by
  rw [List.reverse_cons]
  cases hrev : chars.reverse with
  | nil => rw [hrev] at h; cases h
  | cons d ds =>
    rw [hrev] at h
    obtain ⟨hd, hds⟩ := Bool.and_eq_true_iff.1 h
    simp only [List.cons_append, isWordText, hd, List.all_append, hds, List.all_cons, hc,
      List.all_nil, Bool.and_self]

/-! ### One character -/

variable {tokens : List Token} (h : Words tokens) (c : Char)
include h

theorem sound_ground : (ground tokens c).Sound := by
  unfold ground
  repeat' split
  all_goals first
    | exact ⟨h, trivial⟩
    | exact ⟨h.cons (by simp), trivial⟩
    | exact Lexing.sound_failed
    | next hstart => exact ⟨h, isWordText_singleton hstart⟩

theorem sound_afterLiteral (kind : LiteralKind) (chars : List Char) :
    (afterLiteral tokens kind chars c).Sound := by
  unfold afterLiteral
  split
  · exact ⟨h, trivial⟩
  · exact sound_ground (h.cons (by simp)) c

theorem sound_afterNumber (kind : LiteralKind) (chars : List Char) :
    (afterNumber tokens kind chars c).Sound := by
  unfold afterNumber
  repeat' split
  · exact ⟨h, trivial⟩
  · exact Lexing.sound_failed
  · exact sound_ground (h.cons (by simp)) c

theorem sound_afterPunct (p : Char) : (afterPunct tokens p c).Sound := by
  unfold afterPunct
  split
  · exact ⟨h, trivial⟩
  · exact sound_ground (h.cons (by simp)) c

theorem sound_afterWord {word : List Char} (hword : isWordText word.reverse = true) :
    (afterWord tokens word c).Sound := by
  have hflush := sound_ground (h.consWord hword) c
  unfold afterWord
  split
  · next hcontinue => exact ⟨h, isWordText_snoc hword hcontinue⟩
  · repeat' split
    all_goals first | exact ⟨h, trivial⟩ | exact hflush

theorem sound_afterHashes (word : List Char) (count : Nat) :
    (afterHashes tokens word count c).Sound := by
  unfold afterHashes
  repeat' split
  all_goals first
    | exact ⟨h, trivial⟩
    | exact Lexing.sound_failed
    | next hstart =>
      simp only [Bool.and_eq_true] at hstart
      exact ⟨h, isWordText_singleton hstart.2⟩

theorem words_of_withRawWord? {word : List Char} (hword : isWordText word.reverse = true)
    {us : List Token} (hraw : withRawWord? tokens word = some us) : Words us := by
  unfold withRawWord? at hraw
  split at hraw
  · cases hraw
  · next hnever =>
    obtain rfl := Option.some.inj hraw
    refine h.cons fun text htext =>
      Or.inr ⟨textOf word, (Token.word.inj htext).symm, ?_, by simpa using hnever⟩
    rw [textOf, String.toList_ofList]
    exact hword

theorem sound_plainInString (content : Content) (text value : List Char) :
    (plainInString tokens content text value c).Sound := by
  unfold plainInString
  repeat' split
  all_goals first | exact ⟨h, trivial⟩ | exact Lexing.sound_failed

theorem sound_escapedInString (content : Content) (text value : List Char) (decoded : Option Char) :
    (escapedInString tokens content text value decoded).Sound := by
  unfold escapedInString
  repeat' split
  all_goals first | exact ⟨h, trivial⟩ | exact Lexing.sound_failed

theorem sound_inString (content : Content) (inside : Inside) (text value : List Char) :
    (inString tokens content inside text value c).Sound := by
  unfold inString
  dsimp only
  repeat' split
  all_goals first
    | exact ⟨h, trivial⟩
    | exact Lexing.sound_failed
    | exact sound_plainInString h c content text value
    | exact sound_escapedInString h content (c :: text) value _

theorem sound_inRawString (content : Content) (count : Nat) (seen : Option Nat) (carriage : Bool)
    (text value : List Char) :
    (inRawString tokens content count seen carriage text value c).Sound := by
  unfold inRawString
  dsimp only
  repeat' split
  all_goals first | exact ⟨h, trivial⟩ | exact Lexing.sound_failed

theorem sound_afterQuoteChar (first : Char) : (afterQuoteChar tokens first c).Sound := by
  unfold afterQuoteChar
  repeat' split
  all_goals first
    | exact ⟨h, trivial⟩
    | exact Lexing.sound_failed
    | exact sound_ground (h.cons (by simp)) c

theorem sound_inEscapedChar (wide coded : Bool) (again : InsideChar → List Char → Mode)
    (hagain : ∀ inside text, (again inside text).Sound) (inside : InsideChar) (text : List Char) :
    (inEscapedChar tokens wide coded again inside text c).Sound := by
  unfold inEscapedChar
  repeat' split
  · exact ⟨h, trivial⟩
  · exact ⟨h, hagain _ _⟩
  · exact Lexing.sound_failed

theorem sound_afterDigits (chars : List Char) : (afterDigits tokens chars c).Sound := by
  unfold afterDigits
  repeat' split
  all_goals first
    | exact ⟨h, trivial⟩
    | exact ⟨h, by simp [Mode.Sound]⟩
    | exact sound_afterNumber h c .integer chars

theorem sound_afterFraction (chars : List Char) : (afterFraction tokens chars c).Sound := by
  unfold afterFraction
  repeat' split
  · exact ⟨h, trivial⟩
  · exact ⟨h, by simp [Mode.Sound]⟩
  · exact sound_afterNumber h c .float chars

theorem sound_afterPoint (chars : List Char) : (afterPoint tokens chars c).Sound := by
  unfold afterPoint
  split
  · exact sound_afterPunct (h.cons (by simp)) c '.'
  · exact sound_afterFraction h c ('.' :: chars)

theorem sound_afterSuffix (kind : LiteralKind) (chars : List Char) :
    (afterSuffix tokens kind chars c).Sound := by
  unfold afterSuffix
  split
  · exact ⟨h, trivial⟩
  · exact sound_ground (h.cons (by simp)) c

/-- An exponent that is none leaves a suffix, a sign, or a sign and a word of underscores. -/
theorem sound_withoutExponent (number : List Char) (fraction : Bool) (letter : List Char)
    {sign : List Char} (hsign : ∀ c ∈ sign.reverse.tail, c = '_') :
    (withoutExponent tokens number fraction letter sign).Sound := by
  unfold withoutExponent
  cases hrev : sign.reverse with
  | nil => exact ⟨h, trivial⟩
  | cons s word =>
    rw [hrev, List.tail_cons] at hsign
    cases word with
    | nil => exact ⟨h.cons (by simp), trivial⟩
    | cons d word =>
      have hword : isWordText (d :: word) = true := by
        refine isWordText_of_forall (by simp) fun c hc => ?_
        rw [hsign c hc]
        decide
      refine ⟨(h.cons (by simp)).cons (by simp), ?_⟩
      show isWordText (d :: word).reverse.reverse = true
      rw [List.reverse_reverse]
      exact hword

theorem sound_inExponent (number : List Char) (fraction : Bool) (letter : List Char)
    {sign : List Char} (hsign : ∀ c ∈ sign.reverse.tail, c = '_') :
    (inExponent tokens number fraction letter sign c).Sound := by
  unfold inExponent
  split
  · exact ⟨h, trivial⟩
  · split
    · next hlow =>
      split
      · exact ⟨h, hsign⟩
      · next hempty =>
        refine ⟨h, ?_⟩
        show ∀ d ∈ (c :: sign).reverse.tail, d = '_'
        have hfull : sign.reverse ≠ [] := by simpa using hempty
        rw [List.reverse_cons, List.tail_append_of_ne_nil hfull]
        intro d hd
        rcases List.mem_append.1 hd with hd | hd
        · exact hsign d hd
        · rw [List.mem_singleton.1 hd, hlow]
    · split
      · exact ⟨h, by simp [Mode.Sound]⟩
      · have hwithout := sound_withoutExponent h number fraction letter hsign
        split
        · next heq =>
          rw [heq] at hwithout
          exact sound_afterSuffix hwithout.words c _ _
        · next heq =>
          rw [heq] at hwithout
          exact sound_afterPunct hwithout.words c _
        · next heq =>
          rw [heq] at hwithout
          exact sound_afterWord hwithout.words c hwithout.mode
        · exact Lexing.sound_failed

theorem sound_afterExponentDigits (chars : List Char) :
    (afterExponentDigits tokens chars c).Sound := by
  unfold afterExponentDigits
  split
  · exact ⟨h, trivial⟩
  · exact sound_afterNumber h c .float chars

theorem sound_inRadix (radix : Nat) (empty : Bool) (chars : List Char) :
    (inRadix tokens radix empty chars c).Sound := by
  unfold inRadix
  repeat' split
  all_goals first
    | exact ⟨h, trivial⟩
    | exact Lexing.sound_failed
    | exact sound_afterNumber h c .integer chars

theorem sound_inBlockComment (depth : Nat) (mark : Mark) :
    (inBlockComment tokens depth mark c).Sound := by
  unfold inBlockComment
  split <;> exact ⟨h, trivial⟩

theorem sound_inDocBlock (inner : Bool) (depth : Nat) (mark : Mark) (chars : List Char) :
    (inDocBlock tokens inner depth mark chars c).Sound := by
  unfold inDocBlock
  repeat' split
  · exact Lexing.sound_failed
  · exact ⟨h.cons (by simp), trivial⟩
  · exact ⟨h, trivial⟩

theorem sound_inDocLine (inner carriage : Bool) (chars : List Char) :
    (inDocLine tokens inner carriage chars c).Sound := by
  unfold inDocLine
  repeat' split
  · exact ⟨h.cons (by simp), trivial⟩
  · exact Lexing.sound_failed
  · exact ⟨h, trivial⟩
  · exact ⟨h, trivial⟩

theorem sound_afterSlash (before : Option Char) : (afterSlash tokens before c).Sound := by
  unfold afterSlash
  cases before with
  | none =>
    dsimp only
    repeat' split
    · exact ⟨h, trivial⟩
    · exact ⟨h, trivial⟩
    · exact sound_afterPunct h c '/'
  | some p =>
    dsimp only
    repeat' split
    · exact ⟨h.cons (by simp), trivial⟩
    · exact ⟨h.cons (by simp), trivial⟩
    · exact sound_afterPunct (h.cons (by simp)) c '/'

omit h

/-! ### Texts -/

namespace Lexing

/-- **A step keeps words spelled as words.** -/
theorem sound_step {s : Lexing} (hs : s.Sound) (c : Char) : (s.step c).Sound := by
  obtain ⟨tokens, mode⟩ := s
  obtain ⟨h, hmode⟩ := hs
  cases mode with
  | ground => exact sound_ground h c
  | word chars => exact sound_afterWord h c hmode
  | hashes word count => exact sound_afterHashes h c word count
  | rawWord chars =>
    simp only [step]
    split
    · next hcontinue => exact ⟨h, isWordText_snoc hmode hcontinue⟩
    · split
      · next us hus => exact sound_ground (words_of_withRawWord? h hmode hus) c
      · exact sound_failed
  | string content inside text value => exact sound_inString h c content inside text value
  | rawString content count seen carriage text value =>
    exact sound_inRawString h c content count seen carriage text value
  | quote =>
    simp only [step]
    split <;> exact ⟨h, trivial⟩
  | quoteChar first => exact sound_afterQuoteChar h c first
  | charEscape inside text =>
    exact sound_inEscapedChar h c false true .charEscape (fun _ _ => trivial) inside text
  | byteQuote =>
    simp only [step]
    repeat' split
    all_goals first | exact ⟨h, trivial⟩ | exact sound_failed
  | byteClose text =>
    simp only [step]
    split
    · exact ⟨h, trivial⟩
    · exact sound_failed
  | byteEscape inside text =>
    exact sound_inEscapedChar h c true false .byteEscape (fun _ _ => trivial) inside text
  | lifetime chars =>
    simp only [step]
    repeat' split
    · exact ⟨h, trivial⟩
    · exact sound_failed
    · exact sound_ground (h.cons (by simp)) c
  | rawLifetime =>
    simp only [step]
    split
    · exact ⟨h, trivial⟩
    · exact sound_failed
  | rawLifetimeWord chars =>
    simp only [step]
    repeat' split
    · exact ⟨h, trivial⟩
    · exact sound_failed
    · exact sound_ground (h.cons (by simp)) c
  | digits chars => exact sound_afterDigits h c chars
  | point chars => exact sound_afterPoint h c chars
  | fraction chars => exact sound_afterFraction h c chars
  | exponent number fraction letter sign => exact sound_inExponent h c number fraction letter hmode
  | exponentDigits chars => exact sound_afterExponentDigits h c chars
  | radix radix empty chars => exact sound_inRadix h c radix empty chars
  | closed kind chars => exact sound_afterLiteral h c kind chars
  | suffix kind chars => exact sound_afterSuffix h c kind chars
  | punct p => exact sound_afterPunct h c p
  | slash before => exact sound_afterSlash h c before
  | lineOpen =>
    simp only [step]
    repeat' split
    all_goals exact ⟨h, trivial⟩
  | lineDoc =>
    simp only [step]
    split
    · exact ⟨h, trivial⟩
    · exact sound_inDocLine h c false false []
  | lineComment =>
    simp only [step]
    split <;> exact ⟨h, trivial⟩
  | docLine inner carriage chars => exact sound_inDocLine h c inner carriage chars
  | blockOpen =>
    simp only [step]
    repeat' split
    · exact ⟨h, trivial⟩
    · exact ⟨h, trivial⟩
    · exact sound_inBlockComment h c 1 .none
  | blockDoc =>
    simp only [step]
    repeat' split
    · exact ⟨h, trivial⟩
    · exact ⟨h, trivial⟩
    · exact sound_inDocBlock h c false 1 .none []
  | blockComment depth mark => exact sound_inBlockComment h c depth mark
  | docBlock inner depth mark chars => exact sound_inDocBlock h c inner depth mark chars
  | failed => exact ⟨h, trivial⟩

theorem sound_run {s : Lexing} (hs : s.Sound) (cs : List Char) : (s.run cs).Sound := by
  induction cs generalizing s with
  | nil => exact hs
  | cons c cs ih => exact ih (sound_step hs c)

theorem words_finish? {s : Lexing} (hs : s.Sound) {tokens : List Token}
    (hfinish : s.finish? = some tokens) :
    Words tokens := by
  obtain ⟨read, mode⟩ := s
  obtain ⟨h, hmode⟩ := hs
  cases mode with
  | word chars =>
    obtain rfl := Option.some.inj hfinish
    exact h.consWord hmode
  | rawWord chars => exact words_of_withRawWord? h hmode hfinish
  | exponent number fraction letter sign =>
    have hwithout := sound_withoutExponent h number fraction letter hmode
    simp only [finish?] at hfinish
    split at hfinish
    · next heq =>
      rw [heq] at hwithout
      obtain rfl := Option.some.inj hfinish
      exact hwithout.words.cons (by simp)
    · next heq =>
      rw [heq] at hwithout
      obtain rfl := Option.some.inj hfinish
      exact hwithout.words.cons (by simp)
    · next heq =>
      rw [heq] at hwithout
      obtain rfl := Option.some.inj hfinish
      exact hwithout.words.consWord hwithout.mode
    · cases hfinish
  | slash before =>
    cases before with
    | none =>
      obtain rfl := Option.some.inj hfinish
      exact h.cons (by simp)
    | some p =>
      obtain rfl := Option.some.inj hfinish
      exact (h.cons (by simp)).cons (by simp)
  | _ =>
    -- every other unfinished token is no word
    simp only [finish?] at hfinish
    repeat' split at hfinish
    all_goals cases hfinish
    all_goals first | exact h | exact h.cons (by simp)

end Lexing

/-- **Every word that a text is read as is spelled as a word.** -/
theorem words_lex? {cs : List Char} {ts : List Token} (h : lex? cs = some ts) : Words ts := by
  obtain ⟨h, -⟩ := Option.filter_eq_some_iff.1 h
  obtain ⟨rs, hrs, rfl⟩ := Option.map_eq_some_iff.1 h
  have hstart : (⟨[], .ground⟩ : Lexing).Sound := ⟨.nil, trivial⟩
  intro text hmem
  exact Lexing.words_finish? (Lexing.sound_run hstart cs) hrs text (List.mem_reverse.1 hmem)

end Companion.Source
