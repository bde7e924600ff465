import Mathlib
import Companion.Proofs.Source.Spelling
import Companion.Proofs.Text.Words

/-! What can stand where a name is expected. A text of the characters of words, with a colon behind
it, is read as a word only if it has the form of one: an empty text leaves the colon, digits in
front make a literal of all that follows, and nothing starts with any other character
(`isWordText_of_finish?`). With a `#` in it, the word ends there (`exists_hash_of_finish?`). -/
namespace Companion.Source
open Companion.Text

/-! ### Characters of words -/

theorem isWordContinue_of_isWordStart {c : Char} (h : isWordStart c = true) :
    isWordContinue c = true := by
  rw [isWordStart, Bool.or_eq_true, decide_eq_true_eq] at h
  rcases h with rfl | h
  · decide
  · exact isXidContinue_of_isXidStart h

theorem isWordContinue_of_isWordText {cs : List Char} (h : isWordText cs = true) :
    ∀ c ∈ cs, isWordContinue c = true := by
  cases cs with
  | nil => simp
  | cons c cs =>
    obtain ⟨hstart, hcontinue⟩ := Bool.and_eq_true_iff.1 h
    exact List.forall_mem_cons.2
      ⟨isWordContinue_of_isWordStart hstart, List.all_eq_true.1 hcontinue⟩

theorem isWordText_of_forall {cs : List Char} (hfull : cs ≠ [])
    (h : ∀ c ∈ cs, isWordStart c = true) :
    isWordText cs = true := by
  obtain ⟨c, cs, rfl⟩ := List.exists_cons_of_ne_nil hfull
  obtain ⟨hc, hcs⟩ := List.forall_mem_cons.1 h
  rw [isWordText, hc, Bool.true_and, List.all_eq_true]
  exact fun d hd => isWordContinue_of_isWordStart (hcs d hd)

theorem ne_empty_of_isIdentifier {name : String} (h : IsIdentifier name) : name ≠ "" := by
  rintro rfl
  rcases h.2 with hword | ⟨word, heq, -⟩
  · cases hword
  · simpa using congrArg String.toList heq

theorem ne_of_isWordContinue {c d : Char} (hc : isWordContinue c = true)
    (hd : isWordContinue d = false) : c ≠ d := by
  rintro rfl
  rw [hc] at hd
  cases hd

/-! ### Numbers -/

/-- The modes of a number that has no point and no sign. -/
inductive NumberMode : Mode → Prop where
  | digits (chars : List Char) : NumberMode (.digits chars)
  | exponent (number letter : List Char) : NumberMode (.exponent number false letter [])
  | exponentDigits (chars : List Char) : NumberMode (.exponentDigits chars)
  | radix (base : Nat) (empty : Bool) (chars : List Char) : NumberMode (.radix base empty chars)
  | suffix (kind : LiteralKind) (chars : List Char) : NumberMode (.suffix kind chars)

theorem afterNumber_number (kind : LiteralKind) (chars : List Char) {c : Char}
    (hc : isWordContinue c = true) :
    afterNumber [] kind chars c = .failed ∨ ∃ next, NumberMode next ∧
      afterNumber [] kind chars c = ⟨[], next⟩ := by
  unfold afterNumber
  split
  · exact Or.inr ⟨_, .suffix kind (c :: chars), rfl⟩
  · exact Or.inl rfl

/-- A number goes on with a character of words, or fails there. -/
theorem step_number {mode : Mode} (h : NumberMode mode) {c : Char} (hc : isWordContinue c = true) :
    Lexing.step ⟨[], mode⟩ c = .failed ∨ ∃ next, NumberMode next ∧
      Lexing.step ⟨[], mode⟩ c = ⟨[], next⟩ := by
  have hpoint : c ≠ '.' := ne_of_isWordContinue hc (by decide)
  have hsign : c ≠ '+' ∧ c ≠ '-' :=
    ⟨ne_of_isWordContinue hc (by decide), ne_of_isWordContinue hc (by decide)⟩
  cases h with
  | digits chars =>
    show afterDigits [] chars c = _ ∨ ∃ next, _ ∧ afterDigits [] chars c = _
    unfold afterDigits
    rw [if_neg hpoint]
    repeat' split
    · exact Or.inr ⟨_, .digits _, rfl⟩
    · exact Or.inr ⟨_, .exponent _ _, rfl⟩
    · exact Or.inr ⟨_, .radix _ _ _, rfl⟩
    · exact Or.inr ⟨_, .radix _ _ _, rfl⟩
    · exact Or.inr ⟨_, .radix _ _ _, rfl⟩
    · exact afterNumber_number .integer chars hc
  | exponent number letter =>
    show inExponent [] number false letter [] c = _ ∨ ∃ next, _ ∧
      inExponent [] number false letter [] c = _
    unfold inExponent
    split
    · exact Or.inr ⟨_, .exponentDigits _, rfl⟩
    · split
      · exact Or.inr ⟨_, .exponent _ _, rfl⟩
      · rw [if_neg (by simp [hsign])]
        refine Or.inr ⟨_, .suffix (numberKind false) (c :: (letter ++ number)), ?_⟩
        show afterSuffix [] _ (letter ++ number) c = _
        rw [afterSuffix, if_pos hc]
  | exponentDigits chars =>
    show afterExponentDigits [] chars c = _ ∨ ∃ next, _ ∧ afterExponentDigits [] chars c = _
    unfold afterExponentDigits
    split
    · exact Or.inr ⟨_, .exponentDigits _, rfl⟩
    · exact afterNumber_number .float chars hc
  | radix base empty chars =>
    show inRadix [] base empty chars c = _ ∨ ∃ next, _ ∧ inRadix [] base empty chars c = _
    unfold inRadix
    repeat' split
    · exact Or.inr ⟨_, .radix _ _ _, rfl⟩
    · exact Or.inr ⟨_, .radix _ _ _, rfl⟩
    · exact Or.inl rfl
    · exact afterNumber_number .integer chars hc
    · exact Or.inl rfl
    · exact afterNumber_number .integer chars hc
  | suffix kind chars =>
    refine Or.inr ⟨_, .suffix kind (c :: chars), ?_⟩
    show afterSuffix [] kind chars c = _
    rw [afterSuffix, if_pos hc]

theorem run_number {mode : Mode} (h : NumberMode mode) {cs : List Char}
    (hcs : ∀ c ∈ cs, isWordContinue c = true) :
    Lexing.run ⟨[], mode⟩ cs = .failed ∨ ∃ next, NumberMode next ∧
      Lexing.run ⟨[], mode⟩ cs = ⟨[], next⟩ := by
  induction cs generalizing mode with
  | nil => exact Or.inr ⟨mode, h, rfl⟩
  | cons c cs ih =>
    obtain ⟨hc, hcs⟩ := List.forall_mem_cons.1 hcs
    show Lexing.run (Lexing.step _ c) cs = _ ∨ ∃ next, _ ∧ Lexing.run (Lexing.step _ c) cs = _
    rcases step_number h hc with hfail | ⟨next, hnext, hstep⟩
    · rw [hfail]
      exact Or.inl (Lexing.run_failed cs)
    · rw [hstep]
      exact ih hnext hcs

/-- A colon makes a literal of a number, if it is one. -/
theorem flush_number {mode : Mode} (h : NumberMode mode) : Lexing.step ⟨[], mode⟩ ':' = .failed ∨
    ∃ kind text, Lexing.step ⟨[], mode⟩ ':' = ⟨[.literal kind text], .punct ':'⟩ := by
  cases h with
  | digits chars =>
    have hend : afterDigits [] chars ':' = afterNumber [] .integer chars ':' := by
      simp [afterDigits]
    exact Or.inr ⟨.integer, textOf chars, hend⟩
  | exponent number letter => exact Or.inr ⟨.integer, textOf (letter ++ number), rfl⟩
  | exponentDigits chars => exact Or.inr ⟨.float, textOf chars, rfl⟩
  | radix base empty chars =>
    cases empty with
    | true => exact Or.inl rfl
    | false => exact Or.inr ⟨.integer, textOf chars, rfl⟩
  | suffix kind chars => exact Or.inr ⟨kind, textOf chars, rfl⟩

/-! ### Names -/

/-- The tokens that the rest of a text gives behind those read before. -/
theorem exists_of_finish?_onto {s : Lexing} {base rs : List Token}
    (h : (s.onto base).finish? = some rs) :
    ∃ vs, rs = vs ++ base := by
  rw [Lexing.finish?_onto] at h
  obtain ⟨vs, -, rfl⟩ := Option.map_eq_some_iff.1 h
  exact ⟨vs, rfl⟩

/-- No token starts with a character that only continues words, if it is no digit. -/
theorem ground_eq_failed {c : Char} (hcontinue : isWordContinue c = true)
    (hstart : isWordStart c = false) (hdigit : c.isDigit = false) : ground [] c = .failed := by
  have htable : ('"' :: '(' :: ')' :: '[' :: ']' :: '\x7b' :: '\x7d' :: punctuation).all
    (fun d => !isWordContinue d) =
      true := by decide
  have hne : ∀ d, isWordContinue d = false → c ≠ d := fun d => ne_of_isWordContinue hcontinue
  simp only [List.all_cons, Bool.and_eq_true, Bool.not_eq_true'] at htable
  obtain ⟨hquote, hround, hround', hsquare, hsquare', hbrace, hbrace', hpunctuation⟩ := htable
  have hpunct : isPunctuation c = false := by
    by_contra hmem
    rw [Bool.not_eq_false, isPunctuation, List.contains_iff_mem] at hmem
    have hout := List.all_eq_true.1 hpunctuation c hmem
    simp [hcontinue] at hout
  have hpunct' : ∀ d ∈ punctuation, c ≠ d := by
    rintro d hd rfl
    simp [isPunctuation, hd] at hpunct
  simp [ground, not_gap_of_isWordContinue hcontinue, hstart, hdigit, hpunct, hne _ hquote,
    openingDelimiter?, closingDelimiter?, hne _ hround, hne _ hround', hne _ hsquare,
    hne _ hsquare', hne _ hbrace, hne _ hbrace', hpunct' '\'' (by decide), hpunct' '/' (by decide)]

/-- **A text in front of a colon is read as a word only if it has the form of one.** -/
theorem isWordText_of_finish? {cs ds : List Char} (hcs : ∀ c ∈ cs, isWordContinue c = true)
    {touching : Bool} {ts : List Token} (hds : Lexes (':' :: ds) (.punct ':' touching :: ts))
    {rs : List Token} (h : (Lexing.run ⟨[], .ground⟩ (cs ++ ':' :: ds)).finish? = some rs)
    (hword : peekAnyWord rs.reverse = true) :
    isWordText cs = true := by
  cases cs with
  | nil =>
    have hrun : Lexing.run ⟨[], .ground⟩ (':' :: ds) =
      ⟨(Token.punct ':' touching :: ts).reverse, .ground⟩ := hds
    rw [List.nil_append, hrun] at h
    obtain rfl := Option.some.inj h
    rw [List.reverse_reverse] at hword
    cases hword
  | cons c cs =>
    obtain ⟨hc, hcs⟩ := List.forall_mem_cons.1 hcs
    rw [isWordText, Bool.and_eq_true]
    refine ⟨?_, List.all_eq_true.2 hcs⟩
    by_contra hstart
    rw [Bool.not_eq_true] at hstart
    rw [List.cons_append] at h
    replace h : (Lexing.run (ground [] c) (cs ++ ':' :: ds)).finish? = some rs := h
    cases hdigit : c.isDigit with
    | false =>
      rw [ground_eq_failed hc hstart hdigit, Lexing.run_failed] at h
      cases h
    | true =>
      have hfirst : ground [] c = ⟨[], .digits [c]⟩ := by
        simp [ground, not_gap_of_isWordContinue hc, hstart, hdigit]
      rw [hfirst, Lexing.run_append] at h
      rcases run_number (.digits [c]) hcs with hfail | ⟨next, hnext, hrun⟩
      · rw [hfail, Lexing.run_failed] at h
        cases h
      · rw [hrun] at h
        replace h : (Lexing.run (Lexing.step ⟨[], next⟩ ':') ds).finish? = some rs := h
        rcases flush_number hnext with hfail | ⟨kind, text, hflush⟩
        · rw [hfail, Lexing.run_failed] at h
          cases h
        · have honto := Lexing.run_onto [.literal kind text] ⟨[], .punct ':'⟩ ds
          rw [hflush] at h
          obtain ⟨vs, rfl⟩ := exists_of_finish?_onto (honto ▸ h)
          simp [peekAnyWord] at hword

/-- A word that a `#` ends is a word, with the `#` behind it. -/
theorem exists_hash_of_finish? {front behind : List Char} (hfront : isWordText front = true)
    (hplain : stringPrefix? front.reverse = none) (hbehind : '/' ∉ behind) (hfull : behind ≠ [])
    {rs : List Token} (h : (Lexing.run ⟨[], .ground⟩ (front ++ '#' :: behind)).finish? = some rs) :
    ∃ touching vs, rs.reverse = .word (String.ofList front) :: .punct '#' touching :: vs := by
  obtain ⟨c, cs, rfl⟩ := List.exists_cons_of_ne_nil hfull
  have hc : c ≠ '/' := fun heq => hbehind (heq ▸ List.mem_cons_self)
  have hword : Lexing.step ⟨[], .word front.reverse⟩ '#' =
    ⟨[.word (String.ofList front)], .punct '#'⟩ := by
    have hground : ground [] '#' = ⟨[], .punct '#'⟩ := by decide
    have hflush := ground_onto [] [.word (String.ofList front)] '#'
    rw [hground] at hflush
    show afterWord [] front.reverse '#' = _
    rw [afterWord, if_neg (by decide), hplain, textOf_reverse]
    exact hflush
  have hhash : Lexing.step ⟨[.word (String.ofList front)], .punct '#'⟩ c =
      (ground [] c).onto [.punct '#' (isPunctuation c), .word (String.ofList front)] := by
    show afterPunct _ '#' c = _
    rw [afterPunct, if_neg hc]
    exact ground_onto [] _ c
  have hrun : Lexing.run ⟨[], .ground⟩ (front ++ '#' :: c :: cs) =
      (Lexing.run (ground [] c) cs).onto
      [.punct '#' (isPunctuation c), .word (String.ofList front)] := by
    rw [Lexing.run_append, run_wordText hfront, ← Lexing.run_onto, ← hhash, ← hword]
    rfl
  rw [hrun] at h
  obtain ⟨vs, rfl⟩ := exists_of_finish?_onto h
  exact ⟨isPunctuation c, vs.reverse, by simp⟩

/-! ### Names of constants -/

theorem isWordContinue_screamingSnake {name : String} (h : isWordText name.toList = true) :
    ∀ c ∈ (screamingSnake name).toList, isWordContinue c = true := by
  intro c hc
  rcases mem_screamingSnake hc with rfl | ⟨d, hd, hc⟩
  · decide
  · exact isXidContinue_of_mem_upperChar (isWordContinue_of_isWordText h d hd) hc

theorem slash_not_mem_screamingSnake {word : String} (h : isWordText word.toList = true) :
    '/' ∉ (screamingSnake ("r#" ++ word)).toList := by
  intro hmem
  have hslash : isXidContinue '/' = false := by decide
  rcases mem_screamingSnake hmem with heq | ⟨d, hd, hmem⟩
  · exact absurd heq (by decide)
  · have hchars : ("r#" ++ word).toList = 'r' :: '#' :: word.toList := by simp
    rw [hchars, List.mem_cons, List.mem_cons] at hd
    rcases hd with rfl | rfl | hd
    · rw [upperChar_ascii (by decide)] at hmem
      exact absurd hmem (by decide)
    · rw [upperChar_ascii (by decide)] at hmem
      exact absurd hmem (by decide)
    · rw [isXidContinue_of_mem_upperChar (isWordContinue_of_isWordText h d hd) hmem] at hslash
      cases hslash

/-- What is read where the constant of a raw identifier would stand is a word with a `#` behind
it. -/
theorem exists_hash_screamingSnake {word : String} (h : isWordText word.toList = true)
    {ds : List Char} (hds : '/' ∉ ds) (hfull : ds ≠ []) {rs : List Token}
    (hrun : (Lexing.run ⟨[], .ground⟩ ((screamingSnake ("r#" ++ word)).toList ++ ds)).finish? =
      some rs) :
    ∃ first touching vs, rs.reverse = .word first :: .punct '#' touching :: vs := by
  obtain ⟨front, between, behind, hname, hfront, hbetween⟩ := exists_screamingSnake_raw word
  have hslash := slash_not_mem_screamingSnake h
  have hword : isWordText (front ++ 'R' :: between) = true := by
    have hlow : isWordStart '_' = true ∧ isWordStart 'R' = true := by decide
    refine isWordText_of_forall (by simp) fun c hc => ?_
    rcases List.mem_append.1 hc with hc | hc
    · exact hfront c hc ▸ hlow.1
    · rcases List.mem_cons.1 hc with rfl | hc
      · exact hlow.2
      · exact hbetween c hc ▸ hlow.1
  have hplain : stringPrefix? (front ++ 'R' :: between).reverse = none := by
    have hmem : 'R' ∈ (front ++ 'R' :: between).reverse := by simp
    have hne : ∀ letters : List Char, 'R' ∉ letters →
      (front ++ 'R' :: between).reverse ≠ letters := by
      rintro _ hletters rfl
      exact hletters hmem
    rw [stringPrefix?, if_neg (hne _ (by decide)), if_neg (hne _ (by decide)),
      if_neg (hne _ (by decide)), if_neg (hne _ (by decide)), if_neg (hne _ (by decide))]
  rw [hname] at hslash
  have hcut : (screamingSnake ("r#" ++ word)).toList ++ ds =
      (front ++ 'R' :: between) ++ '#' :: (behind ++ ds) := by simp [hname]
  rw [hcut] at hrun
  obtain ⟨touching, vs, hrs⟩ :=
    exists_hash_of_finish? hword hplain (by simp_all) (by simp [hfull]) hrun
  exact ⟨_, touching, vs, hrs⟩

end Companion.Source
