import Mathlib
import Companion.Text.Quoted

/-! Where a quoted text ends. A backslash takes the next character with it, so a quote is escaped
when an odd number of backslashes stands right in front of it (`Escapes`), and `Unescaped` says that
a character stands where it is not. The scan from the opening quote on, two characters at a
backslash and else one, finds the quotes that are not escaped (`closesQuote_iff_unescaped`). More
text behind a quote that closes changes nothing in front of it. -/
namespace Companion.Text

/-! ### One character or two -/

theorem closesQuote_backslash (c : Char) (rest : List Char) :
    closesQuote ('\\' :: c :: rest) = closesQuote rest := by
  rw [closesQuote]

theorem closesQuote_plain {c : Char} (hquote : c ≠ '"') (hback : c ≠ '\\') (rest : List Char) :
    closesQuote (c :: rest) = closesQuote rest := by
  rw [closesQuote]
  · exact hquote
  · intro h _
    exact hback h
  · intro _ _ h _
    exact hback h

theorem readPlain_plain {c : Char} (hquote : c ≠ '"') (hback : c ≠ '\\') (rest : List Char) :
    readPlain (c :: rest) = (readPlain rest).map fun p => (c :: p.1, p.2) := by
  rw [readPlain]
  · cases readPlain rest <;> rfl
  · exact hquote
  · intro h _
    exact hback h
  · intro _ _ h _
    exact hback h

theorem readPlain_backslash (c : Char) (rest : List Char) : readPlain ('\\' :: c :: rest) =
    (unescapePlain? c).bind fun d => (readPlain rest).map fun p => (d :: p.1, p.2) := by
  rw [readPlain]
  cases unescapePlain? c <;> cases readPlain rest <;> rfl

/-- What holds at the ends of a quoted text, and before one character or an escape when it holds
behind them, holds of every text. -/
theorem quoted_induction {motive : List Char → Prop} (nil : motive [])
    (quote : ∀ rest, motive ('"' :: rest)) (lone : motive ['\\'])
    (escape : ∀ c rest, motive rest → motive ('\\' :: c :: rest))
    (plain : ∀ c rest, c ≠ '"' → c ≠ '\\' → motive rest → motive (c :: rest)) (cs : List Char) :
    motive cs := by
  fun_induction closesQuote cs with
  | case1 => exact nil
  | case2 rest => exact quote rest
  | case3 => exact lone
  | case4 c rest ih => exact escape c rest ih
  | case5 c rest hquote hlone hback ih =>
    refine plain c rest hquote ?_ ih
    rintro rfl
    cases rest with
    | nil => exact hlone rfl rfl
    | cons d rest => exact hback d rest rfl rfl

/-! ### Escaped quotes -/

/-- How many backslashes stand at the end of a text. -/
def trailing (cs : List Char) : Nat := (cs.reverse.takeWhile (· == '\\')).length

/-- The text escapes what follows it. -/
def Escapes (cs : List Char) : Prop := Odd (trailing cs)

theorem trailing_le (cs : List Char) : trailing cs ≤ cs.length := by
  rw [← cs.length_reverse]
  exact (List.takeWhile_sublist _).length_le

theorem trailing_cons (c : Char) (cs : List Char) : trailing (c :: cs) =
    if trailing cs = cs.length then cs.length + (if c = '\\' then 1 else 0) else trailing cs := by
  have hrun : trailing (c :: cs) =
    (if trailing cs = cs.length then cs.reverse ++ [c].takeWhile (· == '\\')
      else cs.reverse.takeWhile (· == '\\')).length := by
    rw [trailing, List.reverse_cons, List.takeWhile_append, List.length_reverse, trailing]
  rw [hrun]
  split
  · by_cases hc : c = '\\' <;> simp [hc]
  · rfl

theorem escapes_plain {c : Char} (hc : c ≠ '\\') (cs : List Char) :
    Escapes (c :: cs) ↔ Escapes cs := by
  rw [Escapes, Escapes, trailing_cons, if_neg hc]
  split
  · next h => rw [h, Nat.add_zero]
  · rfl

/-- A backslash and the character that it takes escape nothing else. -/
theorem escapes_backslash (c : Char) (cs : List Char) : Escapes ('\\' :: c :: cs) ↔ Escapes cs := by
  have hle := trailing_le cs
  have hsame : trailing ('\\' :: c :: cs) = trailing cs ∨
    trailing ('\\' :: c :: cs) = trailing cs + 2 := by
    rw [trailing_cons, trailing_cons, List.length_cons]
    by_cases hall : trailing cs = cs.length
    · by_cases hc : c = '\\'
      · exact Or.inr (by simp [hall, hc])
      · exact Or.inl (by simp [hall, hc])
    · have hne : trailing cs ≠ cs.length + 1 := by omega
      exact Or.inl (by simp [hall, hne])
  rw [Escapes, Escapes]
  rcases hsame with h | h <;> rw [h]
  simp [Nat.odd_add, parity_simps]

/-- The character stands in the text where it is not escaped, with `behind` behind it. -/
def Unescaped (x : Char) (cs behind : List Char) : Prop :=
  ∃ before, cs = before ++ x :: behind ∧ ¬ Escapes before

theorem not_escapes_nil : ¬ Escapes [] := by
  simp [Escapes, trailing]

theorem not_unescaped_nil (x : Char) (behind : List Char) : ¬ Unescaped x [] behind := by
  rintro ⟨before, heq, -⟩
  simp at heq

/-- A character that stands first is not escaped, whatever it is. -/
theorem unescaped_head (x : Char) (behind : List Char) : Unescaped x (x :: behind) behind :=
  ⟨[], rfl, not_escapes_nil⟩

theorem unescaped_plain {c : Char} (hc : c ≠ '\\') (x : Char) (cs behind : List Char) :
    Unescaped x (c :: cs) behind ↔ c = x ∧ cs = behind ∨ Unescaped x cs behind := by
  constructor
  · rintro ⟨_ | ⟨d, before⟩, heq, hfree⟩
    · exact Or.inl (List.cons.inj heq)
    · obtain ⟨rfl, rfl⟩ := List.cons.inj heq
      exact Or.inr ⟨before, rfl, by rwa [escapes_plain hc] at hfree⟩
  · rintro (⟨rfl, rfl⟩ | ⟨before, rfl, hfree⟩)
    · exact unescaped_head _ _
    · exact ⟨c :: before, rfl, by rwa [escapes_plain hc]⟩

/-- Of a backslash and the character that it takes, only the backslash is not escaped. -/
theorem unescaped_backslash (x c : Char) (cs behind : List Char) :
    Unescaped x ('\\' :: c :: cs) behind ↔ x = '\\' ∧ c :: cs = behind ∨ Unescaped x cs behind := by
  constructor
  · rintro ⟨_ | ⟨d, _ | ⟨e, before⟩⟩, heq, hfree⟩
    · obtain ⟨rfl, rfl⟩ := List.cons.inj heq
      exact Or.inl ⟨rfl, rfl⟩
    · -- the backslash would have taken the character
      obtain ⟨rfl, -⟩ := List.cons.inj heq
      exact absurd (by simp [Escapes, trailing]) hfree
    · simp only [List.cons_append, List.cons.injEq] at heq
      obtain ⟨rfl, rfl, rfl⟩ := heq
      exact Or.inr ⟨before, rfl, by rwa [escapes_backslash] at hfree⟩
  · rintro (⟨rfl, rfl⟩ | ⟨before, rfl, hfree⟩)
    · exact unescaped_head _ _
    · exact ⟨'\\' :: c :: before, rfl, by rwa [escapes_backslash]⟩

theorem not_unescaped_quote_lone (behind : List Char) : ¬ Unescaped '"' ['\\'] behind := by
  rintro ⟨_ | ⟨c, before⟩, heq, -⟩ <;> simp at heq

/-- **The scan for a closing quote finds the quotes that are not escaped.** -/
theorem closesQuote_iff_unescaped (cs : List Char) :
    closesQuote cs = true ↔ ∃ behind, Unescaped '"' cs behind := by
  induction cs using quoted_induction with
  | nil => simp [closesQuote, not_unescaped_nil]
  | quote rest =>
    simp only [closesQuote, true_iff]
    exact ⟨rest, unescaped_head _ _⟩
  | lone => simp [closesQuote, not_unescaped_quote_lone]
  | escape c rest ih => simp [closesQuote_backslash, ih, unescaped_backslash]
  | plain c rest hquote hback ih =>
    simp [closesQuote_plain hquote hback, ih, unescaped_plain hback, hquote]

theorem closesQuote_iff (cs : List Char) :
    closesQuote cs = true ↔ ∃ before behind, cs = before ++ '"' :: behind ∧ ¬ Escapes before := by
  rw [closesQuote_iff_unescaped, exists_comm]
  rfl

/-! ### More text -/

theorem closesQuote_append {cs : List Char} (h : closesQuote cs = true) (s : List Char) :
    closesQuote (cs ++ s) = true := by
  obtain ⟨before, behind, rfl, hfree⟩ := (closesQuote_iff cs).1 h
  exact (closesQuote_iff _).2 ⟨before, behind ++ s, by simp, hfree⟩

theorem not_closesQuote_append {cs s : List Char} (h : closesQuote cs = false) (hs : '"' ∉ s) :
    closesQuote (cs ++ s) = false := by
  by_contra hcloses
  obtain ⟨before, behind, heq, hfree⟩ := (closesQuote_iff _).1 (by simpa using hcloses)
  rcases List.append_eq_append_iff.1 heq with ⟨tail, -, rfl⟩ | ⟨tail, rfl, htail⟩
  · exact hs (by simp)
  · cases tail with
    | nil => exact hs (by rw [List.nil_append] at htail; rw [← htail]; simp)
    | cons c tail =>
      obtain ⟨rfl, rfl⟩ := List.cons.inj htail
      rw [(closesQuote_iff _).2 ⟨before, tail, rfl, hfree⟩] at h
      cases h

theorem closesQuote_of_readPlain {cs : List Char} (h : (readPlain cs).isSome = true) :
    closesQuote cs = true := by
  induction cs using quoted_induction with
  | nil => cases h
  | quote rest => rfl
  | lone => cases h
  | escape c rest ih =>
    rw [readPlain_backslash] at h
    rw [closesQuote_backslash]
    cases hd : unescapePlain? c with
    | none => simp [hd] at h
    | some d => exact ih (by simpa [hd] using h)
  | plain c rest hquote hback ih =>
    rw [readPlain_plain hquote hback] at h
    rw [closesQuote_plain hquote hback]
    exact ih (by simpa using h)

/-- A quoted text that closes but holds an unknown escape stays so. -/
theorem readPlain_append_eq_none {cs : List Char} (hcloses : closesQuote cs = true)
    (h : readPlain cs = none) (s : List Char) : readPlain (cs ++ s) = none := by
  induction cs using quoted_induction with
  | nil => cases hcloses
  | quote rest => cases h
  | lone => cases hcloses
  | escape c rest ih =>
    rw [closesQuote_backslash] at hcloses
    rw [readPlain_backslash] at h
    rw [List.cons_append, List.cons_append, readPlain_backslash]
    cases hd : unescapePlain? c with
    | none => rfl
    | some d =>
      rw [hd] at h
      simp [ih hcloses (by simpa using h)]
  | plain c rest hquote hback ih =>
    rw [closesQuote_plain hquote hback] at hcloses
    rw [readPlain_plain hquote hback] at h
    rw [List.cons_append, readPlain_plain hquote hback, ih hcloses (by simpa using h)]
    rfl

end Companion.Text
