import Mathlib
import Companion.Proofs.Directive.Faults
import Companion.Proofs.Text.Quotes

/-! Quoted values.

A quoted value is looked at twice: `readPlain` reads it and stops at the first thing that is wrong,
and where it gives nothing, `closesQuote` decides between the two errors. The two go through the
text differently, and this module says what they make of it together. `ClosesAt` cuts the text
behind an opening quote at the first quote that is not escaped. What stands before the cut is a text
of the grammar unless it holds an escape that is none (`quotedText_iff`), so every text ends its
value in exactly one of three ways (`existsUnique_quoteEnd`), and these are the three answers of the
reader (`readValue_quoted`). -/
namespace Companion.Directive
open Text

/-! ### The quote that closes -/

/-- The text is cut at its first quote that is not escaped. -/
structure ClosesAt (cs before behind : List Char) : Prop where
  cut : cs = before ++ '"' :: behind
  free : ¬ Escapes before
  first : ∀ back, ¬ Unescaped '"' before back

namespace ClosesAt

variable {cs before behind before' behind' : List Char}

theorem quote (rest : List Char) : ClosesAt ('"' :: rest) [] rest :=
  ⟨rfl, not_escapes_nil, not_unescaped_nil '"'⟩

theorem escape (h : ClosesAt cs before behind) (c : Char) :
    ClosesAt ('\\' :: c :: cs) ('\\' :: c :: before) behind where
  cut := by rw [h.cut]; rfl
  free := by rw [escapes_backslash]; exact h.free
  first back := by simp [unescaped_backslash, h.first]

theorem plain (h : ClosesAt cs before behind) {c : Char} (hquote : c ≠ '"') (hback : c ≠ '\\') :
    ClosesAt (c :: cs) (c :: before) behind where
  cut := by rw [h.cut]; rfl
  free := by rw [escapes_plain hback]; exact h.free
  first back := by simp [unescaped_plain hback, hquote, h.first]

theorem unescaped (h : ClosesAt cs before behind) : Unescaped '"' cs behind :=
  ⟨before, h.cut, h.free⟩

/-- Of two cuts the later one would have an earlier quote before it. -/
theorem unique (h : ClosesAt cs before behind) (h' : ClosesAt cs before' behind') :
    before = before' := by
  rcases List.append_eq_append_iff.1 (h.cut.symm.trans h'.cut) with
    ⟨tail, rfl, htail⟩ | ⟨tail, rfl, htail⟩
  · cases tail with
    | nil => simp
    | cons c tail =>
      obtain ⟨rfl, -⟩ := List.cons.inj htail
      exact absurd ⟨before, rfl, h.free⟩ (h'.first tail)
  · cases tail with
    | nil => simp
    | cons c tail =>
      obtain ⟨rfl, -⟩ := List.cons.inj htail
      exact absurd ⟨before', rfl, h'.free⟩ (h.first tail)

end ClosesAt

theorem exists_closesAt {cs : List Char} (h : closesQuote cs = true) :
    ∃ before behind, ClosesAt cs before behind := by
  induction cs using quoted_induction with
  | nil => cases h
  | quote rest => exact ⟨[], rest, ClosesAt.quote rest⟩
  | lone => cases h
  | escape c rest ih =>
    obtain ⟨before, behind, hcut⟩ := ih (by rwa [closesQuote_backslash] at h)
    exact ⟨_, behind, hcut.escape c⟩
  | plain c rest hquote hback ih =>
    obtain ⟨before, behind, hcut⟩ := ih (by rwa [closesQuote_plain hquote hback] at h)
    exact ⟨_, behind, hcut.plain hquote hback⟩

/-! ### Escapes that are none -/

/-- The text holds a backslash that is not escaped, and the character that it takes makes no escape
with it. -/
def Misspelled (cs : List Char) : Prop :=
  ∃ c behind, Unescaped '\\' cs (c :: behind) ∧ ∀ d, ¬ Escape c d

theorem not_misspelled_nil : ¬ Misspelled [] := by
  rintro ⟨c, behind, hstands, -⟩
  exact not_unescaped_nil _ _ hstands

theorem misspelled_backslash (c : Char) (cs : List Char) :
    Misspelled ('\\' :: c :: cs) ↔ (∀ d, ¬ Escape c d) ∨ Misspelled cs := by
  simp [Misspelled, unescaped_backslash, or_and_right, exists_or, and_assoc]

theorem misspelled_plain {c : Char} (hc : c ≠ '\\') (cs : List Char) :
    Misspelled (c :: cs) ↔ Misspelled cs := by
  simp [Misspelled, unescaped_plain hc, hc]

theorem quotedText_backslash {c : Char} {cs : List Char} :
    (∃ s, QuotedText ('\\' :: c :: cs) s) ↔ (∃ d, Escape c d) ∧ ∃ s, QuotedText cs s := by
  constructor
  · rintro ⟨s, h⟩
    cases h with
    | plain _ hback _ => exact absurd rfl hback
    | escape he htail => exact ⟨⟨_, he⟩, _, htail⟩
  · rintro ⟨⟨d, he⟩, s, h⟩
    exact ⟨d :: s, .escape he h⟩

theorem quotedText_plain {c : Char} (hquote : c ≠ '"') (hback : c ≠ '\\') {cs : List Char} :
    (∃ s, QuotedText (c :: cs) s) ↔ ∃ s, QuotedText cs s := by
  constructor
  · rintro ⟨s, h⟩
    cases h with
    | plain _ _ htail => exact ⟨_, htail⟩
    | escape _ _ => exact absurd rfl hback
  · rintro ⟨s, h⟩
    exact ⟨c :: s, .plain hquote hback h⟩

/-- **A text can stand between quotes when nothing in it closes them, it leaves no escape open, and
all its escapes are escapes.** -/
theorem quotedText_iff (cs : List Char) : (∃ s, QuotedText cs s) ↔
    (∀ back, ¬ Unescaped '"' cs back) ∧ ¬ Escapes cs ∧ ¬ Misspelled cs := by
  induction cs using quoted_induction with
  | nil =>
    refine iff_of_true ⟨[], .nil⟩ ⟨not_unescaped_nil '"', not_escapes_nil, not_misspelled_nil⟩
  | quote rest =>
    refine iff_of_false ?_ fun h => h.1 rest (unescaped_head _ _)
    rintro ⟨s, h⟩
    cases h with
    | plain hquote _ _ => exact hquote rfl
  | lone =>
    refine iff_of_false ?_ fun h => h.2.1 (by simp [Escapes, trailing])
    rintro ⟨s, h⟩
    cases h with
    | plain _ hback _ => exact hback rfl
  | escape c rest ih =>
    simp only [quotedText_backslash, ih, unescaped_backslash, escapes_backslash,
      misspelled_backslash]
    simp [and_left_comm]
  | plain c rest hquote hback ih =>
    rw [quotedText_plain hquote hback, ih]
    simp only [unescaped_plain hback, escapes_plain hback, misspelled_plain hback, hquote,
      false_and, false_or]

theorem QuotedText.closesAt {cs s : List Char} (h : QuotedText cs s) (rest : List Char) :
    ClosesAt (cs ++ '"' :: rest) cs rest := by
  obtain ⟨hfirst, hfree, -⟩ := (quotedText_iff cs).1 ⟨s, h⟩
  exact ⟨rfl, hfree, hfirst⟩

/-! ### Three ways to end -/

/-- How a quoted value may end. -/
inductive QuoteEnd where
  | closed
  | unterminated
  | misspelled

/-- What stands behind the opening quote of a value that ends this way. -/
def QuoteEnd.Of (body : List Char) : QuoteEnd → Prop
  | .closed => ∃ e s rest, body = e ++ '"' :: rest ∧ QuotedText e s
  | .unterminated => ∀ rest, ¬ Unescaped '"' body rest
  | .misspelled => ∃ before behind, ClosesAt body before behind ∧ Misspelled before

theorem of_closed_iff {body before behind : List Char} (h : ClosesAt body before behind) :
    QuoteEnd.closed.Of body ↔ ¬ Misspelled before := by
  constructor
  · rintro ⟨e, s, rest, rfl, hquoted⟩
    obtain rfl := h.unique (hquoted.closesAt rest)
    exact ((quotedText_iff before).1 ⟨s, hquoted⟩).2.2
  · intro hspelled
    obtain ⟨s, hquoted⟩ := (quotedText_iff before).2 ⟨h.first, h.free, hspelled⟩
    exact ⟨before, s, behind, h.cut, hquoted⟩

theorem of_misspelled_iff {body before behind : List Char} (h : ClosesAt body before behind) :
    QuoteEnd.misspelled.Of body ↔ Misspelled before := by
  constructor
  · rintro ⟨before', behind', h', hmisspelled⟩
    rwa [h.unique h']
  · intro hmisspelled
    exact ⟨before, behind, h, hmisspelled⟩

theorem of_unterminated_iff (body : List Char) :
    QuoteEnd.unterminated.Of body ↔ closesQuote body = false := by
  rw [← Bool.not_eq_true, closesQuote_iff_unescaped, not_exists]
  rfl

theorem existsUnique_quoteEnd (body : List Char) : ∃! ending : QuoteEnd, ending.Of body := by
  by_cases hcloses : closesQuote body = true
  · obtain ⟨before, behind, hcut⟩ := exists_closesAt hcloses
    have hends : ¬ QuoteEnd.unterminated.Of body := fun h => h behind hcut.unescaped
    by_cases hmisspelled : Misspelled before
    · refine ⟨.misspelled, (of_misspelled_iff hcut).2 hmisspelled, ?_⟩
      rintro (_ | _ | _) h
      · exact absurd hmisspelled ((of_closed_iff hcut).1 h)
      · exact absurd h hends
      · rfl
    · refine ⟨.closed, (of_closed_iff hcut).2 hmisspelled, ?_⟩
      rintro (_ | _ | _) h
      · rfl
      · exact absurd h hends
      · exact absurd ((of_misspelled_iff hcut).1 h) hmisspelled
  · have hopen := (of_unterminated_iff body).2 (by simpa using hcloses)
    refine ⟨.unterminated, hopen, ?_⟩
    rintro (_ | _ | _) h
    · obtain ⟨e, s, rest, rfl, hquoted⟩ := h
      exact absurd (hquoted.closesAt rest).unescaped (hopen rest)
    · rfl
    · obtain ⟨before, behind, hcut, -⟩ := h
      exact absurd hcut.unescaped (hopen behind)

/-! ### The two scans together -/

theorem readPlain_eq_none {body : List Char} (h : ¬ QuoteEnd.closed.Of body) :
    readPlain body = none := by
  by_contra hsome
  obtain ⟨⟨s, rest⟩, hread⟩ := Option.ne_none_iff_exists'.1 hsome
  obtain ⟨e, hquoted, hcut⟩ := readPlain_sound hread
  exact h ⟨e, s, rest, hcut, hquoted⟩

theorem readValue_of_unterminated {body : List Char} (h : QuoteEnd.unterminated.Of body) :
    readValue ('"' :: body) = .error (.unterminated ('"' :: body)) := by
  have hread := readPlain_eq_none fun hclosed =>
    nomatch (existsUnique_quoteEnd body).unique h hclosed
  simp [readValue, hread, (of_unterminated_iff body).1 h]

theorem readValue_of_misspelled {body : List Char} (h : QuoteEnd.misspelled.Of body) :
    readValue ('"' :: body) = .error (.missing .validEscapes ('"' :: body)) := by
  have hread := readPlain_eq_none fun hclosed =>
    nomatch (existsUnique_quoteEnd body).unique h hclosed
  have hcloses : closesQuote body = true := by
    obtain ⟨before, behind, hcut, -⟩ := h
    exact (closesQuote_iff_unescaped body).2 ⟨behind, hcut.unescaped⟩
  simp [readValue, hread, hcloses]

/-- The value at a place of a text, or the error of the text. -/
def valueIn (text : List Char) (directive : String) (rest : List Char) :
    Except ReadError (Scalar × List Char) :=
  (readValue rest).mapError fun fault => .ofFailure text ⟨directive, fault⟩

variable (directive : String) (front : List Char) {body : List Char}

theorem valueIn_of_closed {e s rest : List Char} (hcut : body = e ++ '"' :: rest)
    (hquoted : QuotedText e s) :
    valueIn (front ++ '"' :: body) directive ('"' :: body) =
      .ok (.text (String.ofList s), rest) := by
  rw [valueIn, hcut, readValue_quote_of_some (readPlain_complete hquoted rest)]
  rfl

theorem valueIn_of_unterminated (h : QuoteEnd.unterminated.Of body) :
    valueIn (front ++ '"' :: body) directive ('"' :: body) =
      .error (.unterminatedString directive (byteSize front)) := by
  have hoffset : byteSize front = byteSize (front ++ '"' :: body) - byteSize ('"' :: body) := by
    rw [byteSize_append, Nat.add_sub_cancel]
  rw [valueIn, readValue_of_unterminated h, hoffset]
  rfl

theorem valueIn_of_misspelled (h : QuoteEnd.misspelled.Of body) :
    valueIn (front ++ '"' :: body) directive ('"' :: body) =
      .error
        (.malformed directive (byteSize front) .validEscapes
          (String.ofList (('"' :: body).take 16))) := by
  have hoffset : byteSize front = byteSize (front ++ '"' :: body) - byteSize ('"' :: body) := by
    rw [byteSize_append, Nat.add_sub_cancel]
  rw [valueIn, readValue_of_misspelled h, hoffset]
  rfl

/-- The reader's answer tells how the value ends. -/
theorem valueIn_cases (body : List Char) :
    (∃ e s rest, body = e ++ '"' :: rest ∧ QuotedText e s ∧
      valueIn (front ++ '"' :: body) directive ('"' :: body) =
        .ok (.text (String.ofList s), rest)) ∨
    (QuoteEnd.unterminated.Of body ∧ valueIn (front ++ '"' :: body) directive ('"' :: body) =
      .error (.unterminatedString directive (byteSize front))) ∨
    (QuoteEnd.misspelled.Of body ∧ valueIn (front ++ '"' :: body) directive ('"' :: body) =
      .error
        (.malformed directive (byteSize front) .validEscapes
          (String.ofList (('"' :: body).take 16)))) := by
  obtain ⟨ending, h, -⟩ := existsUnique_quoteEnd body
  cases ending with
  | closed =>
    obtain ⟨e, s, rest, hcut, hquoted⟩ := h
    exact Or.inl ⟨e, s, rest, hcut, hquoted, valueIn_of_closed directive front hcut hquoted⟩
  | unterminated => exact Or.inr (Or.inl ⟨h, valueIn_of_unterminated directive front h⟩)
  | misspelled => exact Or.inr (Or.inr ⟨h, valueIn_of_misspelled directive front h⟩)

/-- **A quoted value is read, is unterminated or is misspelled, by what stands behind its opening
quote.** It is read, and the reader stops behind its closing quote, when the text in front of that
is of the grammar. It is unterminated when no quote in it is unescaped, and malformed when the first
such quote stands behind an escape that is none. Exactly one of these is so. -/
theorem readValue_quoted (body : List Char) :
    (∀ v rest, valueIn (front ++ '"' :: body) directive ('"' :: body) = .ok (v, rest) ↔
      ∃ e s, body = e ++ '"' :: rest ∧ QuotedText e s ∧ v = .text (String.ofList s)) ∧
    (∀ d offset, valueIn (front ++ '"' :: body) directive ('"' :: body) =
      .error (.unterminatedString d offset) ↔
      d = directive ∧ offset = byteSize front ∧ ∀ rest, ¬ Unescaped '"' body rest) ∧
    (∀ d offset expected found,
      valueIn (front ++ '"' :: body) directive ('"' :: body) =
        .error (.malformed d offset expected found) ↔
        d = directive ∧ offset = byteSize front ∧ expected = .validEscapes ∧
        expected.text = "string with valid escapes" ∧
        found = String.ofList (('"' :: body).take 16) ∧
        ∃ before behind, ClosesAt body before behind ∧ Misspelled before) ∧
    ∃! ending : QuoteEnd, ending.Of body := by
  refine ⟨fun v rest => ⟨fun h => ?_, ?_⟩, fun d offset => ⟨fun h => ?_, ?_⟩,
    fun d offset expected found => ⟨fun h => ?_, ?_⟩, existsUnique_quoteEnd body⟩
  · rcases valueIn_cases directive front body with
      ⟨e, s, rest', hcut, hquoted, hvalue⟩ | ⟨-, hvalue⟩ | ⟨-, hvalue⟩
    · rw [hvalue] at h
      obtain ⟨rfl, rfl⟩ := Prod.mk.inj (Except.ok.inj h)
      exact ⟨e, s, hcut, hquoted, rfl⟩
    · cases hvalue.symm.trans h
    · cases hvalue.symm.trans h
  · rintro ⟨e, s, hcut, hquoted, rfl⟩
    exact valueIn_of_closed directive front hcut hquoted
  · rcases valueIn_cases directive front body with
      ⟨_, _, _, _, _, hvalue⟩ | ⟨hopen, hvalue⟩ | ⟨-, hvalue⟩
    · cases hvalue.symm.trans h
    · rw [hvalue] at h
      obtain ⟨rfl, rfl⟩ := ReadError.unterminatedString.inj (Except.error.inj h)
      exact ⟨rfl, rfl, hopen⟩
    · cases hvalue.symm.trans h
  · rintro ⟨rfl, rfl, hopen⟩
    exact valueIn_of_unterminated _ front hopen
  · rcases valueIn_cases directive front body with
      ⟨_, _, _, _, _, hvalue⟩ | ⟨-, hvalue⟩ | ⟨hmisspelled, hvalue⟩
    · cases hvalue.symm.trans h
    · cases hvalue.symm.trans h
    · rw [hvalue] at h
      obtain ⟨rfl, rfl, rfl, rfl⟩ := ReadError.malformed.inj (Except.error.inj h)
      exact ⟨rfl, rfl, rfl, rfl, rfl, hmisspelled⟩
  · rintro ⟨rfl, rfl, rfl, -, rfl, hmisspelled⟩
    exact valueIn_of_misspelled _ front hmisspelled

end Companion.Directive
