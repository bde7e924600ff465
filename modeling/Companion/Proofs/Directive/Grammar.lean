import Mathlib
import Companion.Proofs.Text.Classes

/-! The grammar of directives, said without the reader.

A directive is a name, an opening parenthesis, arguments and a closing parenthesis; an argument is a
name, an equals sign and a value; blanks may stand between the parts, except before the opening
parenthesis. A value is a text between double quotes, with five escapes, or a run of bare
characters, which may be empty. Arguments are divided by commas, and one comma may follow the last.

`read_eq_ok_iff`: the reader takes exactly the directives of this grammar off the front of a text,
and gives what they denote. Each rule has its two halves, `_complete` and `_sound`. -/
namespace Companion.Directive
open Text

/-! ### The grammar -/

/-- A name: a character that may start one, and then characters that may continue it. -/
def IsName (cs : List Char) : Prop :=
  ∃ c rest, cs = c :: rest ∧ isNameStart c = true ∧ ∀ d ∈ rest, isNameContinue d = true

/-- A text is a name when its first character and the others are of the right classes. -/
theorem isName_iff (cs : List Char) :
    (cs.head?.any isNameStart && cs.tail.all isNameContinue) = true ↔ IsName cs := by
  cases cs with
  | nil => simp [IsName]
  | cons c cs => simp [IsName]

instance (cs : List Char) : Decidable (IsName cs) := decidable_of_iff _ (isName_iff cs)

/-- The letter of an escape, and the character that it stands for. -/
inductive Escape : Char → Char → Prop where
  | quote : Escape '"' '"'
  | backslash : Escape '\\' '\\'
  | newline : Escape 'n' '\n'
  | tab : Escape 't' '\t'
  | carriageReturn : Escape 'r' '\r'

/-- What stands between double quotes, and the text that it denotes. -/
inductive QuotedText : List Char → List Char → Prop where
  | nil : QuotedText [] []
  | plain {c : Char} {cs s : List Char} : c ≠ '"' → c ≠ '\\' → QuotedText cs s →
      QuotedText (c :: cs) (c :: s)
  | escape {c d : Char} {cs s : List Char} : Escape c d → QuotedText cs s →
      QuotedText ('\\' :: c :: cs) (d :: s)

/-- A value in a text, and what it denotes. -/
inductive ValueText : List Char → Scalar → Prop where
  | quoted {cs s : List Char} : QuotedText cs s →
      ValueText ('"' :: cs ++ ['"']) (.text (String.ofList s))
  | bare {cs : List Char} : (∀ c ∈ cs, isBare c = true) → ValueText cs (Scalar.classify cs)

/-- An argument: `name = value`. -/
inductive ArgumentText : List Char → Argument → Prop where
  | mk {name before behind value : List Char} {v : Scalar} : IsName name → Blanks before →
      Blanks behind → ValueText value v →
      ArgumentText (name ++ before ++ '=' :: behind ++ value) ⟨String.ofList name, v⟩

/-- The arguments between the parentheses, behind the blanks in front of them. -/
inductive ArgumentsText : List Char → List Argument → Prop where
  | nil : ArgumentsText [] []
  | last {cs blanks : List Char} {a : Argument} : ArgumentText cs a → Blanks blanks →
      ArgumentsText (cs ++ blanks) [a]
  | cons {cs before behind rest : List Char} {a : Argument} {as : List Argument} :
      ArgumentText cs a → Blanks before → Blanks behind → ArgumentsText rest as →
      ArgumentsText (cs ++ before ++ ',' :: behind ++ rest) (a :: as)

/-- A directive: `name(arguments)`. -/
inductive DirectiveText : List Char → Directive → Prop where
  | mk {name blanks args : List Char} {as : List Argument} : IsName name → Blanks blanks →
      ArgumentsText args as →
      DirectiveText (name ++ '(' :: blanks ++ args ++ [')']) ⟨String.ofList name, as⟩

/-! ### Names -/

theorem readName_complete {name rest : List Char} (h : IsName name)
    (hrest : Stops isNameContinue rest) :
    readName (name ++ rest) = some (name, rest) := by
  obtain ⟨c, cs, rfl, hc, hcs⟩ := h
  simp [readName, hc, takeWhile_append_stops hcs hrest, dropWhile_append_stops hcs hrest]

theorem readName_sound {cs name rest : List Char} (h : readName cs = some (name, rest)) :
    IsName name ∧ cs = name ++ rest := by
  cases cs with
  | nil => simp [readName] at h
  | cons c cs =>
    simp only [readName] at h
    split at h
    · rename_i hc
      obtain ⟨rfl, rfl⟩ := Prod.mk.inj (Option.some.inj h)
      refine ⟨⟨c, _, rfl, hc, fun d hd => List.mem_takeWhile_imp hd⟩, ?_⟩
      rw [List.cons_append, List.takeWhile_append_dropWhile]
    · simp at h

theorem IsName.not_blank {name : List Char} (h : IsName name) (rest : List Char) :
    Stops isBlank (name ++ rest) := by
  obtain ⟨c, cs, rfl, hc, -⟩ := h
  exact stops_cons (not_blank_of_isNameStart hc) _

/-! ### Quoted texts -/

theorem unescapePlain_eq_some_iff {c d : Char} : unescapePlain? c = some d ↔ Escape c d := by
  constructor
  · intro h
    unfold unescapePlain? at h
    split at h
    · next hc => obtain rfl := Option.some.inj h; subst hc; exact .quote
    split at h
    · next hc => obtain rfl := Option.some.inj h; subst hc; exact .backslash
    split at h
    · next hc => obtain rfl := Option.some.inj h; subst hc; exact .newline
    split at h
    · next hc => obtain rfl := Option.some.inj h; subst hc; exact .tab
    split at h
    · next hc => obtain rfl := Option.some.inj h; subst hc; exact .carriageReturn
    · simp at h
  · intro h
    cases h <;> rfl

theorem readPlain_complete {cs s : List Char} (h : QuotedText cs s) (rest : List Char) :
    readPlain (cs ++ '"' :: rest) = some (s, rest) := by
  induction h with
  | nil => rfl
  | plain hq hb _ ih =>
    rw [List.cons_append, readPlain]
    · rw [ih]
    · intro h; exact hq h
    · intro h _; exact hb h
    · intro _ _ h _; exact hb h
  | escape he _ ih =>
    rw [List.cons_append, List.cons_append, readPlain, ih, unescapePlain_eq_some_iff.2 he]

theorem readPlain_sound {cs s rest : List Char} (h : readPlain cs = some (s, rest)) :
    ∃ body, QuotedText body s ∧ cs = body ++ '"' :: rest := by
  fun_induction readPlain cs generalizing s rest with
  | case1 => simp at h
  | case2 tail =>
    obtain ⟨rfl, rfl⟩ := Prod.mk.inj (Option.some.inj h)
    exact ⟨[], .nil, rfl⟩
  | case3 => simp at h
  | case4 c tail d s' rest' hs hd ih =>
    obtain ⟨rfl, rfl⟩ := Prod.mk.inj (Option.some.inj h)
    obtain ⟨body, hbody, rfl⟩ := ih hs
    exact ⟨'\\' :: c :: body, .escape (unescapePlain_eq_some_iff.1 hd) hbody, rfl⟩
  | case5 => simp at h
  | case6 c tail hq hlone hb s' rest' hs ih =>
    obtain ⟨rfl, rfl⟩ := Prod.mk.inj (Option.some.inj h)
    obtain ⟨body, hbody, rfl⟩ := ih hs
    have hc : c ≠ '\\' := by
      intro hc
      cases body with
      | nil => exact hb _ _ hc rfl
      | cons d body => exact hb _ _ hc rfl
    exact ⟨c :: body, .plain hq hc hbody, rfl⟩
  | case7 => simp at h

/-! ### Values -/

theorem readValue_complete {value rest : List Char} {v : Scalar} (h : ValueText value v)
    (hrest : Stops isBare rest) (hquote : rest.head? ≠ some '"') :
    readValue (value ++ rest) = .ok (v, rest) := by
  cases h with
  | quoted hs =>
    have hread := readPlain_complete hs rest
    simp [readValue, hread]
  | bare hbare =>
    -- the first character, if there is one, is no quote
    have hhead : (value ++ rest).head? ≠ some '"' := by
      cases value with
      | nil => exact hquote
      | cons c cs =>
        intro hc
        obtain rfl : c = '"' := by simpa using hc
        have := hbare '"' List.mem_cons_self
        simp [isBare] at this
    unfold readValue
    split
    · rename_i body heq
      rw [heq] at hhead
      exact absurd rfl hhead
    · rw [takeWhile_append_stops hbare hrest, dropWhile_append_stops hbare hrest]

theorem readValue_sound {cs rest : List Char} {v : Scalar} (h : readValue cs = .ok (v, rest)) :
    ∃ value, ValueText value v ∧ cs = value ++ rest := by
  unfold readValue at h
  split at h
  · next body =>
    split at h
    · next s rest' hs =>
      obtain ⟨rfl, rfl⟩ := Prod.mk.inj (Except.ok.inj h)
      obtain ⟨quoted, hquoted, rfl⟩ := readPlain_sound hs
      exact ⟨'"' :: quoted ++ ['"'], .quoted hquoted, by simp⟩
    · split at h <;> simp at h
  · obtain ⟨rfl, rfl⟩ := Prod.mk.inj (Except.ok.inj h)
    exact ⟨cs.takeWhile isBare, .bare fun c hc => List.mem_takeWhile_imp hc,
      List.takeWhile_append_dropWhile.symm⟩

/-! ### Arguments -/

/-- A comma or the closing parenthesis, which ends an argument. -/
inductive EndsArgument : List Char → Prop where
  | comma (rest : List Char) : EndsArgument (',' :: rest)
  | close (rest : List Char) : EndsArgument (')' :: rest)

theorem EndsArgument.not_blank {cs : List Char} (h : EndsArgument cs) : Stops isBlank cs := by
  cases h with
  | comma rest => exact stops_cons (by decide) rest
  | close rest => exact stops_cons (by decide) rest

theorem EndsArgument.not_bare {cs : List Char} (h : EndsArgument cs) : Stops isBare cs := by
  cases h with
  | comma rest => exact stops_cons (by decide) rest
  | close rest => exact stops_cons (by decide) rest

theorem EndsArgument.not_quote {cs : List Char} (h : EndsArgument cs) : cs.head? ≠ some '"' := by
  cases h <;> simp

theorem not_bare_of_blank {c : Char} (h : isBlank c = true) : isBare c = false := by
  simp [isBare, h]

/-- Blanks and then the end of an argument stop a value. -/
theorem blanks_stop_value {blanks rest : List Char} (hb : Blanks blanks)
    (hrest : EndsArgument rest) :
    Stops isBare (blanks ++ rest) ∧ (blanks ++ rest).head? ≠ some '"' := by
  cases blanks with
  | nil => exact ⟨hrest.not_bare, hrest.not_quote⟩
  | cons c cs =>
    have hc := hb c List.mem_cons_self
    refine ⟨stops_cons (not_bare_of_blank hc) _, ?_⟩
    intro h
    obtain rfl : c = '"' := by simpa using h
    exact absurd hc (by decide)

theorem blanks_stop_name {blanks : List Char} (hb : Blanks blanks) (rest : List Char) :
    Stops isNameContinue (blanks ++ '=' :: rest) := by
  cases blanks with
  | nil => exact stops_cons (by decide) rest
  | cons c cs => exact stops_cons (not_isNameContinue_of_blank (hb c List.mem_cons_self)) _

/-- A value that a blank could start is the empty one. -/
theorem ValueText.eq_nil {value rest : List Char} {v : Scalar} (h : ValueText value v)
    (hblank : ¬ Stops isBlank (value ++ rest)) : value = [] := by
  cases h with
  | quoted hs => exact absurd (stops_cons (by decide) _) hblank
  | bare hbare =>
    cases value with
    | nil => rfl
    | cons c cs =>
      have hc : isBlank c = false := by
        by_contra hc
        have hbare := hbare c List.mem_cons_self
        rw [not_bare_of_blank (by simpa using hc)] at hbare
        cases hbare
      exact absurd (stops_cons hc _) hblank

/-- An empty value gives the blanks behind it to the equals sign, so what is left is known up to
blanks. -/
theorem readValue_skipBlanks {behind value blanks rest : List Char} {v : Scalar}
    (hbehind : Blanks behind) (hvalue : ValueText value v) (hb : Blanks blanks)
    (hrest : EndsArgument rest) :
    ∃ left, readValue (skipBlanks (behind ++ (value ++ (blanks ++ rest)))) = .ok (v, left) ∧
      skipBlanks left = rest := by
  have hskip : skipBlanks (blanks ++ rest) = rest := by
    rw [skipBlanks_append hb]
    exact dropWhile_of_stops hrest.not_blank
  rw [skipBlanks_append hbehind]
  by_cases hblank : Stops isBlank (value ++ (blanks ++ rest))
  · obtain ⟨hstop, hquote⟩ := blanks_stop_value hb hrest
    rw [skipBlanks, dropWhile_of_stops hblank]
    exact ⟨_, readValue_complete hvalue hstop hquote, hskip⟩
  · obtain rfl := hvalue.eq_nil hblank
    refine ⟨rest, ?_, dropWhile_of_stops hrest.not_blank⟩
    rw [List.nil_append, hskip]
    exact readValue_complete hvalue hrest.not_bare hrest.not_quote

theorem readArgument_complete {cs blanks rest : List Char} {a : Argument} (h : ArgumentText cs a)
    (hb : Blanks blanks) (hrest : EndsArgument rest) :
    ∃ left, readArgument (cs ++ blanks ++ rest) = .ok (a, left) ∧ skipBlanks left = rest := by
  obtain @⟨name, before, behind, value, v, hname, hbefore, hbehind, hvalue⟩ := h
  have hn : readName (name ++ (before ++ '=' :: (behind ++ (value ++ (blanks ++ rest))))) =
      some (name, before ++ '=' :: (behind ++ (value ++ (blanks ++ rest)))) :=
    readName_complete hname (blanks_stop_name hbefore _)
  have he : skipBlanks (before ++ '=' :: (behind ++ (value ++ (blanks ++ rest)))) =
      '=' :: (behind ++ (value ++ (blanks ++ rest))) := by
    rw [skipBlanks_append hbefore]
    exact dropWhile_of_stops (stops_cons (by decide) _)
  obtain ⟨left, hleft, hl⟩ := readValue_skipBlanks hbehind hvalue hb hrest
  refine ⟨left, ?_, hl⟩
  simp only [List.append_assoc, List.cons_append]
  unfold readArgument
  rw [hn]
  simp only [he, hleft]

theorem readArgument_sound {cs rest : List Char} {a : Argument}
    (h : readArgument cs = .ok (a, rest)) :
    ∃ arg, ArgumentText arg a ∧ cs = arg ++ rest := by
  unfold readArgument at h
  split at h
  · simp at h
  · next name afterName hname =>
    obtain ⟨hn, rfl⟩ := readName_sound hname
    obtain ⟨before, hbefore, hcut⟩ := exists_blanks afterName
    split at h
    · next afterEquals heq =>
      rw [heq] at hcut
      obtain ⟨behind, hbehind, hcut'⟩ := exists_blanks afterEquals
      split at h
      · next v rest' hv =>
        obtain ⟨rfl, rfl⟩ := Prod.mk.inj (Except.ok.inj h)
        obtain ⟨value, hvalue, hcut''⟩ := readValue_sound hv
        rw [hcut''] at hcut'
        refine ⟨name ++ before ++ '=' :: behind ++ value, .mk hn hbefore hbehind hvalue, ?_⟩
        rw [hcut, hcut']
        simp
      · simp at h
    · simp at h

/-- An argument starts with its name. -/
theorem ArgumentText.starts {cs : List Char} {a : Argument} (h : ArgumentText cs a)
    (rest : List Char) :
    ∃ c tail, cs ++ rest = c :: tail ∧ isNameStart c = true := by
  obtain @⟨name, before, behind, value, v, ⟨c, tail, rfl, hc, -⟩, -, -, -⟩ := h
  exact ⟨c, _, rfl, hc⟩

/-- How the arguments go on behind an argument and its blanks. -/
def afterArgument (a : Argument) : List Char → Except Fault (List Argument × List Char)
  | ',' :: rest => (readArguments rest).map fun (as, rest) => (a :: as, rest)
  | ')' :: rest => .ok ([a], rest)
  | rest => .error (.missing .separator rest)

theorem readArguments_of_argument {blanks cs behind rest : List Char} {a : Argument}
    (hblanks : Blanks blanks) (h : ArgumentText cs a) (hb : Blanks behind)
    (hrest : EndsArgument rest) :
    readArguments (blanks ++ (cs ++ (behind ++ rest))) = afterArgument a rest := by
  obtain ⟨left, hread, hleft⟩ := readArgument_complete h hb hrest
  rw [List.append_assoc] at hread
  obtain ⟨c, tail, hcs, hc⟩ := h.starts (behind ++ rest)
  have hskip : skipBlanks (blanks ++ (cs ++ (behind ++ rest))) = cs ++ (behind ++ rest) := by
    rw [skipBlanks_append hblanks, hcs]
    exact dropWhile_of_stops (stops_cons (not_blank_of_isNameStart hc) _)
  have hclose : c ≠ ')' := by
    rintro rfl
    exact absurd hc (by decide)
  rw [readArguments, hskip]
  split
  · next heq =>
    rw [hcs] at heq
    exact absurd (List.cons.inj heq).1 hclose
  · split
    · next heq => rw [hread] at heq; simp at heq
    · next a' left' heq =>
      rw [hread] at heq
      obtain ⟨rfl, rfl⟩ := Prod.mk.inj (Except.ok.inj heq)
      rw [← hleft]
      split
      · next rest' hcomma =>
        rw [hcomma, afterArgument]
        cases readArguments rest' <;> rfl
      · next hparen => rw [hparen, afterArgument]
      · next hcomma hparen => rw [afterArgument] <;> assumption

theorem readArguments_complete {args : List Char} {as : List Argument} (h : ArgumentsText args as)
    {blanks : List Char} (hblanks : Blanks blanks) (rest : List Char) :
    readArguments (blanks ++ (args ++ ')' :: rest)) = .ok (as, rest) := by
  induction h generalizing blanks with
  | nil =>
    have hskip : skipBlanks (blanks ++ ([] ++ ')' :: rest)) = ')' :: rest := by
      rw [skipBlanks_append hblanks]
      exact dropWhile_of_stops (stops_cons (by decide) _)
    rw [readArguments, hskip]
    rfl
  | last ha hb =>
    rw [List.append_assoc, readArguments_of_argument hblanks ha hb (.close rest)]
    rfl
  | @cons cs before behind tail a as ha hbefore hbehind _ ih =>
    have hcut : cs ++ before ++ ',' :: behind ++ tail ++ ')' :: rest =
        cs ++ (before ++ ',' :: (behind ++ (tail ++ ')' :: rest))) := by simp
    rw [hcut, readArguments_of_argument hblanks ha hbefore (.comma _), afterArgument, ih hbehind]
    rfl

theorem readArguments_sound {cs rest : List Char} {as : List Argument}
    (h : readArguments cs = .ok (as, rest)) :
    ∃ blanks args, Blanks blanks ∧ ArgumentsText args as ∧
      cs = blanks ++ (args ++ ')' :: rest) := by
  fun_induction readArguments cs generalizing as rest with
  | case1 cs tail hcs =>
    obtain ⟨rfl, rfl⟩ := Prod.mk.inj (Except.ok.inj h)
    obtain ⟨blanks, hblanks, hcut⟩ := exists_blanks cs
    rw [hcs] at hcut
    exact ⟨blanks, [], hblanks, .nil, hcut⟩
  | case2 => simp at h
  | case3 cs a rest' ha tail hr as' rest'' hrec _ ih =>
    obtain ⟨rfl, rfl⟩ := Prod.mk.inj (Except.ok.inj h)
    obtain ⟨blanks, hblanks, hcut⟩ := exists_blanks cs
    obtain ⟨arg, harg, hcut'⟩ := readArgument_sound ha
    obtain ⟨before, hbefore, hcut''⟩ := exists_blanks rest'
    obtain ⟨behind, args, hbehind, hargs, htail⟩ := ih hrec
    refine ⟨blanks, arg ++ before ++ ',' :: behind ++ args, hblanks,
      .cons harg hbefore hbehind hargs, ?_⟩
    rw [hcut, hcut', hcut'', hr, htail]
    simp
  | case4 => simp at h
  | case5 cs a rest' ha tail hr _ =>
    obtain ⟨rfl, rfl⟩ := Prod.mk.inj (Except.ok.inj h)
    obtain ⟨blanks, hblanks, hcut⟩ := exists_blanks cs
    obtain ⟨arg, harg, hcut'⟩ := readArgument_sound ha
    obtain ⟨before, hbefore, hcut''⟩ := exists_blanks rest'
    refine ⟨blanks, arg ++ before, hblanks, .last harg hbefore, ?_⟩
    rw [hcut, hcut', hcut'', hr]
    simp
  | case6 => simp at h

/-! ### Directives -/

theorem read_complete {cs : List Char} {d : Directive} (h : DirectiveText cs d) (rest : List Char) :
    read (cs ++ rest) = .ok (d, rest) := by
  obtain @⟨name, blanks, args, as, hname, hblanks, hargs⟩ := h
  have hn : readName (name ++ '(' :: (blanks ++ (args ++ ')' :: rest))) =
      some (name, '(' :: (blanks ++ (args ++ ')' :: rest))) :=
    readName_complete hname (stops_cons (by decide) _)
  have hcut : name ++ '(' :: blanks ++ args ++ [')'] ++ rest =
      name ++ '(' :: (blanks ++ (args ++ ')' :: rest)) := by simp
  rw [hcut, read, hn]
  simp only [readArguments_complete hargs hblanks rest]

theorem read_sound {cs rest : List Char} {d : Directive} (h : read cs = .ok (d, rest)) :
    ∃ text, DirectiveText text d ∧ cs = text ++ rest := by
  unfold read at h
  split at h
  · simp at h
  · next name tail hname =>
    obtain ⟨hn, rfl⟩ := readName_sound hname
    split at h
    · next as rest' ha =>
      obtain ⟨rfl, rfl⟩ := Prod.mk.inj (Except.ok.inj h)
      obtain ⟨blanks, args, hblanks, hargs, rfl⟩ := readArguments_sound ha
      exact ⟨name ++ '(' :: blanks ++ args ++ [')'], .mk hn hblanks hargs, by simp⟩
    · simp at h
  · simp at h

/-- **The reader takes exactly the directives of the grammar** off the front of a text. -/
theorem read_eq_ok_iff {cs rest : List Char} {d : Directive} :
    read cs = .ok (d, rest) ↔ ∃ text, DirectiveText text d ∧ cs = text ++ rest := by
  constructor
  · exact read_sound
  · rintro ⟨text, htext, rfl⟩
    exact read_complete htext rest

end Companion.Directive
