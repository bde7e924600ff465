import Mathlib
import Companion.Proofs.Directive.Progress

/-! What stands in front of a fault.

When a directive cannot be read to its end, the text up to the place of the fault is the start of
one: its name and parenthesis, whole arguments with their commas (`Opening`), and the part of an
argument behind which something is missing (`ArgumentFault`). `read_fault` gives these parts. A
marker has looked at the name and the equals sign of the first argument already, so neither of them
is what is missing there. -/
namespace Companion.Directive
open Text

/-- The text from the place of the fault on. -/
def Fault.rest : Fault → List Char
  | .missing _ rest => rest
  | .unterminated rest => rest

/-! ### The start of a directive -/

/-- What stands between the parenthesis and an argument: the arguments in front of it, each with its
comma, and blanks. -/
inductive Opening : List Char → List Argument → Prop where
  | blanks {blanks : List Char} : Blanks blanks → Opening blanks []
  | argument {blanks cs before front : List Char} {a : Argument} {as : List Argument} :
      Blanks blanks →
      ArgumentText cs a → Blanks before → Opening front as →
      Opening (blanks ++ cs ++ before ++ ',' :: front) (a :: as)

/-- What of an argument stands in front of a fault, and what is wrong behind it: no name starts, no
equals sign follows the name, a quoted value holds an unknown escape or does not end, or neither a
comma nor the closing parenthesis follows the argument. -/
inductive ArgumentFault : List Char → Fault → Prop where
  | name {rest : List Char} : Stops isBlank rest → Stops isNameStart rest → rest.head? ≠ some ')' →
      ArgumentFault [] (.missing .argumentName rest)
  | equals {name blanks rest : List Char} : IsName name → Blanks blanks →
      Stops isNameContinue (blanks ++ rest) →
      Stops isBlank rest → rest.head? ≠ some '=' →
        ArgumentFault (name ++ blanks) (.missing .equals rest)
  | escapes {name before behind body : List Char} : IsName name → Blanks before → Blanks behind →
      readPlain body = none → closesQuote body = true →
      ArgumentFault (name ++ before ++ '=' :: behind) (.missing .validEscapes ('"' :: body))
  | unterminated {name before behind body : List Char} : IsName name → Blanks before →
      Blanks behind →
      closesQuote body = false → ArgumentFault (name ++ before ++ '=' :: behind)
        (.unterminated ('"' :: body))
  | separator {cs blanks rest : List Char} {a : Argument} : ArgumentText cs a → Blanks blanks →
      rest.head? ≠ some ',' → rest.head? ≠ some ')' →
        ArgumentFault (cs ++ blanks) (.missing .separator rest)

/-! ### The reader step by step -/

theorem head?_ne_of_forall {cs : List Char} {c : Char} (h : ∀ tail, cs = c :: tail → False) :
    cs.head? ≠ some c := by
  intro hhead
  obtain ⟨tail, htail⟩ := List.head?_eq_some_iff.1 hhead
  exact h tail htail

theorem readValue_quote_of_some {body text rest : List Char}
    (h : readPlain body = some (text, rest)) :
    readValue ('"' :: body) = .ok (.text (String.ofList text), rest) := by
  simp [readValue, h]

theorem readValue_bare {cs : List Char} (h : cs.head? ≠ some '"') :
    readValue cs = .ok (Scalar.classify (cs.takeWhile isBare), cs.dropWhile isBare) := by
  unfold readValue
  split
  · exact absurd rfl h
  · rfl

theorem readArgument_of_value {cs name rest tail : List Char}
    (hname : readName cs = some (name, rest)) (hequals : skipBlanks rest = '=' :: tail) :
    readArgument cs =
      (readValue (skipBlanks tail)).map fun found => (⟨String.ofList name, found.1⟩, found.2) := by
  rw [readArgument, hname]
  simp only [hequals]
  cases readValue (skipBlanks tail) <;> rfl

theorem readArgument_of_name {cs name rest : List Char} (hname : readName cs = some (name, rest))
    (hequals : (skipBlanks rest).head? ≠ some '=') :
    readArgument cs = .error (.missing .equals (skipBlanks rest)) := by
  rw [readArgument, hname]
  simp only
  split
  · next tail htail => exact absurd (by rw [htail]; rfl) hequals
  · rfl

theorem readArguments_of_close {cs rest : List Char} (h : skipBlanks cs = ')' :: rest) :
    readArguments cs = .ok ([], rest) := by
  rw [readArguments, h]
  rfl

theorem readArguments_of_fault {cs : List Char} {fault : Fault}
    (hclose : (skipBlanks cs).head? ≠ some ')') (h : readArgument (skipBlanks cs) = .error fault) :
    readArguments cs = .error fault := by
  rw [readArguments]
  split
  · next rest hrest => exact absurd (by rw [hrest]; rfl) hclose
  · split
    · next fault' h' => rw [h] at h'; rw [Except.error.inj h']
    · next h' => rw [h] at h'; cases h'

theorem readArguments_of_ok {cs rest : List Char} {a : Argument}
    (hclose : (skipBlanks cs).head? ≠ some ')') (h : readArgument (skipBlanks cs) = .ok (a, rest)) :
    readArguments cs = afterArgument a (skipBlanks rest) := by
  rw [readArguments]
  split
  · next tail htail => exact absurd (by rw [htail]; rfl) hclose
  · split
    · next h' => rw [h] at h'; cases h'
    · next a' rest' h' =>
      rw [h] at h'
      obtain ⟨rfl, rfl⟩ := Prod.mk.inj (Except.ok.inj h')
      split
      · next tail htail =>
        rw [htail, afterArgument]
        cases readArguments tail <;> rfl
      · next tail htail => rw [htail, afterArgument]
      · next hcomma hparen => rw [afterArgument] <;> assumption

theorem afterArgument_of_ne {rest : List Char} (hcomma : rest.head? ≠ some ',')
    (hclose : rest.head? ≠ some ')') (a : Argument) :
    afterArgument a rest = .error (.missing .separator rest) := by
  rw [afterArgument]
  · rintro tail rfl
    exact hcomma rfl
  · rintro tail rfl
    exact hclose rfl

theorem exists_readName_of_marker {cs : List Char} (h : Marker cs) :
    ∃ name tail, readName cs = some (name, '(' :: tail) := by
  have hat := (atMarker_iff cs).2 h
  rw [atMarker] at hat
  split at hat
  · next name tail hname => exact ⟨name, tail, hname⟩
  · cases hat

theorem read_of_name {cs name tail : List Char} (h : readName cs = some (name, '(' :: tail)) :
    read cs =
      ((readArguments tail).map fun found => (⟨String.ofList name, found.1⟩, found.2)).mapError
      (Failure.mk (String.ofList name)) := by
  rw [read, h]
  simp only
  cases readArguments tail <;> rfl

/-! ### Faults of the reader -/

theorem readName_eq_none_iff {cs : List Char} : readName cs = none ↔ Stops isNameStart cs := by
  cases cs with
  | nil => simp [readName, stops_nil]
  | cons c cs =>
    rw [readName]
    constructor
    · intro h
      refine stops_cons ?_ cs
      cases hc : isNameStart c with
      | false => rfl
      | true => simp [hc] at h
    · intro h
      simp [h c rfl]

theorem readName_stops {cs name rest : List Char} (h : readName cs = some (name, rest)) :
    Stops isNameContinue rest := by
  cases cs with
  | nil => simp [readName] at h
  | cons c cs =>
    rw [readName] at h
    split at h
    · obtain ⟨-, rfl⟩ := Prod.mk.inj (Option.some.inj h)
      exact stops_dropWhile _ _
    · simp at h

theorem readValue_fault {cs : List Char} {fault : Fault} (h : readValue cs = .error fault) :
    ∃ body, cs = '"' :: body ∧
      (readPlain body = none ∧ closesQuote body = true ∧ fault = .missing .validEscapes cs ∨
      closesQuote body = false ∧ fault = .unterminated cs) := by
  unfold readValue at h
  split at h
  · next body =>
    split at h
    · simp at h
    · next hplain =>
      split at h
      · next hcloses => exact ⟨body, rfl, Or.inl ⟨hplain, hcloses, (Except.error.inj h).symm⟩⟩
      · next hopen => exact ⟨body, rfl, Or.inr ⟨by simpa using hopen, (Except.error.inj h).symm⟩⟩
  · simp at h

theorem readArgument_fault {cs : List Char} {fault : Fault} (h : readArgument cs = .error fault)
    (hblank : Stops isBlank cs) (hclose : cs.head? ≠ some ')') :
    ∃ within, ArgumentFault within fault ∧ cs = within ++ fault.rest := by
  unfold readArgument at h
  split at h
  · next hname =>
    obtain rfl := Except.error.inj h
    exact ⟨[], .name hblank (readName_eq_none_iff.1 hname) hclose, rfl⟩
  · next name afterName hname =>
    obtain ⟨hn, rfl⟩ := readName_sound hname
    obtain ⟨before, hbefore, hcut⟩ := exists_blanks afterName
    split at h
    · next afterEquals heq =>
      rw [heq] at hcut
      obtain ⟨behind, hbehind, hcut'⟩ := exists_blanks afterEquals
      split at h
      · simp at h
      · next fault' hv =>
        obtain rfl := Except.error.inj h
        obtain ⟨body, hbody, hfault⟩ := readValue_fault hv
        have htext : name ++ afterName = name ++ before ++ '=' :: behind ++ skipBlanks
          afterEquals := by
          conv_lhs => rw [hcut, hcut']
          simp
        rcases hfault with ⟨hplain, hcloses, rfl⟩ | ⟨hopen, rfl⟩
        · rw [hbody] at htext ⊢
          exact ⟨_, .escapes hn hbefore hbehind hplain hcloses, htext⟩
        · rw [hbody] at htext ⊢
          exact ⟨_, .unterminated hn hbefore hbehind hopen, htext⟩
    · next hequals =>
      obtain rfl := Except.error.inj h
      have hstops : Stops isNameContinue (before ++ skipBlanks afterName) := by
        rw [← hcut]
        exact readName_stops hname
      refine ⟨name ++ before,
        .equals hn hbefore hstops (stops_dropWhile _ _) (head?_ne_of_forall hequals), ?_⟩
      conv_lhs => rw [hcut, ← List.append_assoc]
      rfl

theorem readArguments_fault {cs : List Char} {fault : Fault} (h : readArguments cs = .error fault) :
    ∃ front as within, Opening front as ∧ ArgumentFault within fault ∧
      cs = front ++ (within ++ fault.rest) := by
  fun_induction readArguments cs with
  | case1 => simp at h
  | case2 cs fault' hread hclose =>
    obtain rfl := Except.error.inj h
    obtain ⟨blanks, hblanks, hcut⟩ := exists_blanks cs
    obtain ⟨within, hwithin, hrest⟩ :=
      readArgument_fault hread (stops_dropWhile _ _) (head?_ne_of_forall hclose)
    refine ⟨blanks, [], within, .blanks hblanks, hwithin, ?_⟩
    rw [← hrest]
    exact hcut
  | case3 => simp at h
  | case4 cs a rest hread tail hcomma fault' hrec hclose ih =>
    obtain rfl := Except.error.inj h
    obtain ⟨blanks, hblanks, hcut⟩ := exists_blanks cs
    obtain ⟨arg, harg, hcut'⟩ := readArgument_sound hread
    obtain ⟨before, hbefore, hcut''⟩ := exists_blanks rest
    obtain ⟨front, as, within, hfront, hwithin, htail⟩ := ih hrec
    refine ⟨_, _, within, .argument hblanks harg hbefore hfront, hwithin, ?_⟩
    rw [hcut, hcut', hcut'', hcomma, htail]
    simp
  | case5 => simp at h
  | case6 cs a rest hread hclose hcomma hparen =>
    obtain rfl := Except.error.inj h
    obtain ⟨blanks, hblanks, hcut⟩ := exists_blanks cs
    obtain ⟨arg, harg, hcut'⟩ := readArgument_sound hread
    obtain ⟨before, hbefore, hcut''⟩ := exists_blanks rest
    refine ⟨blanks, [], arg ++ before, .blanks hblanks,
      .separator harg hbefore (head?_ne_of_forall hcomma) (head?_ne_of_forall hparen), ?_⟩
    conv_lhs => rw [hcut, hcut', hcut'', ← List.append_assoc arg]
    rfl

/-! ### Markers and the first argument -/

theorem skipBlanks_of_markerSpaces {cs : List Char}
    (h : Stops isBlank (cs.dropWhile isMarkerSpace)) :
    skipBlanks cs = cs.dropWhile isMarkerSpace := by
  obtain ⟨spaces, hspaces, hcut⟩ := exists_markerSpaces cs
  conv_lhs => rw [hcut, skipBlanks_append fun c hc => isBlank_of_isMarkerSpace (hspaces c hc)]
  exact dropWhile_of_stops h

/-- What a marker has seen behind the parenthesis the reader sees too, although it passes more
blanks. -/
theorem skipBlanks_of_opensArguments {cs : List Char} (h : opensArguments cs = true) :
    (∃ rest, skipBlanks cs = ')' :: rest) ∨ ∃ name rest rest',
      readName (skipBlanks cs) = some (name, rest) ∧ skipBlanks rest = '=' :: rest' := by
  rw [opensArguments] at h
  split at h
  · next rest heq =>
    refine Or.inl ⟨rest, ?_⟩
    rw [skipBlanks_of_markerSpaces (heq ▸ stops_cons (by decide) rest), heq]
  · split at h
    · next name rest hread =>
      obtain ⟨hname, hcut⟩ := readName_sound hread
      split at h
      · next rest' hequals =>
        refine Or.inr ⟨name, rest, rest', ?_, ?_⟩
        · rw [skipBlanks_of_markerSpaces (hcut ▸ hname.not_blank rest), hread]
        · rw [skipBlanks_of_markerSpaces (hequals ▸ stops_cons (by decide) rest'), hequals]
      · simp at h
    · simp at h

theorem opensArguments_of_marker {name cs : List Char} (hname : IsName name)
    (h : Marker (name ++ '(' :: cs)) :
    opensArguments cs = true := by
  have hread :=
    readName_complete hname (stops_cons (by decide) cs : Stops isNameContinue ('(' :: cs))
  have hat := (atMarker_iff _).2 h
  rwa [atMarker, hread] at hat

/-- Neither the name nor the equals sign of the first argument is missing behind a marker. -/
theorem ArgumentFault.not_first {name blanks within : List Char} {fault : Fault}
    (h : ArgumentFault within fault) (hname : IsName name) (hblanks : Blanks blanks)
    (hmarker : Marker (name ++ '(' :: (blanks ++ (within ++ fault.rest)))) {expected : Expected}
    {rest : List Char} (hfault : fault = .missing expected rest) :
    expected ≠ .argumentName ∧ expected ≠ .equals := by
  have hseen := skipBlanks_of_opensArguments (opensArguments_of_marker hname hmarker)
  rw [skipBlanks_append hblanks] at hseen
  cases h with
  | @name tail hblank hstart hclose =>
    have hskip : skipBlanks tail = tail := dropWhile_of_stops hblank
    simp only [Fault.rest, List.nil_append, hskip] at hseen
    rcases hseen with ⟨r, hr⟩ | ⟨arg, r, r', hread, -⟩
    · exact absurd (by rw [hr]; rfl) hclose
    · rw [readName_eq_none_iff.2 hstart] at hread
      cases hread
  | @equals arg blanks' tail harg hblanks' hstops hblank hequals =>
    have hskip : skipBlanks (arg ++ blanks' ++ tail) = arg ++ (blanks' ++ tail) := by
      rw [List.append_assoc]
      exact dropWhile_of_stops (harg.not_blank _)
    simp only [Fault.rest, hskip] at hseen
    rcases hseen with ⟨r, hr⟩ | ⟨arg', r, r', hread, hr⟩
    · obtain ⟨c, cs, rfl, hc, -⟩ := harg
      obtain ⟨rfl, -⟩ := List.cons.inj hr
      exact absurd hc (by decide)
    · rw [readName_complete harg hstops] at hread
      obtain ⟨-, rfl⟩ := Prod.mk.inj (Option.some.inj hread)
      have hskip' : skipBlanks (blanks' ++ tail) = tail := by
        rw [skipBlanks_append hblanks']
        exact dropWhile_of_stops hblank
      rw [hskip'] at hr
      exact absurd (by rw [hr]; rfl) hequals
  | escapes =>
    obtain ⟨rfl, -⟩ := Fault.missing.inj hfault
    exact ⟨by decide, by decide⟩
  | unterminated => cases hfault
  | separator =>
    obtain ⟨rfl, -⟩ := Fault.missing.inj hfault
    exact ⟨by decide, by decide⟩

/-- **A directive that cannot be read is right up to the place of the fault.** -/
theorem read_fault {cs : List Char} {directive : String} {fault : Fault} (hmarker : Marker cs)
    (h : read cs = .error ⟨directive, fault⟩) : IsName directive.toList ∧ ∃ front as within,
      cs = directive.toList ++ '(' :: (front ++ (within ++ fault.rest)) ∧ Opening front as ∧
      ArgumentFault within fault ∧ (as = [] → ∀ expected rest, fault = .missing expected rest →
        expected ≠ .argumentName ∧ expected ≠ .equals) := by
  obtain ⟨name, tail, hname⟩ := exists_readName_of_marker hmarker
  obtain ⟨hn, rfl⟩ := readName_sound hname
  rw [read_of_name hname] at h
  cases hargs : readArguments tail with
  | ok found =>
    rw [hargs] at h
    cases h
  | error fault' =>
    rw [hargs] at h
    obtain ⟨rfl, rfl⟩ := Failure.mk.inj (Except.error.inj h)
    obtain ⟨front, as, within, hfront, hwithin, rfl⟩ := readArguments_fault hargs
    rw [String.toList_ofList]
    refine ⟨hn, front, as, within, rfl, hfront, hwithin, ?_⟩
    rintro rfl expected rest hfault
    cases hfront with
    | blanks hblanks => exact hwithin.not_first hn hblanks hmarker hfault

/-! ### Errors -/

theorem scan_eq_error_iff {text : String} {e : ReadError} : scan text = .error e ↔
    ∃ failure, scanFrom false text.toList = .error failure ∧
      ReadError.ofFailure text.toList failure = e := by
  rw [scan]
  cases scanFrom false text.toList <;> simp [Except.mapError]

variable {text rest : List Char} {directive found : String} {offset : Nat} {expected : Expected}
  {failure : Failure}

theorem ofFailure_missing (hrest : rest ≠ []) :
    ReadError.ofFailure text ⟨directive, .missing expected rest⟩ =
    .malformed directive (byteSize text - byteSize rest) expected
      (String.ofList (rest.take shownLength)) := by
  rw [ReadError.ofFailure]
  exact hrest

theorem ofFailure_eq_malformed
    (h : ReadError.ofFailure text failure = .malformed directive offset expected found) :
    ∃ rest, failure = ⟨directive, .missing expected rest⟩ ∧ rest ≠ [] ∧
      offset = byteSize text - byteSize rest ∧ found = String.ofList (rest.take shownLength) := by
  obtain ⟨name, _ | _⟩ := failure
  · next wanted rest =>
    cases rest with
    | nil => cases h
    | cons c rest =>
      rw [ofFailure_missing (by simp)] at h
      obtain ⟨rfl, rfl, rfl, rfl⟩ := ReadError.malformed.inj h
      exact ⟨c :: rest, rfl, by simp, rfl, rfl⟩
  · cases h

theorem ofFailure_eq_unexpectedEnd
    (h : ReadError.ofFailure text failure = .unexpectedEnd directive) :
    ∃ expected, failure = ⟨directive, .missing expected []⟩ := by
  obtain ⟨name, _ | _⟩ := failure
  · next wanted rest =>
    cases rest with
    | nil =>
      obtain rfl := ReadError.unexpectedEnd.inj h
      exact ⟨wanted, rfl⟩
    | cons c rest => cases h
  · cases h

theorem ofFailure_eq_unterminated
    (h : ReadError.ofFailure text failure = .unterminatedString directive offset) :
    ∃ rest, failure = ⟨directive, .unterminated rest⟩ ∧ offset = byteSize text - byteSize rest := by
  obtain ⟨name, _ | _⟩ := failure
  · next wanted rest => cases rest <;> cases h
  · next rest =>
    obtain ⟨rfl, rfl⟩ := ReadError.unterminatedString.inj h
    exact ⟨rest, rfl, rfl⟩

end Companion.Directive
