import Mathlib
import Companion.Proofs.Directive.Cursor

/-! Where errors point.

An error of the scan names the directive it stopped in, the place, and what it wanted there.
`Truthful` says when that is so, by the text: the scan comes to a directive of this name, which
stands at the start of a word and opens its parenthesis; behind it stand whole arguments and the
beginning of one more (`StopsIn`); and at the position given, where a character starts, the text
goes on as the error shows it (`ShowsAt`).

`scan_error_truthful`: every error is truthful. The expectations that the reader states for a
directive without a name or parenthesis, and for a first argument without a name or equals sign, are
in none of them, since a marker has these. A scan by positions, which may cut the text anywhere,
cuts it only where it can be cut. -/
namespace Companion.Directive
open Text

/-- The scan of the text comes to a directive of this name, and reads its arguments `as` whole,
each with its comma. The beginning of one more argument is all that stands between these and the
fault. -/
structure StopsIn (text : List Char) (directive : String) (as : List Argument) (fault : Fault) :
    Prop where
  isName : IsName directive.toList
  stands : ∃ before marker front within, text = before ++ marker ∧ WordBoundary before ∧
    Marker marker ∧ (∃ ds, Reaches [] text ds before marker) ∧
    marker = directive.toList ++ '(' :: (front ++ (within ++ fault.rest)) ∧ Opening front as ∧
    ArgumentFault within fault

/-- At a position where one of its characters starts, or at its end, the text goes on with
`rest`. -/
structure ShowsAt (text : String) (offset : Nat) (rest : List Char) : Prop where
  isValid : String.Pos.Raw.IsValid text ⟨offset⟩
  slice : sliceFrom text.toList offset = some rest

/-- What an error says is so in the text. -/
def Truthful (text : String) : ReadError → Prop
  | .malformed directive offset expected found => ∃ as rest,
      StopsIn text.toList directive as (.missing expected rest) ∧ ShowsAt text offset rest ∧
      offset < text.utf8ByteSize ∧ found = String.ofList (rest.take 16) ∧
      expected.text ∉ ["directive name", "'('", "value"] ∧
        (as = [] → expected.text ∉ ["argument name", "'='"])
  | .unterminatedString directive offset => ∃ as body,
      StopsIn text.toList directive as (.unterminated ('"' :: body)) ∧
      ShowsAt text offset ('"' :: body) ∧
      ∀ before behind, body = before ++ '"' :: behind → Escapes before
  | .unexpectedEnd directive =>
    ∃ as expected, StopsIn text.toList directive as (.missing expected [])

/-! ### Faults and places -/

theorem ArgumentFault.text_not_mem {within rest : List Char} {expected : Expected}
    (h : ArgumentFault within (.missing expected rest)) :
    expected.text ∉ ["directive name", "'('", "value"] := by
  cases h <;> decide

theorem text_not_mem_of_ne {expected : Expected} (hname : expected ≠ .argumentName)
    (hequals : expected ≠ .equals) :
    expected.text ∉ ["argument name", "'='"] := by
  cases expected with
  | argumentName => exact absurd rfl hname
  | equals => exact absurd rfl hequals
  | directiveName | openParenthesis | separator | validEscapes => decide

theorem ArgumentFault.exists_quote {within rest : List Char}
    (h : ArgumentFault within (.unterminated rest)) :
    ∃ body, rest = '"' :: body ∧ closesQuote body = false := by
  cases h with
  | unterminated _ _ _ hcloses => exact ⟨_, rfl, hcloses⟩

theorem StopsIn.exists_argumentFault {text : List Char} {directive : String} {as : List Argument}
    {fault : Fault} (h : StopsIn text directive as fault) :
    ∃ within, ArgumentFault within fault := by
  obtain ⟨-, -, -, -, within, -, -, -, -, -, -, hfault⟩ := h
  exact ⟨within, hfault⟩

theorem showsAt_position {text : String} {rest : List Char} (h : rest <:+ text.toList) :
    ShowsAt text (position text.toList rest) rest := by
  have hslice := sliceFrom_position h
  have hsome : (sliceFrom text.toList (position text.toList rest)).isSome = true := by
    rw [hslice, Option.isSome_some]
  exact ⟨sliceFrom_isSome_iff.1 hsome, hslice⟩

theorem ShowsAt.lt_utf8ByteSize {text : String} {offset : Nat} {rest : List Char}
    (h : ShowsAt text offset rest) (hrest : rest ≠ []) : offset < text.utf8ByteSize := by
  obtain ⟨front, htext, rfl⟩ := sliceFrom_eq_some_iff.1 h.slice
  obtain ⟨c, tail, rfl⟩ := List.exists_cons_of_ne_nil hrest
  rw [← byteSize_toList, htext, byteSize_append, byteSize]
  have := c.utf8Size_pos
  omega

/-! ### Every error is truthful -/

/-- A scan that fails stops in a directive. Where that is in its first argument, the name and the
equals sign are there. -/
theorem stopsIn_of_scanFrom {text : List Char} {failure : Failure}
    (h : scanFrom false text = .error failure) :
    ∃ as, StopsIn text failure.directive as failure.fault ∧
      (as = [] → ∀ expected rest, failure.fault = .missing expected rest →
        expected ≠ .argumentName ∧ expected ≠ .equals) := by
  rw [← endsInWord_nil] at h
  obtain ⟨ds, before, marker, hreach, hboundary, hmarker, hread⟩ :=
    scanFrom_eq_error_iff_reaches.1 h
  obtain ⟨hname, front, as, within, hcut, hopening, hfault, hfirst⟩ := read_fault hmarker hread
  exact ⟨as,
    ⟨hname, before, marker, front, within, hreach.append_eq, hboundary, hmarker, ⟨ds, hreach⟩,
    hcut, hopening, hfault⟩, hfirst⟩

theorem truthful_ofFailure {text : String} {failure : Failure}
    (h : scanFrom false text.toList = .error failure) :
    Truthful text (.ofFailure text.toList failure) := by
  obtain ⟨as, hstops, hfirst⟩ := stopsIn_of_scanFrom h
  obtain ⟨within, hfault⟩ := hstops.exists_argumentFault
  have hshows := showsAt_position (@rest_suffix_of_scanFrom [] _ _ h)
  obtain ⟨directive, fault⟩ := failure
  cases fault with
  | missing expected rest =>
    cases rest with
    | nil => exact ⟨as, expected, hstops⟩
    | cons c rest =>
      rw [ofFailure_missing (List.cons_ne_nil c rest)]
      refine ⟨as, c :: rest, hstops, hshows, hshows.lt_utf8ByteSize (List.cons_ne_nil c rest), rfl,
        hfault.text_not_mem, ?_⟩
      intro hnone
      obtain ⟨hname, hequals⟩ := hfirst hnone expected (c :: rest) rfl
      exact text_not_mem_of_ne hname hequals
  | unterminated rest =>
    obtain ⟨body, rfl, hcloses⟩ := hfault.exists_quote
    refine ⟨as, body, hstops, hshows, ?_⟩
    intro before behind hbody
    by_contra hescapes
    have hclosed : closesQuote body = true :=
      (closesQuote_iff body).2 ⟨before, behind, hbody, hescapes⟩
    rw [hcloses] at hclosed
    cases hclosed

/-- **Every error of the scan is true of the text**, and a scan by positions gives it without a cut
that cannot be made. -/
theorem scan_error_truthful (text : String) :
    scanAt text = some (scan text) ∧ ∀ e, scan text = .error e → Truthful text e := by
  refine ⟨scanAt_eq text, ?_⟩
  intro e he
  obtain ⟨failure, hscan, rfl⟩ := scan_eq_error_iff.1 he
  exact truthful_ofFailure hscan

/-- Behind prose of two-byte letters and a whole argument, an argument without its equals sign and a
string whose only other quote is escaped. -/
theorem scan_error_truthful_later :
    scan "é f(a=ü, b ß" = .error (.malformed "f" 13 .equals "ß") ∧
      Truthful "é f(a=ü, b ß" (.malformed "f" 13 .equals "ß") ∧
      scan "é f(a=ü, b=\"ß\\\") g()" = .error (.unterminatedString "f" 13) ∧
      Truthful "é f(a=ü, b=\"ß\\\") g()" (.unterminatedString "f" 13) := by
  have hequals : scan "é f(a=ü, b ß" = .error (.malformed "f" 13 .equals "ß") := by decide +kernel
  have hquote : scan "é f(a=ü, b=\"ß\\\") g()" = .error (.unterminatedString "f" 13) := by
    decide +kernel
  exact ⟨hequals, (scan_error_truthful _).2 _ hequals, hquote, (scan_error_truthful _).2 _ hquote⟩

end Companion.Directive
