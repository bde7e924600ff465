import Mathlib
import Companion.Proofs.Directive.Faults
import Companion.Proofs.Text.Quotes

/-! Texts one behind the other.

More text behind a text changes nothing that the scan has decided (`scan_append`): directives that
were read stay, a directive that is malformed stays so at the same place, and an open quote stays
open up to the next quote. What more text can change is a look ahead that came to the end of the
text, and that is the last thing the scan did.

A character that can stand in no marker keeps two texts apart altogether (`scan_separated`). -/
namespace Companion.Directive
open Text

/-! ### The reader on a longer text -/

/-- The same fault in a text that goes on with `s`. -/
def Fault.append (s : List Char) : Fault → Fault
  | .missing expected rest => .missing expected (rest ++ s)
  | .unterminated rest => .unterminated (rest ++ s)

/-- The text `s` behind the fault does not mend it: something wrong stands at its place already, or
the open quote finds no other. -/
def Fault.Final (s : List Char) : Fault → Prop
  | .missing _ rest => rest ≠ []
  | .unterminated _ => '"' ∉ s

theorem stops_append {p : Char → Bool} {cs : List Char} (h : Stops p cs) (hcs : cs ≠ [])
    (s : List Char) :
    Stops p (cs ++ s) := by
  obtain ⟨c, cs, rfl⟩ := List.exists_cons_of_ne_nil hcs
  exact stops_cons (h c rfl) _

theorem head?_append_of_ne_nil {cs : List Char} (hcs : cs ≠ []) (s : List Char) :
    (cs ++ s).head? = cs.head? := by
  obtain ⟨c, cs, rfl⟩ := List.exists_cons_of_ne_nil hcs
  rfl

theorem skipBlanks_append_of_ne_nil {cs : List Char} (h : skipBlanks cs ≠ []) (s : List Char) :
    skipBlanks (cs ++ s) = skipBlanks cs ++ s := by
  obtain ⟨blanks, hblanks, hcut⟩ := exists_blanks cs
  conv_lhs => rw [hcut, List.append_assoc, skipBlanks_append hblanks]
  exact dropWhile_of_stops (stops_append (stops_dropWhile isBlank cs) h s)

theorem readName_append {cs name rest : List Char} (h : readName cs = some (name, rest))
    (hrest : rest ≠ []) (s : List Char) : readName (cs ++ s) = some (name, rest ++ s) := by
  obtain ⟨hname, rfl⟩ := readName_sound h
  rw [List.append_assoc]
  exact readName_complete hname (stops_append (readName_stops h) hrest s)

theorem readPlain_append {cs text rest : List Char} (h : readPlain cs = some (text, rest))
    (s : List Char) :
    readPlain (cs ++ s) = some (text, rest ++ s) := by
  obtain ⟨body, hbody, rfl⟩ := readPlain_sound h
  simpa using readPlain_complete hbody (rest ++ s)

theorem readValue_append {cs rest : List Char} {v : Scalar} (h : readValue cs = .ok (v, rest))
    (hrest : rest ≠ []) (s : List Char) : readValue (cs ++ s) = .ok (v, rest ++ s) := by
  by_cases hquote : cs.head? = some '"'
  · obtain ⟨body, rfl⟩ := List.head?_eq_some_iff.1 hquote
    cases hplain : readPlain body with
    | none =>
      simp only [readValue, hplain] at h
      split at h <;> cases h
    | some found =>
      obtain ⟨text, rest'⟩ := found
      rw [readValue_quote_of_some hplain] at h
      obtain ⟨rfl, rfl⟩ := Prod.mk.inj (Except.ok.inj h)
      exact readValue_quote_of_some (readPlain_append hplain s)
  · rw [readValue_bare hquote] at h
    obtain ⟨rfl, rfl⟩ := Prod.mk.inj (Except.ok.inj h)
    have hcs : cs ≠ [] := by
      rintro rfl
      exact hrest rfl
    have hcut : cs ++ s = cs.takeWhile isBare ++ (cs.dropWhile isBare ++ s) := by
      rw [← List.append_assoc, List.takeWhile_append_dropWhile]
    have hrun : ∀ c ∈ cs.takeWhile isBare, isBare c = true := fun c hc => List.mem_takeWhile_imp hc
    have hstops := stops_append (stops_dropWhile isBare cs) hrest s
    rw [readValue_bare (by rwa [head?_append_of_ne_nil hcs]), hcut,
      takeWhile_append_stops hrun hstops, dropWhile_append_stops hrun hstops]

theorem readValue_append_fault {cs : List Char} {fault : Fault} (h : readValue cs = .error fault)
    {s : List Char} (hfinal : fault.Final s) : readValue (cs ++ s) = .error (fault.append s) := by
  obtain ⟨body, rfl, ⟨hplain, hcloses, rfl⟩ | ⟨hopen, rfl⟩⟩ := readValue_fault h
  · have hplain' := readPlain_append_eq_none hcloses hplain s
    have hcloses' := closesQuote_append hcloses s
    simp [readValue, hplain', hcloses', Fault.append]
  · have hopen' := not_closesQuote_append hopen hfinal
    have hplain' : readPlain (body ++ s) = none := by
      by_contra hsome
      have hcloses := closesQuote_of_readPlain (Option.isSome_iff_ne_none.2 hsome)
      rw [hopen'] at hcloses
      cases hcloses
    simp [readValue, hplain', hopen', Fault.append]

/-- A value that starts within the text is read behind the same name in a longer one. -/
theorem readArgument_append_value {cs name afterName tail : List Char}
    (hname : readName cs = some (name, afterName)) (hequals : skipBlanks afterName = '=' :: tail)
    (htail : skipBlanks tail ≠ []) (s : List Char) : readArgument (cs ++ s) =
      (readValue (skipBlanks tail ++ s)).map fun found =>
      (⟨String.ofList name, found.1⟩, found.2) := by
  have hne : skipBlanks afterName ≠ [] := by simp [hequals]
  have hname' : readName (cs ++ s) = some (name, afterName ++ s) :=
    readName_append hname (fun hnil => hne (by rw [hnil]; rfl)) s
  have hequals' : skipBlanks (afterName ++ s) = '=' :: (tail ++ s) := by
    rw [skipBlanks_append_of_ne_nil hne, hequals]
    rfl
  rw [readArgument_of_value hname' hequals', skipBlanks_append_of_ne_nil htail]

theorem readArgument_append {cs rest : List Char} {a : Argument}
    (h : readArgument cs = .ok (a, rest)) (hrest : rest ≠ []) (s : List Char) :
    readArgument (cs ++ s) = .ok (a, rest ++ s) := by
  cases hname : readName cs with
  | none => simp [readArgument, hname] at h
  | some found =>
    obtain ⟨name, afterName⟩ := found
    by_cases hhead : (skipBlanks afterName).head? = some '='
    · obtain ⟨tail, hequals⟩ := List.head?_eq_some_iff.1 hhead
      rw [readArgument_of_value hname hequals] at h
      cases hvalue : readValue (skipBlanks tail) with
      | error fault =>
        rw [hvalue] at h
        cases h
      | ok found =>
        obtain ⟨v, rest'⟩ := found
        rw [hvalue] at h
        obtain ⟨rfl, rfl⟩ := Prod.mk.inj (Except.ok.inj h)
        -- a value that ends within the text starts within it
        have htail : skipBlanks tail ≠ [] := by
          intro hnil
          rw [hnil] at hvalue
          obtain ⟨-, rfl⟩ := Prod.mk.inj (Except.ok.inj hvalue)
          exact hrest rfl
        rw [readArgument_append_value hname hequals htail, readValue_append hvalue hrest]
        rfl
    · rw [readArgument_of_name hname hhead] at h
      cases h

theorem readArgument_append_fault {cs : List Char} {fault : Fault}
    (h : readArgument cs = .error fault) {s : List Char} (hfinal : fault.Final s) :
    readArgument (cs ++ s) = .error (fault.append s) := by
  cases hname : readName cs with
  | none =>
    simp only [readArgument, hname] at h
    obtain rfl := Except.error.inj h
    have hname' := readName_eq_none_iff.2 (stops_append (readName_eq_none_iff.1 hname) hfinal s)
    simp [readArgument, hname', Fault.append]
  | some found =>
    obtain ⟨name, afterName⟩ := found
    by_cases hhead : (skipBlanks afterName).head? = some '='
    · obtain ⟨tail, hequals⟩ := List.head?_eq_some_iff.1 hhead
      rw [readArgument_of_value hname hequals] at h
      cases hvalue : readValue (skipBlanks tail) with
      | ok found =>
        rw [hvalue] at h
        cases h
      | error fault' =>
        rw [hvalue] at h
        obtain rfl := Except.error.inj h
        have htail : skipBlanks tail ≠ [] := by
          obtain ⟨body, hbody, -⟩ := readValue_fault hvalue
          simp [hbody]
        rw [readArgument_append_value hname hequals htail, readValue_append_fault hvalue hfinal]
        rfl
    · rw [readArgument_of_name hname hhead] at h
      obtain rfl := Except.error.inj h
      have hname' : readName (cs ++ s) = some (name, afterName ++ s) :=
        readName_append hname (fun hnil => hfinal (by rw [hnil]; rfl)) s
      have hhead' : (skipBlanks (afterName ++ s)).head? ≠ some '=' := by
        rwa [skipBlanks_append_of_ne_nil hfinal, head?_append_of_ne_nil hfinal]
      rw [readArgument_of_name hname' hhead', skipBlanks_append_of_ne_nil hfinal]
      rfl

/-- What follows a whole argument decides how the arguments go on, in a longer text too. -/
theorem readArguments_append_of_ok {cs rest : List Char} {a : Argument}
    (hclose : (skipBlanks cs).head? ≠ some ')')
    (hread : readArgument (skipBlanks cs) = .ok (a, rest)) (hrest : skipBlanks rest ≠ [])
    (s : List Char) :
    readArguments (cs ++ s) = afterArgument a (skipBlanks rest ++ s) := by
  have hne : skipBlanks cs ≠ [] := by
    intro hnil
    rw [hnil] at hread
    cases hread
  have hrest' : rest ≠ [] := by
    rintro rfl
    exact hrest rfl
  have hcut := skipBlanks_append_of_ne_nil hne s
  rw [readArguments_of_ok (by rwa [hcut, head?_append_of_ne_nil hne])
      (by rw [hcut]; exact readArgument_append hread hrest' s),
    skipBlanks_append_of_ne_nil hrest]

theorem readArguments_append_fault {cs : List Char} {fault : Fault}
    (h : readArguments cs = .error fault) {s : List Char} (hfinal : fault.Final s) :
    readArguments (cs ++ s) = .error (fault.append s) := by
  fun_induction readArguments cs with
  | case1 => cases h
  | case2 cs fault' hread hclose =>
    obtain rfl := Except.error.inj h
    have hne : skipBlanks cs ≠ [] := by
      intro hnil
      rw [hnil] at hread
      obtain rfl := Except.error.inj hread
      exact hfinal rfl
    refine readArguments_of_fault ?_ ?_
    · rw [skipBlanks_append_of_ne_nil hne, head?_append_of_ne_nil hne]
      exact head?_ne_of_forall hclose
    · rw [skipBlanks_append_of_ne_nil hne]
      exact readArgument_append_fault hread hfinal
  | case3 => cases h
  | case4 cs a rest hread tail hcomma fault' hrec hclose ih =>
    obtain rfl := Except.error.inj h
    rw [readArguments_append_of_ok (head?_ne_of_forall hclose) hread (by simp [hcomma]), hcomma,
      List.cons_append, afterArgument, ih hrec]
    rfl
  | case5 => cases h
  | case6 cs a rest hread hclose hcomma hparen =>
    obtain rfl := Except.error.inj h
    rw [readArguments_append_of_ok (head?_ne_of_forall hclose) hread hfinal]
    refine afterArgument_of_ne ?_ ?_ a
    · rw [head?_append_of_ne_nil hfinal]
      exact head?_ne_of_forall hcomma
    · rw [head?_append_of_ne_nil hfinal]
      exact head?_ne_of_forall hparen

theorem read_append_fault {cs : List Char} {directive : String} {fault : Fault}
    (hmarker : Marker cs) (h : read cs = .error ⟨directive, fault⟩) {s : List Char}
    (hfinal : fault.Final s) :
    read (cs ++ s) = .error ⟨directive, fault.append s⟩ := by
  obtain ⟨name, tail, hname⟩ := exists_readName_of_marker hmarker
  have hname' := readName_append hname (by simp) s
  rw [read_of_name hname] at h
  rw [List.cons_append] at hname'
  rw [read_of_name hname']
  cases hargs : readArguments tail with
  | ok found =>
    rw [hargs] at h
    cases h
  | error fault' =>
    rw [hargs] at h
    obtain ⟨rfl, rfl⟩ := Failure.mk.inj (Except.error.inj h)
    rw [readArguments_append_fault hargs hfinal]
    rfl

/-! ### The scan on a longer text -/

/-- A scan that fails for good fails in the same way when more text follows. -/
theorem scanFrom_append_fault {before cs : List Char} {directive : String} {fault : Fault}
    (h : scanFrom (endsInWord before) cs = .error ⟨directive, fault⟩) {s : List Char}
    (hfinal : fault.Final s) :
    scanFrom (endsInWord before) (cs ++ s) = .error ⟨directive, fault.append s⟩ := by
  obtain ⟨ds, front, rest, hreach, hword, hmarker, hread⟩ := scanFrom_eq_error_iff_reaches.1 h
  -- the marker at the fault holds a mark, so every place in front of it is decided
  obtain ⟨c, hc, hmark⟩ := hmarker.exists_mark
  have hreach' : Reaches before (cs ++ s) ds front (rest ++ s) :=
    hreach.append fun tail hsuffix hm => hm.of_append_of_mark (hsuffix.subset hc) hmark
  exact scanFrom_of_reaches_fault hreach' hword (hmarker.append s)
    (read_append_fault hmarker hread hfinal)

theorem scan_append_of_final {t s : String} {directive : String} {fault : Fault}
    (h : scanFrom false t.toList = .error ⟨directive, fault⟩) (hfinal : fault.Final s.toList) :
    scan (t ++ s) =
      .error (.ofFailure (t.toList ++ s.toList) ⟨directive, fault.append s.toList⟩) := by
  rw [← endsInWord_nil] at h
  refine scan_eq_error_iff.2 ⟨_, ?_, by rw [String.toList_append]⟩
  rw [String.toList_append, ← endsInWord_nil]
  exact scanFrom_append_fault h hfinal

/-- **More text revises nothing.** Behind a text that can be read, more text leaves its directives
as the first ones; a malformed directive stays malformed, for the same reason and at the same place,
where as much or more is shown; and an open quote stays open as long as no quote follows. -/
theorem scan_append (t s : String) :
    (∀ ds ds', scan t = .ok ds → scan (t ++ s) = .ok ds' → ds <+: ds') ∧
      (∀ directive offset expected found,
        scan t = .error (.malformed directive offset expected found) →
        ∃ found', scan (t ++ s) = .error (.malformed directive offset expected found') ∧
          found.toList <+: found'.toList) ∧
      ∀ directive offset, scan t = .error (.unterminatedString directive offset) → '"' ∉ s.toList →
        scan (t ++ s) = .error (.unterminatedString directive offset) := by
  refine ⟨fun ds ds' hds hds' => ?_, fun directive offset expected found h => ?_,
    fun directive offset h hs => ?_⟩
  · have hreach : Reaches [] t.toList ds t.toList [] :=
      scanFrom_eq_ok_iff_reaches.1 (scan_eq_ok_iff_scanFrom.1 hds)
    obtain ⟨front, rest, hreach'⟩ := hreach.exists_append s.toList
    have hscan : scanFrom false (t ++ s).toList = .ok ds' := scan_eq_ok_iff_scanFrom.1 hds'
    rw [String.toList_append, ← endsInWord_nil, hreach'.scanFrom_eq] at hscan
    cases hrest : scanFrom (endsInWord front) rest with
    | error failure =>
      rw [hrest] at hscan
      cases hscan
    | ok more =>
      rw [hrest] at hscan
      exact ⟨more, Except.ok.inj hscan⟩
  · obtain ⟨failure, hscan, hfailure⟩ := scan_eq_error_iff.1 h
    obtain ⟨rest, rfl, hrest, rfl, rfl⟩ := ofFailure_eq_malformed hfailure
    refine ⟨String.ofList ((rest ++ s.toList).take shownLength), ?_, ?_⟩
    · rw [scan_append_of_final hscan hrest, Fault.append, ofFailure_missing (by simp [hrest]),
        byteSize_append, byteSize_append, Nat.add_sub_add_right]
    · rw [String.toList_ofList, String.toList_ofList]
      exact (List.prefix_append rest s.toList).take shownLength
  · obtain ⟨failure, hscan, hfailure⟩ := scan_eq_error_iff.1 h
    obtain ⟨rest, rfl, rfl⟩ := ofFailure_eq_unterminated hfailure
    rw [scan_append_of_final hscan hs, Fault.append, ReadError.ofFailure, byteSize_append,
      byteSize_append, Nat.add_sub_add_right]

/-- A look ahead that ran out in an argument's name, a separator that is missing, and a backslash
that ends the text and takes what follows. -/
theorem scan_append_cut :
    (∃ ds ds', scan "a() b(c" = .ok ds ∧ scan ("a() b(c" ++ "=1)") = .ok ds' ∧ ds <+: ds' ∧
      ds ≠ ds') ∧
      (∃ found, scan ("é(a=\"é\" b" ++ "=2) and more text") =
        .error (.malformed "é" 10 .separator found) ∧
        "b".toList <+: found.toList) ∧
      scan ("a(b=\"c\\" ++ "n) d(") = .error (.unterminatedString "a" 4) := by
  refine ⟨⟨[⟨"a", []⟩], [⟨"a", []⟩, ⟨"b", [⟨"c", .integer 1⟩]⟩], by decide +kernel,
    by decide +kernel, ?_, by decide⟩, ?_, ?_⟩
  · exact (scan_append "a() b(c" "=1)").1 _ _ (by decide +kernel) (by decide +kernel)
  · exact (scan_append "é(a=\"é\" b" "=2) and more text").2.1 "é" 10 .separator "b"
      (by decide +kernel)
  · exact (scan_append "a(b=\"c\\" "n) d(").2.2 "a" 4 (by decide +kernel) (by decide)

/-! ### Texts that are kept apart -/

/-- The character can stand in no marker: it continues no name, and is none of the spaces and marks
there. -/
def OutsideMarkers (c : Char) : Prop :=
  isNameContinue c = false ∧ isMarkerSpace c = false ∧ c ≠ '(' ∧ c ≠ ')' ∧ c ≠ '='

instance (c : Char) : Decidable (OutsideMarkers c) := inferInstanceAs (Decidable (_ ∧ _))

/-- No marker goes past such a character. -/
theorem OutsideMarkers.marker {c : Char} (hc : OutsideMarkers c) {cs behind : List Char}
    (h : Marker (cs ++ c :: behind)) : Marker cs := by
  obtain ⟨hname, hspace, hopen, hclose, hequals⟩ := hc
  rcases h.of_append with h | ⟨tail, mark, rest, hhead, hs⟩
  · exact h
  · cases tail with
    | nil =>
      obtain ⟨rfl, -⟩ := List.cons.inj hs
      rcases hhead.mark with rfl | rfl
      · exact absurd rfl hclose
      · exact absurd rfl hequals
    | cons d tail =>
      obtain ⟨rfl, -⟩ := List.cons.inj hs
      rcases hhead.chars c (by simp) with h | h | h
      · rw [hname] at h; cases h
      · rw [hspace] at h; cases h
      · exact absurd h hopen

/-- Behind such a character the scan starts anew. -/
theorem OutsideMarkers.scanFrom {c : Char} (hc : OutsideMarkers c) {before cs : List Char}
    {ds : List Directive} (h : scanFrom (endsInWord before) cs = .ok ds) (behind : List Char) :
    scanFrom (endsInWord before) (cs ++ c :: behind) = (scanFrom false behind).map (ds ++ ·) := by
  have hreach := (scanFrom_eq_ok_iff_reaches.1 h).append (s := c :: behind)
    fun tail _ hm => hc.marker hm
  have hpass : Directive.scanFrom (endsInWord (before ++ cs)) (c :: behind) =
    Directive.scanFrom false behind := by
    have hstart := not_isNameStart_of_not_continue hc.1
    rw [scanFrom_cons, if_neg (by simp [hstart]), hc.1]
  rw [hreach.scanFrom_eq, List.nil_append, hpass]

/-! ### Places in a text that stands behind another -/

/-- The same error behind `n` more bytes. -/
def ReadError.shift (n : Nat) : ReadError → ReadError
  | .malformed directive offset expected found => .malformed directive (offset + n) expected found
  | .unterminatedString directive offset => .unterminatedString directive (offset + n)
  | .unexpectedEnd directive => .unexpectedEnd directive

theorem ofFailure_behind {text : List Char} {failure : Failure} (h : failure.fault.rest <:+ text)
    (front : List Char) : ReadError.ofFailure (front ++ text) failure =
      (ReadError.ofFailure text failure).shift (byteSize front) := by
  have hle := byteSize_le_of_suffix h
  have hplace (n : Nat) (hn : n ≤ byteSize text) :
      byteSize (front ++ text) - n = byteSize text - n + byteSize front := by
    rw [byteSize_append]
    omega
  obtain ⟨directive, ⟨expected, rest⟩ | rest⟩ := failure
  · cases rest with
    | nil => rfl
    | cons c rest =>
      rw [ofFailure_missing (by simp), ofFailure_missing (by simp), ReadError.shift,
        hplace (byteSize (c :: rest)) hle]
  · rw [ReadError.ofFailure, ReadError.ofFailure, ReadError.shift, hplace (byteSize rest) hle]

theorem rest_suffix_of_scanFrom {before cs : List Char} {failure : Failure}
    (h : scanFrom (endsInWord before) cs = .error failure) : failure.fault.rest <:+ cs := by
  obtain ⟨ds, front, rest, hreach, -, hmarker, hread⟩ := scanFrom_eq_error_iff_reaches.1 h
  obtain ⟨directive, fault⟩ := failure
  obtain ⟨-, opening, as, within, hcut, -⟩ := read_fault hmarker hread
  refine List.IsSuffix.trans ?_ hreach.suffix
  exact ⟨directive.toList ++ '(' :: (opening ++ within), by rw [hcut]; simp⟩

/-- **Texts that are kept apart by a character outside of markers are read one by one**: the
directives of the second follow those of the first, or its error is the error of the whole, with its
place counted from the start of the first. -/
theorem scan_separated (t₁ t₂ : String) (c : Char) (hc : OutsideMarkers c) (ds₁ : List Directive)
    (h₁ : scan t₁ = .ok ds₁) :
    (∀ ds₂, scan t₂ = .ok ds₂ → scan (t₁ ++ String.singleton c ++ t₂) = .ok (ds₁ ++ ds₂)) ∧
      ∀ e, scan t₂ = .error e →
        scan (t₁ ++ String.singleton c ++ t₂) =
          .error (e.shift (t₁ ++ String.singleton c).utf8ByteSize) := by
  have htext : (t₁ ++ String.singleton c ++ t₂).toList = t₁.toList ++ c :: t₂.toList := by simp
  have hscan : scanFrom false (t₁.toList ++ c :: t₂.toList) = (scanFrom false t₂.toList).map
    (ds₁ ++ ·) :=
    @OutsideMarkers.scanFrom c hc [] _ _ (scan_eq_ok_iff_scanFrom.1 h₁) t₂.toList
  refine ⟨fun ds₂ h₂ => ?_, fun e h₂ => ?_⟩
  · rw [scan_eq_ok_iff_scanFrom, htext, hscan, scan_eq_ok_iff_scanFrom.1 h₂]
    rfl
  · obtain ⟨failure, hfail, rfl⟩ := scan_eq_error_iff.1 h₂
    have hsuffix : failure.fault.rest <:+ t₂.toList := @rest_suffix_of_scanFrom [] _ _ hfail
    refine scan_eq_error_iff.2 ⟨failure, by rw [htext, hscan, hfail]; rfl, ?_⟩
    rw [String.toList_append, ofFailure_behind hsuffix, byteSize_toList]

/-- An unfinished marker in the first text is not finished by the second, whose error moves by the
five bytes in front of it. -/
theorem scan_separated_unfinished :
    OutsideMarkers '¿' ∧ scan "f(a" = .ok [] ∧
      scan "=1) g(b=1 é" = .error (.malformed "g" 10 .separator "é") ∧
      scan ("f(a" ++ String.singleton '¿' ++ "=1) g(b=1 é") =
        .error (.malformed "g" 15 .separator "é") ∧
      scan ("f(a" ++ String.singleton '¿' ++ "h()") = .ok ([] ++ [⟨"h", []⟩]) := by
  have hc : OutsideMarkers '¿' := by decide +kernel
  have hfirst : scan "f(a" = .ok [] := by decide +kernel
  have hsecond : scan "=1) g(b=1 é" = .error (.malformed "g" 10 .separator "é") := by decide +kernel
  refine ⟨hc, hfirst, hsecond, ?_, ?_⟩
  · exact (scan_separated "f(a" "=1) g(b=1 é" '¿' hc [] hfirst).2 _ hsecond
  · exact (scan_separated "f(a" "h()" '¿' hc [] hfirst).1 _ (by decide +kernel)

end Companion.Directive
