import Mathlib
import Companion.Proofs.Directive.Grammar

/-! Scanning a text for directives.

A text with directives is prose, a directive, prose, a directive, and so on, and prose at the end
(`Cut`). A directive stands where a word may start and a marker does; prose has no such place. Both
conditions look at the whole text, in front of the place and behind it.

`scan_eq_ok_iff_cut`: the scan gives exactly the directives of such a cut, in order. So a text has
at most one cut, and where it has none the scan fails. -/
namespace Companion.Directive
open Text

/-! ### Markers -/

/-- Nothing but the characters that may stand inside a marker. -/
def MarkerSpaces (cs : List Char) : Prop := ∀ c ∈ cs, isMarkerSpace c = true

/-- The start of a directive: its name, the opening parenthesis, and then the closing one, or the
name of a first argument with its equals sign. -/
inductive Marker : List Char → Prop where
  | empty {name spaces : List Char} (rest : List Char) : IsName name → MarkerSpaces spaces →
      Marker (name ++ '(' :: spaces ++ ')' :: rest)
  | argument {name spaces arg spaces' : List Char} (rest : List Char) : IsName name →
      MarkerSpaces spaces → IsName arg → MarkerSpaces spaces' →
      Marker (name ++ '(' :: spaces ++ arg ++ spaces' ++ '=' :: rest)

theorem exists_markerSpaces (cs : List Char) :
    ∃ spaces, MarkerSpaces spaces ∧ cs = spaces ++ cs.dropWhile isMarkerSpace :=
  ⟨cs.takeWhile isMarkerSpace, fun _ hc => List.mem_takeWhile_imp hc,
    List.takeWhile_append_dropWhile.symm⟩

theorem not_markerSpace_of_not_blank {c : Char} (h : isBlank c = false) :
    isMarkerSpace c = false := by
  cases hs : isMarkerSpace c with
  | false => rfl
  | true => rw [isBlank_of_isMarkerSpace hs] at h; exact h

theorem dropWhile_markerSpaces {spaces rest : List Char} (h : MarkerSpaces spaces)
    (hrest : Stops isMarkerSpace rest) : (spaces ++ rest).dropWhile isMarkerSpace = rest :=
  dropWhile_append_stops h hrest

theorem opensArguments_close {spaces : List Char} (h : MarkerSpaces spaces) (rest : List Char) :
    opensArguments (spaces ++ ')' :: rest) = true := by
  rw [opensArguments, dropWhile_markerSpaces h (stops_cons (by decide) _)]
  rfl

theorem opensArguments_argument {spaces arg spaces' : List Char} (h : MarkerSpaces spaces)
    (harg : IsName arg) (h' : MarkerSpaces spaces') (rest : List Char) :
    opensArguments (spaces ++ (arg ++ (spaces' ++ '=' :: rest))) = true := by
  have hstart : Stops isMarkerSpace (arg ++ (spaces' ++ '=' :: rest)) := by
    intro c hc
    exact not_markerSpace_of_not_blank (harg.not_blank _ c hc)
  have hblanks : Blanks spaces' := fun c hc => isBlank_of_isMarkerSpace (h' c hc)
  have hread := readName_complete harg (blanks_stop_name hblanks rest)
  have hdrop : (spaces' ++ '=' :: rest).dropWhile isMarkerSpace = '=' :: rest :=
    dropWhile_markerSpaces h' (stops_cons (by decide) _)
  rw [opensArguments, dropWhile_markerSpaces h hstart]
  split
  · rfl
  · simp only [hread, hdrop]

theorem marker_of_opensArguments {name cs : List Char} (hname : IsName name)
    (h : opensArguments cs = true) : Marker (name ++ '(' :: cs) := by
  obtain ⟨spaces, hspaces, hcut⟩ := exists_markerSpaces cs
  rw [opensArguments] at h
  split at h
  · next rest heq =>
    rw [heq] at hcut
    rw [hcut]
    simpa using Marker.empty rest hname hspaces
  · split at h
    · next arg afterArg hread =>
      obtain ⟨harg, heq⟩ := readName_sound hread
      obtain ⟨spaces', hspaces', hcut'⟩ := exists_markerSpaces afterArg
      split at h
      · next rest hequals =>
        rw [hequals] at hcut'
        rw [hcut, heq, hcut']
        simpa using Marker.argument rest hname hspaces harg hspaces'
      · simp at h
    · simp at h

theorem atMarker_iff (cs : List Char) : atMarker cs = true ↔ Marker cs := by
  constructor
  · intro h
    rw [atMarker] at h
    split at h
    · next name rest hread =>
      obtain ⟨hname, rfl⟩ := readName_sound hread
      exact marker_of_opensArguments hname h
    · simp at h
  · intro h
    cases h with
    | @empty name spaces rest hname hspaces =>
      have hread := readName_complete hname
        (stops_cons (by decide) (spaces ++ ')' :: rest) : Stops isNameContinue ('(' :: _))
      rw [List.append_assoc, List.cons_append, atMarker, hread]
      exact opensArguments_close hspaces rest
    | @argument name spaces arg spaces' rest hname hspaces harg hspaces' =>
      have hread := readName_complete hname
        (stops_cons (by decide) (spaces ++ (arg ++ (spaces' ++ '=' :: rest))) :
          Stops isNameContinue ('(' :: _))
      simp only [List.append_assoc, List.cons_append]
      rw [atMarker, hread]
      exact opensArguments_argument hspaces harg hspaces' rest

theorem Marker.starts {c : Char} {cs : List Char} (h : Marker (c :: cs)) :
    isNameStart c = true := by
  have h := (atMarker_iff _).2 h
  rw [atMarker, readName] at h
  split at h
  · next heq =>
    split at heq
    · assumption
    · simp at heq
  · simp at h

/-! ### Cuts -/

/-- A word may start behind the text: its last character, if it has one, continues no name. -/
def WordBoundary (before : List Char) : Prop :=
  ∀ c, before.getLast? = some c → isNameContinue c = false

/-- No word that starts in `gap` is a marker, the text in front and behind being given. -/
def Prose (before gap behind : List Char) : Prop :=
  ∀ a c b, gap = a ++ c :: b → isNameStart c = true → WordBoundary (before ++ a) →
    ¬ Marker (c :: b ++ behind)

/-- A text behind `before`, cut into prose and directives. -/
inductive Cut : List Char → List Char → List Directive → Prop where
  | prose {before gap : List Char} : Prose before gap [] → Cut before gap []
  | directive {before gap text rest : List Char} {d : Directive} {ds : List Directive} :
      Prose before gap (text ++ rest) → DirectiveText text d → WordBoundary (before ++ gap) →
      Marker (text ++ rest) → Cut (before ++ gap ++ text) rest ds →
      Cut before (gap ++ text ++ rest) (d :: ds)

theorem prose_nil (before behind : List Char) : Prose before [] behind := by
  intro a c b h
  simp at h

/-- Prose grows on the left by a character at which no directive starts. -/
theorem Prose.cons {before gap behind : List Char} {c : Char} (h : Prose (before ++ [c]) gap behind)
    (hc : isNameStart c = true → WordBoundary before → ¬ Marker (c :: gap ++ behind)) :
    Prose before (c :: gap) behind := by
  intro a e b heq hstart hword
  cases a with
  | nil =>
    obtain ⟨rfl, rfl⟩ := List.cons.inj heq
    exact hc hstart (by simpa using hword)
  | cons x a =>
    obtain ⟨rfl, rfl⟩ := List.cons.inj heq
    exact h a e b rfl hstart (by simpa using hword)

theorem Prose.tail {before gap behind : List Char} {c : Char} (h : Prose before (c :: gap) behind) :
    Prose (before ++ [c]) gap behind := by
  intro a e b heq hstart hword
  exact h (c :: a) e b (by rw [heq]; rfl) hstart (by simpa using hword)

theorem Cut.cons {before rest : List Char} {c : Char} {ds : List Directive}
    (h : Cut (before ++ [c]) rest ds)
    (hc : isNameStart c = true → WordBoundary before → ¬ Marker (c :: rest)) :
    Cut before (c :: rest) ds := by
  cases h with
  | prose hp => exact .prose (hp.cons (by simpa using hc))
  | @directive _ gap text tail d ds hp ht hw hm hrest =>
    have hgap : Prose before (c :: gap) (text ++ tail) := hp.cons (by simpa using hc)
    refine .directive hgap ht (by simpa using hw) hm ?_
    simpa using hrest

/-! ### The scan follows the cut -/

/-- Whether the text ends within a word, so that none can start behind it. -/
def endsInWord (before : List Char) : Bool :=
  match before.getLast? with
  | some c => isNameContinue c
  | none => false

theorem endsInWord_eq_false_iff {before : List Char} :
    endsInWord before = false ↔ WordBoundary before := by
  unfold endsInWord WordBoundary
  cases before.getLast? <;> simp

@[simp] theorem endsInWord_concat (before : List Char) (c : Char) :
    endsInWord (before ++ [c]) = isNameContinue c := by
  simp [endsInWord]

/-- A directive ends in its closing parenthesis. -/
theorem DirectiveText.not_endsInWord {text : List Char} {d : Directive} (h : DirectiveText text d)
    (before : List Char) : endsInWord (before ++ text) = false := by
  obtain ⟨hname, hblanks, hargs⟩ := h
  rw [← List.append_assoc, endsInWord_concat]
  decide

/-- Where a directive starts, the scan reads it; elsewhere it passes a character. -/
theorem scanFrom_cons (before : List Char) (c : Char) (rest : List Char) :
    scanFrom (endsInWord before) (c :: rest) =
      if endsInWord before = false ∧ isNameStart c = true ∧ atMarker (c :: rest) = true then
        match read (c :: rest) with
        | .ok (d, rest') => (scanFrom false rest').map (d :: ·)
        | .error failure => .error failure
      else scanFrom (isNameContinue c) rest := by
  rw [scanFrom]
  simp only [Bool.and_eq_true, Bool.not_eq_true', and_assoc]
  split
  · split
    · next heq => rw [heq]
    · next d rest' heq =>
      rw [heq]
      show _ = (scanFrom false rest').map (d :: ·)
      cases scanFrom false rest' <;> rfl
  · rfl

/-- The scan passes prose. -/
theorem scanFrom_prose {before gap behind : List Char} (h : Prose before gap behind) :
    scanFrom (endsInWord before) (gap ++ behind) = scanFrom (endsInWord (before ++ gap))
      behind := by
  induction gap generalizing before with
  | nil => simp
  | cons c gap ih =>
    have hno : ¬ (endsInWord before = false ∧ isNameStart c = true ∧
        atMarker (c :: (gap ++ behind)) = true) := by
      rintro ⟨hword, hstart, hmarker⟩
      refine h [] c gap rfl hstart ?_ ((atMarker_iff _).1 hmarker)
      simpa using endsInWord_eq_false_iff.1 hword
    rw [List.cons_append, scanFrom_cons, if_neg hno, ← endsInWord_concat before c, ih h.tail]
    simp

/-- The scan reads a directive that stands where one may start. -/
theorem scanFrom_directive {before text rest : List Char} {d : Directive}
    (ht : DirectiveText text d) (hword : WordBoundary before) (hmarker : Marker (text ++ rest)) :
    scanFrom (endsInWord before) (text ++ rest) = (scanFrom false rest).map (d :: ·) := by
  have hread := read_complete ht rest
  obtain ⟨c, tail, hcons⟩ : ∃ c tail, text ++ rest = c :: tail := by
    obtain @⟨name, blanks, args, as, ⟨c, cs, rfl, hc, -⟩, -, -⟩ := ht
    exact ⟨c, _, rfl⟩
  rw [hcons] at hread hmarker ⊢
  rw [scanFrom_cons,
    if_pos ⟨endsInWord_eq_false_iff.2 hword, hmarker.starts, (atMarker_iff _).2 hmarker⟩, hread]

theorem scanFrom_of_cut {before cs : List Char} {ds : List Directive} (h : Cut before cs ds) :
    scanFrom (endsInWord before) cs = .ok ds := by
  induction h with
  | prose hp =>
    have hscan := scanFrom_prose hp
    rw [List.append_nil] at hscan
    rw [hscan, scanFrom]
  | @directive before gap text rest d ds hp ht hw hm _ ih =>
    rw [List.append_assoc, scanFrom_prose hp, scanFrom_directive ht hw hm,
      ← ht.not_endsInWord (before ++ gap), ih]
    rfl

theorem cut_of_scanFrom {cs : List Char} {ds : List Directive} {before : List Char}
    (h : scanFrom (endsInWord before) cs = .ok ds) : Cut before cs ds := by
  -- on the length of the text: a directive takes many characters, prose one
  induction hn : cs.length using Nat.strong_induction_on generalizing cs ds before with
  | _ n ih =>
  cases cs with
  | nil =>
    rw [scanFrom] at h
    obtain rfl := Except.ok.inj h
    exact .prose (prose_nil before [])
  | cons c rest =>
    rw [scanFrom_cons] at h
    split at h
    · next hstart =>
      obtain ⟨hword, -, hmarker⟩ := hstart
      split at h
      · next d rest' hread =>
        obtain ⟨text, ht, hcut⟩ := read_sound hread
        have hlen := length_read hread
        cases hrec : scanFrom false rest' with
        | error failure => rw [hrec] at h; cases h
        | ok ds' =>
          rw [hrec] at h
          obtain rfl := Except.ok.inj h
          have hrest : Cut (before ++ [] ++ text) rest' ds' := by
            refine ih rest'.length (by omega) ?_ rfl
            rw [ht.not_endsInWord, hrec]
          have hm := (atMarker_iff _).1 hmarker
          rw [hcut] at hm ⊢
          show Cut before ([] ++ text ++ rest') (d :: ds')
          exact .directive (prose_nil before _) ht (by simpa using endsInWord_eq_false_iff.1 hword)
            hm hrest
      · simp at h
    · next hno =>
      rw [← endsInWord_concat before c] at h
      refine (ih rest.length (by simp [← hn]) h rfl).cons ?_
      intro hstart hword hm
      exact hno ⟨endsInWord_eq_false_iff.2 hword, hstart, (atMarker_iff _).2 hm⟩

/-! ### Names in directives -/

/-- The directive and its arguments have names of the grammar. -/
def WellNamed (d : Directive) : Prop :=
  IsName d.name.toList ∧ ∀ a ∈ d.arguments, IsName a.name.toList

instance (d : Directive) : Decidable (WellNamed d) := inferInstanceAs (Decidable (_ ∧ _))

theorem ArgumentText.isName {cs : List Char} {a : Argument} (h : ArgumentText cs a) :
    IsName a.name.toList := by
  obtain ⟨hname, -, -, -⟩ := h
  simpa using hname

theorem ArgumentsText.isName {cs : List Char} {as : List Argument} (h : ArgumentsText cs as) :
    ∀ a ∈ as, IsName a.name.toList := by
  induction h with
  | nil => simp
  | last ha _ =>
    intro a hmem
    obtain rfl := List.mem_singleton.1 hmem
    exact ha.isName
  | cons ha _ _ _ ih =>
    intro a hmem
    rcases List.mem_cons.1 hmem with rfl | hmem
    · exact ha.isName
    · exact ih a hmem

theorem DirectiveText.wellNamed {cs : List Char} {d : Directive} (h : DirectiveText cs d) :
    WellNamed d := by
  obtain ⟨hname, -, hargs⟩ := h
  exact ⟨by simpa using hname, hargs.isName⟩

theorem Cut.wellNamed {before cs : List Char} {ds : List Directive} (h : Cut before cs ds) :
    ∀ d ∈ ds, WellNamed d := by
  induction h with
  | prose _ => simp
  | directive _ ht _ _ _ ih =>
    intro d hmem
    rcases List.mem_cons.1 hmem with rfl | hmem
    · exact ht.wellNamed
    · exact ih d hmem

/-! ### Whole texts -/

theorem scan_eq_ok_iff_scanFrom {text : String} {ds : List Directive} :
    scan text = .ok ds ↔ scanFrom false text.toList = .ok ds := by
  rw [scan]
  cases scanFrom false text.toList <;> simp [Except.mapError]

theorem scan_eq_ok_iff {text : String} {ds : List Directive} :
    scan text = .ok ds ↔ Cut [] text.toList ds := by
  rw [scan_eq_ok_iff_scanFrom]
  constructor
  · intro h
    have h : scanFrom (endsInWord []) text.toList = .ok ds := h
    exact cut_of_scanFrom h
  · intro h
    exact scanFrom_of_cut h

/-- **The scan gives exactly the directives of the text's cut into prose and directives**, markers
being what the grammar says, and all names that it gives are names of the grammar. -/
theorem scan_eq_ok_iff_cut (text : String) (ds : List Directive) :
    (scan text = .ok ds ↔ Cut [] text.toList ds) ∧ (scan text = .ok ds → ∀ d ∈ ds, WellNamed d) ∧
      ∀ cs, atMarker cs = true ↔ Marker cs := by
  refine ⟨scan_eq_ok_iff, ?_, atMarker_iff⟩
  intro h
  exact (scan_eq_ok_iff.1 h).wellNamed

/-- A word that only ends like a marker, a trailing comma, a repeated name, an empty value, a quoted
text that looks like a directive, and two directives that touch. -/
theorem scan_eq_ok_iff_cut_touching :
    let text := "x1a(b) é(a = 1,a=,b=\"c(d=1)\",)f()"
    let ds : List Directive :=
  [⟨"é", [⟨"a", .integer 1⟩, ⟨"a", .text ""⟩, ⟨"b", .text "c(d=1)"⟩]⟩, ⟨"f", []⟩]
    scan text = .ok ds ∧ Cut [] text.toList ds ∧ ∀ d ∈ ds, WellNamed d := by
  intro text ds
  have h : scan text = .ok ds := by decide +kernel
  exact ⟨h, (scan_eq_ok_iff_cut text ds).1.1 h, (scan_eq_ok_iff_cut text ds).2.1 h⟩

end Companion.Directive
