import Mathlib
import Companion.Proofs.Directive.Scan

/-! How far a scan has come.

A scan goes from place to place in a text. `Reaches` says that it comes from one place to another
and which directives it reads on the way, with all that follows in view, since markers look ahead.
So a scan gives directives when it reaches the end of the text (`scanFrom_eq_ok_iff_reaches`), and
it fails when it reaches a marker at which no directive can be read
(`scanFrom_eq_error_iff_reaches`).

When more text follows, a place that was prose may become a marker. That takes the first closing
parenthesis or equals sign behind it (`Marker.of_append`), so the scan keeps its way to every place
behind which one of these stands (`Reaches.append`). -/
namespace Companion.Directive
open Text

/-! ### Heads of markers -/

/-- What of a marker stands in front of the mark that decides it, with that mark. -/
inductive MarkerHead : List Char → Char → Prop where
  | empty {name spaces : List Char} : IsName name → MarkerSpaces spaces →
      MarkerHead (name ++ '(' :: spaces) ')'
  | argument {name spaces arg spaces' : List Char} : IsName name → MarkerSpaces spaces →
      IsName arg →
      MarkerSpaces spaces' → MarkerHead (name ++ '(' :: spaces ++ arg ++ spaces') '='

theorem marker_iff_head {cs : List Char} :
    Marker cs ↔ ∃ head mark rest, MarkerHead head mark ∧ cs = head ++ mark :: rest := by
  constructor
  · intro h
    cases h with
    | empty rest hname hspaces => exact ⟨_, _, rest, .empty hname hspaces, rfl⟩
    | argument rest hname hspaces harg hspaces' =>
      exact ⟨_, _, rest, .argument hname hspaces harg hspaces', rfl⟩
  · rintro ⟨head, mark, rest, hhead, rfl⟩
    cases hhead with
    | empty hname hspaces => exact .empty rest hname hspaces
    | argument hname hspaces harg hspaces' => exact .argument rest hname hspaces harg hspaces'

theorem Marker.append {cs : List Char} (h : Marker cs) (s : List Char) : Marker (cs ++ s) := by
  obtain ⟨head, mark, rest, hhead, rfl⟩ := marker_iff_head.1 h
  exact marker_iff_head.2 ⟨head, mark, rest ++ s, hhead, by simp⟩

theorem IsName.isNameContinue {name : List Char} (h : IsName name) :
    ∀ c ∈ name, isNameContinue c = true := by
  obtain ⟨c, cs, rfl, hc, hcs⟩ := h
  rw [List.forall_mem_cons]
  exact ⟨isNameContinue_of_isNameStart hc, hcs⟩

/-- The mark that decides a marker. -/
theorem MarkerHead.mark {head : List Char} {mark : Char} (h : MarkerHead head mark) :
    mark = ')' ∨ mark = '=' := by
  cases h with
  | empty => exact Or.inl rfl
  | argument => exact Or.inr rfl

/-- What may stand in front of it. -/
theorem MarkerHead.chars {head : List Char} {mark : Char} (h : MarkerHead head mark) :
    ∀ c ∈ head, isNameContinue c = true ∨ isMarkerSpace c = true ∨ c = '(' := by
  cases h with
  | empty hname hspaces =>
    intro c hc
    rcases List.mem_append.1 hc with hc | hc
    · exact Or.inl (hname.isNameContinue c hc)
    · rcases List.mem_cons.1 hc with rfl | hc
      · exact Or.inr (Or.inr rfl)
      · exact Or.inr (Or.inl (hspaces c hc))
  | argument hname hspaces harg hspaces' =>
    intro c hc
    simp only [List.append_assoc, List.cons_append, List.mem_append, List.mem_cons] at hc
    rcases hc with hc | rfl | hc | hc | hc
    · exact Or.inl (hname.isNameContinue c hc)
    · exact Or.inr (Or.inr rfl)
    · exact Or.inr (Or.inl (hspaces c hc))
    · exact Or.inl (harg.isNameContinue c hc)
    · exact Or.inr (Or.inl (hspaces' c hc))

theorem MarkerHead.not_mark {head : List Char} {mark : Char} (h : MarkerHead head mark) {c : Char}
    (hc : c ∈ head) : ¬ (c = ')' ∨ c = '=') := by
  have hchar := h.chars c hc
  rintro (rfl | rfl) <;> exact absurd hchar (by decide)

/-- What more text makes a marker is one already, or is cut within its head. -/
theorem Marker.of_append {cs s : List Char} (h : Marker (cs ++ s)) :
    Marker cs ∨ ∃ tail mark rest, MarkerHead (cs ++ tail) mark ∧ s = tail ++ mark :: rest := by
  obtain ⟨head, mark, rest, hhead, hcut⟩ := marker_iff_head.1 h
  rcases List.append_eq_append_iff.1 hcut with ⟨tail, rfl, hs⟩ | ⟨behind, hcs, hrest⟩
  · exact Or.inr ⟨tail, mark, rest, hhead, hs⟩
  · cases behind with
    | nil => exact Or.inr ⟨[], mark, rest, by simpa [hcs] using hhead, by simpa using hrest.symm⟩
    | cons c behind =>
      obtain ⟨rfl, rfl⟩ := List.cons.inj hrest
      exact Or.inl (marker_iff_head.2 ⟨head, mark, behind, hhead, hcs⟩)

theorem Marker.exists_mark {cs : List Char} (h : Marker cs) : ∃ c ∈ cs, c = ')' ∨ c = '=' := by
  obtain ⟨head, mark, rest, hhead, rfl⟩ := marker_iff_head.1 h
  exact ⟨mark, by simp, hhead.mark⟩

/-- Behind a closing parenthesis or an equals sign more text makes no marker. -/
theorem Marker.of_append_of_mark {cs s : List Char} (h : Marker (cs ++ s)) {c : Char} (hc : c ∈ cs)
    (hmark : c = ')' ∨ c = '=') : Marker cs := by
  rcases h.of_append with h | ⟨tail, mark, rest, hhead, -⟩
  · exact h
  · exact absurd hmark (hhead.not_mark (List.mem_append_left tail hc))

/-! ### The way of the scan -/

/-- From the place behind `before`, where the text goes on with `cs`, the scan comes to the place
behind `front`, where it goes on with `rest`, and reads `ds` on the way. -/
inductive Reaches : List Char → List Char → List Directive → List Char → List Char → Prop where
  | here (before rest : List Char) : Reaches before rest [] before rest
  | prose {before cs front rest : List Char} {c : Char} {ds : List Directive} :
      (WordBoundary before → ¬ Marker (c :: cs)) → Reaches (before ++ [c]) cs ds front rest →
      Reaches before (c :: cs) ds front rest
  | directive {before text cs front rest : List Char} {d : Directive} {ds : List Directive} :
      WordBoundary before → Marker (text ++ cs) → DirectiveText text d →
      Reaches (before ++ text) cs ds front rest → Reaches before (text ++ cs) (d :: ds) front rest

variable {before cs front rest : List Char} {ds : List Directive}

theorem endsInWord_nil : endsInWord [] = false := rfl

/-- The text stays the same on the way. -/
theorem Reaches.append_eq (h : Reaches before cs ds front rest) : before ++ cs = front ++ rest := by
  induction h with
  | here => rfl
  | prose _ _ ih => simpa using ih
  | directive _ _ _ _ ih => simpa using ih

theorem Reaches.suffix (h : Reaches before cs ds front rest) : rest <:+ cs := by
  induction h with
  | here => exact List.suffix_rfl
  | prose _ _ ih => exact ih.trans (List.suffix_cons _ _)
  | directive _ _ _ _ ih => exact ih.trans (List.suffix_append _ _)

theorem Reaches.scanFrom_eq (h : Reaches before cs ds front rest) :
    scanFrom (endsInWord before) cs = (scanFrom (endsInWord front) rest).map (ds ++ ·) := by
  induction h with
  | here before rest => cases scanFrom (endsInWord before) rest <;> rfl
  | @prose before cs front rest c ds hno _ ih =>
    rw [scanFrom_cons, if_neg, ← endsInWord_concat before c, ih]
    rintro ⟨hword, -, hmarker⟩
    exact hno (endsInWord_eq_false_iff.1 hword) ((atMarker_iff _).1 hmarker)
  | @directive before text cs front rest d ds hword hmarker htext _ ih =>
    rw [scanFrom_directive htext hword hmarker, ← htext.not_endsInWord before, ih]
    cases scanFrom (endsInWord front) rest <;> rfl

/-- Where a marker stands that no directive follows, the scan fails. -/
theorem scanFrom_eq_error {failure : Failure} (hword : WordBoundary before) (hmarker : Marker cs)
    (hread : read cs = .error failure) : scanFrom (endsInWord before) cs = .error failure := by
  have hat := (atMarker_iff cs).2 hmarker
  cases cs with
  | nil => exact absurd hat (by decide)
  | cons c cs =>
    rw [scanFrom_cons, if_pos ⟨endsInWord_eq_false_iff.2 hword, hmarker.starts, hat⟩, hread]

/-- A scan reaches the end of the text, or a marker at which no directive can be read. -/
theorem exists_reaches (before cs : List Char) :
    (∃ ds, Reaches before cs ds (before ++ cs) []) ∨
      ∃ ds front rest failure, Reaches before cs ds front rest ∧
      WordBoundary front ∧ Marker rest ∧ read rest = .error failure := by
  -- on the length of the text: a directive takes many characters, prose one
  induction hn : cs.length using Nat.strong_induction_on generalizing before cs with
  | _ n ih =>
  cases cs with
  | nil => exact Or.inl ⟨[], by simpa using Reaches.here before []⟩
  | cons c cs =>
    by_cases hstart : WordBoundary before ∧ Marker (c :: cs)
    · obtain ⟨hword, hmarker⟩ := hstart
      cases hread : read (c :: cs) with
      | error failure =>
        exact Or.inr ⟨[], before, c :: cs, failure, .here _ _, hword, hmarker, hread⟩
      | ok found =>
        obtain ⟨d, tail⟩ := found
        have hlen := length_read hread
        obtain ⟨text, htext, hcut⟩ := read_sound hread
        rw [hcut] at hmarker ⊢
        rcases ih tail.length (by omega) (before ++ text) tail rfl with
          ⟨ds, hreach⟩ | ⟨ds, front, rest, failure, hreach, hfault⟩
        · exact Or.inl ⟨d :: ds, by simpa using Reaches.directive hword hmarker htext hreach⟩
        · exact Or.inr
            ⟨d :: ds, front, rest, failure, .directive hword hmarker htext hreach, hfault⟩
    · have hno : WordBoundary before → ¬ Marker (c :: cs) :=
        fun hword hmarker => hstart ⟨hword, hmarker⟩
      rcases ih cs.length (by simp [← hn]) (before ++ [c]) cs rfl with
        ⟨ds, hreach⟩ | ⟨ds, front, rest, failure, hreach, hfault⟩
      · exact Or.inl ⟨ds, by simpa using Reaches.prose hno hreach⟩
      · exact Or.inr ⟨ds, front, rest, failure, .prose hno hreach, hfault⟩

theorem scanFrom_of_reaches_nil (h : Reaches before cs ds front []) :
    scanFrom (endsInWord before) cs = .ok ds := by
  rw [h.scanFrom_eq, scanFrom]
  simp [Except.map]

theorem scanFrom_of_reaches_fault {failure : Failure} (h : Reaches before cs ds front rest)
    (hword : WordBoundary front) (hmarker : Marker rest) (hread : read rest = .error failure) :
    scanFrom (endsInWord before) cs = .error failure := by
  rw [h.scanFrom_eq, scanFrom_eq_error hword hmarker hread]
  rfl

/-- **A scan gives the directives that it reads on its way to the end.** -/
theorem scanFrom_eq_ok_iff_reaches :
    scanFrom (endsInWord before) cs = .ok ds ↔ Reaches before cs ds (before ++ cs) [] := by
  constructor
  · intro h
    rcases exists_reaches before cs with
      ⟨ds', hreach⟩ | ⟨ds', front, rest, failure, hreach, hword, hmarker, hread⟩
    · rw [scanFrom_of_reaches_nil hreach] at h
      rwa [Except.ok.inj h] at hreach
    · rw [scanFrom_of_reaches_fault hreach hword hmarker hread] at h
      cases h
  · exact scanFrom_of_reaches_nil

/-- **A scan fails at a marker that it reaches and that starts no directive.** -/
theorem scanFrom_eq_error_iff_reaches {failure : Failure} :
    scanFrom (endsInWord before) cs = .error failure ↔
      ∃ ds front rest, Reaches before cs ds front rest ∧
      WordBoundary front ∧ Marker rest ∧ read rest = .error failure := by
  constructor
  · intro h
    rcases exists_reaches before cs with
      ⟨ds', hreach⟩ | ⟨ds', front, rest, failure', hreach, hword, hmarker, hread⟩
    · rw [scanFrom_of_reaches_nil hreach] at h
      cases h
    · have hfail := scanFrom_of_reaches_fault hreach hword hmarker hread
      rw [h] at hfail
      obtain rfl := Except.error.inj hfail
      exact ⟨ds', front, rest, hreach, hword, hmarker, hread⟩
  · rintro ⟨ds, front, rest, hreach, hword, hmarker, hread⟩
    exact scanFrom_of_reaches_fault hreach hword hmarker hread

/-! ### More text -/

/-- The scan keeps its way where more text makes no new marker on it. -/
theorem Reaches.append (h : Reaches before cs ds front rest) {s : List Char}
    (hkeep : ∀ tail, rest <:+ tail → Marker (tail ++ s) → Marker tail) :
    Reaches before (cs ++ s) ds front (rest ++ s) := by
  induction h with
  | here before rest => exact .here before _
  | @prose before cs front rest c ds hno hreach ih =>
    refine .prose ?_ (ih hkeep)
    intro hword hmarker
    exact hno hword (hkeep _ (hreach.suffix.trans (List.suffix_cons c cs)) hmarker)
  | @directive before text cs front rest d ds hword hmarker htext _ ih =>
    rw [List.append_assoc]
    refine .directive hword ?_ htext (ih hkeep)
    simpa using hmarker.append s

theorem DirectiveText.close_mem {text : List Char} {d : Directive} (h : DirectiveText text d) :
    ')' ∈ text := by
  cases h
  simp

/-- Without a closing parenthesis no directive is read. -/
theorem Reaches.eq_nil (h : Reaches before cs ds front rest) (hcs : ')' ∉ cs) : ds = [] := by
  induction h with
  | here => rfl
  | prose _ _ ih => exact ih fun hmem => hcs (List.mem_cons_of_mem _ hmem)
  | directive _ _ htext _ _ => exact absurd (List.mem_append_left _ htext.close_mem) hcs

/-- When more text follows, a scan that came to the end reads the same directives first. -/
theorem Reaches.exists_append (h : Reaches before cs ds front []) (s : List Char) :
    ∃ front' rest', Reaches before (cs ++ s) ds front' rest' := by
  generalize hrest : ([] : List Char) = rest at h
  induction h with
  | here before rest => exact ⟨before, rest ++ s, .here _ _⟩
  | @prose before cs front rest c ds hno hreach ih =>
    by_cases hnew : WordBoundary before ∧ Marker (c :: cs ++ s)
    · -- the new marker holds all of the old text, so no directive can be in it
      obtain ⟨hword, hmarker⟩ := hnew
      have hclose : ')' ∉ cs := fun hmem =>
        hno hword (hmarker.of_append_of_mark (List.mem_cons_of_mem c hmem) (Or.inl rfl))
      obtain rfl := hreach.eq_nil hclose
      exact ⟨before, c :: cs ++ s, .here _ _⟩
    · obtain ⟨front', rest', hreach'⟩ := ih hrest
      exact ⟨front', rest', .prose (fun hword hmarker => hnew ⟨hword, hmarker⟩) hreach'⟩
  | @directive before text cs front rest d ds hword hmarker htext _ ih =>
    obtain ⟨front', rest', hreach'⟩ := ih hrest
    refine ⟨front', rest', ?_⟩
    rw [List.append_assoc]
    exact .directive hword (by simpa using hmarker.append s) htext hreach'

end Companion.Directive
