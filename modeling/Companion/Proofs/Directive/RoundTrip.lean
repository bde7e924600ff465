import Mathlib
import Companion.Proofs.Directive.Scan
import Companion.Proofs.Scalar

/-! Directives that are written down are read back.

The display of a directive is a sentence of the grammar and starts with a marker. So a text made of
displays, with anything between them that holds no character of a name, has the obvious cut, and
`scan_interleaved` says that the scan finds it: whatever the values hold, and also where directives
touch. -/
namespace Companion.Directive
open Text

/-! ### Displays are sentences of the grammar -/

theorem quotedText_escapePlain (s : List Char) : QuotedText (s.flatMap escapePlain) s := by
  induction s with
  | nil => exact .nil
  | cons c s ih =>
    rw [List.flatMap_cons, escapePlain]
    split
    · next h => subst h; exact .escape .quote ih
    · split
      · next h => subst h; exact .escape .backslash ih
      · split
        · next h => subst h; exact .escape .newline ih
        · split
          · next h => subst h; exact .escape .tab ih
          · split
            · next h => subst h; exact .escape .carriageReturn ih
            · next hquote hback _ _ _ => exact .plain hquote hback ih

theorem blank_codes_no_digits : whiteSpace.codes.all (fun n => !(Char.ofNat n).isDigit) = true := by
  decide +kernel

theorem isBare_of_isDigit {c : Char} (h : c.isDigit = true) : isBare c = true := by
  cases hbare : isBare c with
  | true => rfl
  | false =>
    simp only [isBare, Bool.not_eq_false', Bool.or_eq_true, beq_iff_eq] at hbare
    rcases hbare with ((((hblank | rfl) | rfl) | rfl) | rfl) | rfl
    · have hno := List.all_eq_true.1 blank_codes_no_digits c.toNat (Ranges.mem_codes_of_has hblank)
      rw [Char.ofNat_toNat, h] at hno
      exact hno
    all_goals exact absurd h (by decide)

theorem valueText_display (v : Scalar) : ValueText v.display.toList v := by
  cases v with
  | text s =>
    have h := ValueText.quoted (quotedText_escapePlain s.toList)
    simpa [Scalar.display, quotePlain, quoteWith] using h
  | integer i =>
    have hbare : ∀ c ∈ decimal i.toInt, isBare c = true := by
      intro c hc
      rcases mem_decimal hc with rfl | hdigit
      · decide
      · exact isBare_of_isDigit hdigit
    have h := ValueText.bare hbare
    rw [Scalar.classify_decimal] at h
    simpa [Scalar.display, Scalar.plain] using h
  | boolean b =>
    have hbare : ∀ c ∈ (Scalar.plain (.boolean b)).toList, isBare c = true := by
      rw [← List.all_eq_true]
      cases b <;> decide
    have h := ValueText.bare hbare
    rw [Scalar.classify_boolean] at h
    simpa [Scalar.display] using h

theorem argumentText_display {a : Argument} (h : IsName a.name.toList) :
    ArgumentText a.display.toList a := by
  have h := ArgumentText.mk h blanks_nil blanks_nil (valueText_display a.value)
  simpa [Argument.display] using h

theorem argumentsText_display {as : List Argument} (h : ∀ a ∈ as, IsName a.name.toList) :
    ArgumentsText (String.intercalate ", " (as.map Argument.display)).toList as := by
  induction as with
  | nil => exact .nil
  | cons a as ih =>
    have ha := argumentText_display (h a List.mem_cons_self)
    cases as with
    | nil => simpa using ArgumentsText.last ha blanks_nil
    | cons b as =>
      have hrest := ih fun c hc => h c (List.mem_cons_of_mem a hc)
      have hspace : Blanks [' '] := by
        intro c hc
        obtain rfl := List.mem_singleton.1 hc
        decide
      have h := ArgumentsText.cons ha blanks_nil hspace hrest
      simpa [String.toList_intercalate, List.intercalate_cons_cons] using h

theorem directiveText_display {d : Directive} (h : WellNamed d) :
    DirectiveText d.display.toList d := by
  have h := DirectiveText.mk h.1 blanks_nil (argumentsText_display h.2)
  simpa [display] using h

/-- The display of a directive starts with a marker: what follows the parenthesis is another one, or
the first argument's name and equals sign. -/
theorem marker_display {d : Directive} (h : WellNamed d) (rest : List Char) :
    Marker (d.display.toList ++ rest) := by
  obtain ⟨name, as⟩ := d
  obtain ⟨hname, hargs⟩ := h
  have hspaces : MarkerSpaces [] := by
    intro c hc
    simp at hc
  cases as with
  | nil => simpa [display] using Marker.empty rest hname hspaces
  | cons a as =>
    have ha := hargs a List.mem_cons_self
    cases as with
    | nil =>
      have h := Marker.argument (a.value.display.toList ++ ')' :: rest) hname hspaces ha hspaces
      simpa [display, Argument.display] using h
    | cons b as =>
      have h := Marker.argument (a.value.display.toList ++ ", ".toList ++
        (String.intercalate ", " ((b :: as).map Argument.display)).toList ++ ')' :: rest)
        hname hspaces ha hspaces
      simpa [display, Argument.display, String.toList_intercalate, List.intercalate_cons_cons]
        using h

/-! ### Sequences of directives -/

/-- A text that can stand between directives: it holds no character of a name. -/
def Separates (s : String) : Prop := ∀ c ∈ s.toList, isNameContinue c = false

instance (s : String) : Decidable (Separates s) :=
  decidable_of_iff (s.toList.all fun c => !isNameContinue c) (by simp [Separates])

/-- Directives in a text, the first behind `first` and each with what follows it. -/
def interleaved (first : String) (parts : List (Directive × String)) : String :=
  first ++ String.join (parts.map fun part => part.1.display ++ part.2)

theorem Separates.prose {s : String} (h : Separates s) (before behind : List Char) :
    Prose before s.toList behind := by
  intro a c b heq hstart
  have hc := not_isNameStart_of_not_continue (h c (by rw [heq]; simp))
  rw [hc] at hstart
  cases hstart

theorem Separates.wordBoundary {s : String} (h : Separates s) {before : List Char}
    (hbefore : WordBoundary before) : WordBoundary (before ++ s.toList) := by
  intro c hc
  rw [List.getLast?_append] at hc
  cases hlast : s.toList.getLast? with
  | none => exact hbefore c (by simpa [hlast] using hc)
  | some d =>
    obtain rfl : d = c := by simpa [hlast] using hc
    exact h d (List.mem_of_getLast? hlast)

theorem cut_interleaved {first : String} {parts : List (Directive × String)}
    (hfirst : Separates first) (hparts : ∀ part ∈ parts, WellNamed part.1 ∧ Separates part.2)
    {before : List Char} (hbefore : WordBoundary before) :
    Cut before (interleaved first parts).toList (parts.map Prod.fst) := by
  induction parts generalizing first before with
  | nil => simpa [interleaved] using Cut.prose (hfirst.prose before [])
  | cons part parts ih =>
    obtain ⟨d, behind⟩ := part
    obtain ⟨hd, hbehind⟩ := hparts (d, behind) List.mem_cons_self
    have htext := directiveText_display hd
    have hword := hfirst.wordBoundary hbefore
    have hrest : Cut (before ++ first.toList ++ d.display.toList) (interleaved behind parts).toList
        (parts.map Prod.fst) := by
      refine ih hbehind (fun p hp => hparts p (List.mem_cons_of_mem _ hp)) ?_
      exact endsInWord_eq_false_iff.1 (htext.not_endsInWord _)
    have hcut := Cut.directive (hfirst.prose before _) htext hword
      (marker_display hd (interleaved behind parts).toList) hrest
    simpa [interleaved] using hcut

/-- **Directives written into a text are read back from it**, in order and with all their arguments,
whatever stands between them, as long as that holds no character of a name. -/
theorem scan_interleaved (first : String) (parts : List (Directive × String))
    (hfirst : Separates first) (hparts : ∀ part ∈ parts, WellNamed part.1 ∧ Separates part.2) :
    scan (interleaved first parts) = .ok (parts.map Prod.fst) := by
  refine scan_eq_ok_iff.2 (cut_interleaved hfirst hparts ?_)
  intro c hc
  simp at hc

/-- The least integer, a repeated name, a text that looks like a directive, and no gap between two
directives. -/
theorem scan_interleaved_touching :
    let d : Directive :=
  ⟨"i18n", [⟨"code", .integer (-9223372036854775808)⟩, ⟨"zh-CN", .text "a(b=\"c\")\n\\"⟩,
      ⟨"zh-CN", .boolean false⟩]⟩
    let e : Directive := ⟨"é", []⟩
    WellNamed d ∧ WellNamed e ∧ Separates "(" ∧ Separates "" ∧
      scan (interleaved "(" [(d, ""), (e, "")]) = .ok [d, e] := by
  intro d e
  have hd : WellNamed d := by decide +kernel
  have he : WellNamed e := by decide +kernel
  have hopen : Separates "(" := by decide
  have hnone : Separates "" := by decide
  refine ⟨hd, he, hopen, hnone, scan_interleaved "(" [(d, ""), (e, "")] hopen ?_⟩
  intro part hpart
  simp only [List.mem_cons, List.not_mem_nil, or_false] at hpart
  rcases hpart with rfl | rfl
  · exact ⟨hd, hnone⟩
  · exact ⟨he, hnone⟩

end Companion.Directive
