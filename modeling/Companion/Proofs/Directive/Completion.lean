import Mathlib
import Companion.Proofs.Directive.Concatenation

/-! Texts that stop within a directive.

When what is missing is missing at the very end, the directive is right as far as it goes: a closing
parenthesis completes it, or an equals sign and a closing parenthesis where the text stops behind
the name of an argument (`read_ended`). `scan_eq_unexpectedEnd_iff` says that an unexpected end is
reported of exactly the texts that cannot be read but can be completed in one of these two ways, and
that the directive it names is the one completed. -/
namespace Companion.Directive
open Text

/-! ### Endings -/

/-- What completes a directive: a closing parenthesis, with an equals sign in front of it or
without. -/
def Ending (s : List Char) : Prop := s = [')'] ∨ s = ['=', ')']

variable {before cs s rest : List Char} {directive : String} {expected : Expected} {d : Directive}

theorem ending_toList {s : String} : Ending s.toList ↔ s = ")" ∨ s = "=)" := by
  rw [Ending, ← @String.toList_inj s, ← @String.toList_inj s]
  rfl

/-- Behind whole arguments with their commas further arguments may stand. -/
theorem Opening.followed {front args : List Char} {as bs : List Argument} (h : Opening front as)
    (hargs : ArgumentsText args bs) :
    ∃ blanks args', Blanks blanks ∧ ArgumentsText args' (as ++ bs) ∧
      front ++ args = blanks ++ args' := by
  induction h with
  | blanks hblanks => exact ⟨_, args, hblanks, hargs, rfl⟩
  | @argument blanks cs before front a as hblanks hcs hbefore _ ih =>
    obtain ⟨behind, args', hbehind, hargs', hcut⟩ := ih
    refine ⟨blanks, cs ++ before ++ ',' :: behind ++ args', hblanks,
      .cons hcs hbefore hbehind hargs', ?_⟩
    simp [hcut]

/-- What of an argument stands at the end of a text is none, a whole one, or one that lacks its
equals sign. -/
theorem ArgumentFault.ended {within : List Char} (h : ArgumentFault within (.missing expected [])) :
    ∃ sign as, Ending (sign ++ [')']) ∧ ArgumentsText (within ++ sign) as := by
  cases h with
  | name => exact ⟨[], [], Or.inl rfl, .nil⟩
  | equals hname hblanks =>
    have harg :=
      ArgumentText.mk hname hblanks blanks_nil (.bare (by simp : ∀ c ∈ [], isBare c = true))
    exact ⟨['='], _, Or.inr rfl, by simpa using ArgumentsText.last harg blanks_nil⟩
  | separator hcs hblanks =>
    exact ⟨[], _, Or.inl rfl, by simpa using ArgumentsText.last hcs hblanks⟩

/-! ### Completing a directive -/

/-- **A directive that lacks something at the end of the text is completed by an ending.** -/
theorem read_ended (hmarker : Marker cs) (h : read cs = .error ⟨directive, .missing expected []⟩) :
    ∃ s as, Ending s ∧ DirectiveText (cs ++ s) ⟨directive, as⟩ := by
  obtain ⟨hname, front, as, within, hcut, hfront, hwithin, -⟩ := read_fault hmarker h
  obtain ⟨sign, bs, hending, hargs⟩ := hwithin.ended
  obtain ⟨blanks, args, hblanks, hargs, htail⟩ := hfront.followed hargs
  refine ⟨sign ++ [')'], as ++ bs, hending, ?_⟩
  have htext := DirectiveText.mk hname hblanks hargs
  rw [String.ofList_toList] at htext
  convert htext using 1
  rw [hcut]
  simp [← htail, Fault.rest]

/-- A text that ends in its only separator has nothing behind it. -/
theorem eq_nil_of_append_eq {sep : Char} {mid front : List Char} (hmid : sep ∉ mid)
    (h : mid ++ [sep] = front ++ sep :: rest) : rest = [] := by
  rcases List.eq_nil_or_concat rest with rfl | ⟨rest, c, rfl⟩
  · rfl
  · have hcut : mid ++ [sep] = (front ++ sep :: rest) ++ [c] := by simpa using h
    obtain ⟨rfl, -⟩ := List.append_inj' hcut rfl
    simp at hmid

/-- An ending completes a directive with its last character. -/
theorem eq_nil_of_read_append {failure : Failure} (hs : Ending s) (h : read cs = .error failure)
    (hread : read (cs ++ s) = .ok (d, rest)) : rest = [] := by
  obtain ⟨mid, rfl, hmid⟩ : ∃ mid, s = mid ++ [')'] ∧ ')' ∉ mid := by
    rcases hs with rfl | rfl
    · exact ⟨[], rfl, by decide⟩
    · exact ⟨['='], rfl, by decide⟩
  obtain ⟨text, @⟨name, blanks, args, as, hname, hblanks, hargs⟩, hcut⟩ := read_sound hread
  have hcut' : cs ++ (mid ++ [')']) = (name ++ '(' :: blanks ++ args) ++ ')' :: rest := by
    simpa using hcut
  rcases List.append_eq_append_iff.1 hcut' with ⟨x, -, hx⟩ | ⟨x, hx, hx'⟩
  · exact eq_nil_of_append_eq hmid hx
  · cases x with
    | nil => exact @eq_nil_of_append_eq _ _ _ [] hmid (by simpa using hx'.symm)
    | cons c x =>
      -- the directive would end within the text that was too short for it
      obtain ⟨rfl, -⟩ := List.cons.inj hx'
      have hshort := read_complete (.mk hname hblanks hargs) x
      have hcs : name ++ '(' :: blanks ++ args ++ [')'] ++ x = cs := by simp [hx]
      rw [hcs, h] at hshort
      cases hshort

/-- The name of a directive is read before anything can be missing. -/
theorem name_of_read_append {fault : Fault} (hmarker : Marker cs)
    (h : read cs = .error ⟨directive, fault⟩) (hread : read (cs ++ s) = .ok (d, rest)) :
    d.name = directive := by
  obtain ⟨name, tail, hname⟩ := exists_readName_of_marker hmarker
  have hname' : readName (cs ++ s) = some (name, '(' :: (tail ++ s)) :=
    readName_append hname (by simp) s
  rw [read_of_name hname] at h
  rw [read_of_name hname'] at hread
  cases hargs : readArguments tail with
  | ok found =>
    rw [hargs] at h
    cases h
  | error fault' =>
    rw [hargs] at h
    obtain ⟨rfl, -⟩ := Failure.mk.inj (Except.error.inj h)
    cases hargs' : readArguments (tail ++ s) with
    | error fault'' =>
      rw [hargs'] at hread
      cases hread
    | ok found =>
      rw [hargs'] at hread
      obtain ⟨rfl, -⟩ := Prod.mk.inj (Except.ok.inj hread)
      rfl

/-! ### Completing a text -/

/-- A scan that comes to the end of the text within a directive reads the same directives when an
ending follows, and then the one that was too short, if the ending completes it. -/
theorem scanFrom_append_ending
    (h : scanFrom (endsInWord before) cs = .error ⟨directive, .missing expected []⟩) :
    ∃ ds rest, Marker rest ∧ read rest = .error ⟨directive, .missing expected []⟩ ∧
      ∀ s, Ending s → ∀ ds', scanFrom (endsInWord before) (cs ++ s) = .ok ds' ↔
        ∃ d, read (rest ++ s) = .ok (d, []) ∧ ds' = ds ++ [d] := by
  obtain ⟨ds, front, rest, hreach, hword, hmarker, hread⟩ := scanFrom_eq_error_iff_reaches.1 h
  refine ⟨ds, rest, hmarker, hread, fun s hs ds' => ?_⟩
  -- the marker of the directive holds a mark, so every place in front of it is decided
  obtain ⟨c, hc, hmark⟩ := hmarker.exists_mark
  have hreach' : Reaches before (cs ++ s) ds front (rest ++ s) :=
    hreach.append fun tail hsuffix hm => hm.of_append_of_mark (hsuffix.subset hc) hmark
  have hmarker' := hmarker.append s
  rw [hreach'.scanFrom_eq]
  cases hread' : read (rest ++ s) with
  | error failure => simp [scanFrom_eq_error hword hmarker' hread', Except.map]
  | ok found =>
    obtain ⟨d, behind⟩ := found
    obtain rfl := eq_nil_of_read_append hs hread hread'
    obtain ⟨text, htext, hcut⟩ := read_sound hread'
    rw [hcut] at hmarker' ⊢
    rw [scanFrom_directive htext hword hmarker', scanFrom]
    simp [Except.map, eq_comm]

/-- A text that cannot be read but with an ending stops within a directive. -/
theorem missing_of_scanFrom_append {fault : Fault} {ds : List Directive} (hs : Ending s)
    (h : scanFrom (endsInWord before) cs = .error ⟨directive, fault⟩)
    (hcomplete : scanFrom (endsInWord before) (cs ++ s) = .ok ds) :
    ∃ expected, fault = .missing expected [] := by
  have hfinal : ¬ fault.Final s := by
    intro hfinal
    rw [scanFrom_append_fault h hfinal] at hcomplete
    cases hcomplete
  cases fault with
  | missing expected rest => exact ⟨expected, by simpa [Fault.Final] using hfinal⟩
  | unterminated rest =>
    have hquote : '"' ∉ s := by
      rcases hs with rfl | rfl <;> decide
    exact absurd hquote hfinal

/-- **An unexpected end is reported of the texts that only lack an ending**, and it names the
directive that the ending completes, which is the last one then. -/
theorem scan_eq_unexpectedEnd_iff (t : String) (directive : String) :
    scan t = .error (.unexpectedEnd directive) ↔ (∃ e, scan t = .error e) ∧
      ∃ s, (s = ")" ∨ s = "=)") ∧ ∃ ds d, scan (t ++ s) = .ok (ds ++ [d]) ∧ d.name = directive := by
  constructor
  · intro h
    obtain ⟨failure, hscan, hfailure⟩ := scan_eq_error_iff.1 h
    obtain ⟨expected, rfl⟩ := ofFailure_eq_unexpectedEnd hfailure
    obtain ⟨ds, rest, hmarker, hread, hendings⟩ := @scanFrom_append_ending [] _ _ _ hscan
    obtain ⟨s, as, hs, htext⟩ := read_ended hmarker hread
    have hcomplete : read (rest ++ s) = .ok (⟨directive, as⟩, []) := by
      simpa using read_complete htext []
    refine ⟨⟨_, h⟩, String.ofList s, ending_toList.1 (by rwa [String.toList_ofList]), ds,
      ⟨directive, as⟩, ?_, rfl⟩
    rw [scan_eq_ok_iff_scanFrom, String.toList_append, String.toList_ofList]
    exact (hendings s hs _).2 ⟨_, hcomplete, rfl⟩
  · rintro ⟨⟨e, h⟩, s, hs, ds, d, hcomplete, rfl⟩
    obtain ⟨⟨name, fault⟩, hscan, rfl⟩ := scan_eq_error_iff.1 h
    rw [scan_eq_ok_iff_scanFrom, String.toList_append] at hcomplete
    have hs := ending_toList.2 hs
    obtain ⟨expected, rfl⟩ := @missing_of_scanFrom_append [] _ _ _ _ _ hs hscan hcomplete
    obtain ⟨ds', rest, hmarker, hread, hendings⟩ := @scanFrom_append_ending [] _ _ _ hscan
    obtain ⟨d', hread', hds⟩ := (hendings _ hs _).1 hcomplete
    obtain rfl : d = d' := List.singleton_inj.1 (List.append_inj' hds rfl).2
    rw [h, name_of_read_append hmarker hread hread']
    rfl

/-- A text that stops in a blank behind the name of a second argument: the parenthesis alone does
not complete it. -/
theorem scan_eq_unexpectedEnd_iff_named :
    let t := "a() é(b=\"(\", c\u3000"
    scan t = .error (.unexpectedEnd "é") ∧
      (∃ s, (s = ")" ∨ s = "=)") ∧ ∃ ds d, scan (t ++ s) = .ok (ds ++ [d]) ∧ d.name = "é") ∧
      scan (t ++ ")") = .error (.malformed "é" 18 .equals ")") := by
  intro t
  have h : scan t = .error (.unexpectedEnd "é") := by decide +kernel
  exact ⟨h, ((scan_eq_unexpectedEnd_iff t "é").1 h).2, by decide +kernel⟩

end Companion.Directive
