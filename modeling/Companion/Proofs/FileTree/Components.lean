import Mathlib
import Companion.Run.Sources

/-! Paths by their parts and by their components. Of the parts of a path those that are not idle
matter (`moves`), and the components decide them (`filterMap_components`). A further step adds one
component at the end (`components_join`), the directory of a path lacks the last one
(`components_directory`), and so another file name changes the last one and no other
(`components_withFileName`). -/
namespace Companion.Path

/-! ### Parts -/

theorem splitSlash_ne_nil (cs : List UInt8) : splitSlash cs ≠ [] := by
  cases cs with
  | nil => simp [splitSlash]
  | cons c cs =>
    rw [splitSlash]
    split
    · simp
    · split <;> simp

theorem splitSlash_eq_empty_iff {cs : List UInt8} : splitSlash cs = [[]] ↔ cs = [] := by
  constructor
  · intro h
    cases cs with
    | nil => rfl
    | cons c cs =>
      rw [splitSlash] at h
      split at h
      · exact absurd (List.cons.inj h).2 (splitSlash_ne_nil cs)
      · split at h <;> simp at h
  · rintro rfl
    rfl

theorem splitSlash_of_not_mem {cs : List UInt8} (h : slash ∉ cs) : splitSlash cs = [cs] := by
  induction cs with
  | nil => rfl
  | cons c cs ih =>
    have hc : c ≠ slash := fun hc => h (hc ▸ List.mem_cons_self)
    rw [splitSlash, if_neg hc, ih fun hmem => h (List.mem_cons_of_mem c hmem)]

/-- A slash divides the parts. -/
theorem splitSlash_append (a b : List UInt8) :
    splitSlash (a ++ slash :: b) = splitSlash a ++ splitSlash b := by
  induction a with
  | nil => simp [splitSlash]
  | cons c a ih =>
    rw [List.cons_append, splitSlash, splitSlash, ih]
    by_cases hc : c = slash
    · simp [hc]
    · rw [if_neg hc, if_neg hc]
      cases hs : splitSlash a with
      | nil => exact absurd hs (splitSlash_ne_nil a)
      | cons p ps => rfl

/-- Parts that are joined by slashes are found again. -/
theorem splitSlash_joinSlash {parts : List (List UInt8)} (hne : parts ≠ [])
    (h : ∀ part ∈ parts, slash ∉ part) : splitSlash (joinSlash parts) = parts := by
  induction parts with
  | nil => exact absurd rfl hne
  | cons p ps ih =>
    have hp := splitSlash_of_not_mem (h p List.mem_cons_self)
    cases ps with
    | nil => exact hp
    | cons q ps =>
      rw [joinSlash, splitSlash_append, hp, ih (by simp) fun part hpart =>
        h part (List.mem_cons_of_mem p hpart)]
      · rfl
      · simp

theorem isIdle_eq_false_iff {part : List UInt8} :
    isIdle part = false ↔ part ≠ [] ∧ part ≠ [dot] := by
  simp [isIdle]

theorem isIdle_eq_true_iff {part : List UInt8} : isIdle part = true ↔ part = [] ∨ part = [dot] := by
  simp [isIdle]

/-- The parts that are not idle. -/
def moves (parts : List (List UInt8)) : List (List UInt8) := parts.filter fun part => !isIdle part

@[simp] theorem moves_nil : moves [] = [] := rfl

@[simp] theorem moves_append (a b : List (List UInt8)) : moves (a ++ b) = moves a ++ moves b := by
  simp [moves]

theorem moves_step {part : List UInt8} (h : isIdle part = false) : moves [part] = [part] := by
  simp [moves, h]

/-! ### Without the last name -/

theorem prefix_dropIdleEnd (parts : List (List UInt8)) : dropIdleEnd parts <+: parts := by
  have h := List.dropWhile_suffix isIdle (l := parts.reverse)
  exact List.reverse_suffix.1 (by rwa [dropIdleEnd, List.reverse_reverse])

theorem prefix_dropLastName (parts : List (List UInt8)) : dropLastName parts <+: parts :=
  (prefix_dropIdleEnd _).trans ((List.dropLast_prefix _).trans (prefix_dropIdleEnd parts))

theorem moves_dropIdleEnd (parts : List (List UInt8)) :
    moves (dropIdleEnd parts) = moves parts := by
  have hcut : parts = dropIdleEnd parts ++ (parts.reverse.takeWhile isIdle).reverse := by
    have h := congrArg List.reverse (@List.takeWhile_append_dropWhile _ isIdle parts.reverse)
    rw [List.reverse_append, List.reverse_reverse] at h
    exact h.symm
  have hidle : moves (parts.reverse.takeWhile isIdle).reverse = [] := by
    rw [moves, List.filter_eq_nil_iff]
    intro part hpart
    simp [List.mem_takeWhile_imp (List.mem_reverse.1 hpart)]
  conv_rhs => rw [hcut, moves_append, hidle, List.append_nil]

/-- The last part that counts, if there is one, ends the parts without the idle ones at their
end. -/
theorem dropIdleEnd_cases (parts : List (List UInt8)) : dropIdleEnd parts = [] ∨
    ∃ front last, dropIdleEnd parts = front ++ [last] ∧ isIdle last = false := by
  have hhead := List.head?_dropWhile_not isIdle parts.reverse
  rw [dropIdleEnd]
  cases hdrop : parts.reverse.dropWhile isIdle with
  | nil => exact Or.inl rfl
  | cons last front =>
    rw [hdrop] at hhead
    exact Or.inr ⟨front.reverse, last, by simp, by simpa using hhead⟩

/-- Taking the last name off takes the last part off that counts. -/
theorem moves_dropLastName (parts : List (List UInt8)) :
    moves (dropLastName parts) = (moves parts).dropLast := by
  rw [dropLastName, moves_dropIdleEnd, ← moves_dropIdleEnd parts]
  rcases dropIdleEnd_cases parts with hnone | ⟨front, last, hcut, hlast⟩
  · rw [hnone]
    rfl
  · rw [hcut, List.dropLast_concat, moves_append, moves_step hlast, List.dropLast_concat]

theorem slash_not_mem_dropLastName {parts : List (List UInt8)} (h : ∀ part ∈ parts, slash ∉ part) :
    ∀ part ∈ dropLastName parts, slash ∉ part :=
  fun part hpart => h part ((prefix_dropLastName parts).subset hpart)

/-! ### Steps of parts -/

theorem innerSteps_eq_map (parts : List (List UInt8)) :
    innerSteps parts = (moves parts).map Component.ofPart := rfl

theorem innerSteps_append (a b : List (List UInt8)) :
    innerSteps (a ++ b) = innerSteps a ++ innerSteps b := by
  simp [innerSteps]

theorem innerSteps_idle {part : List UInt8} (h : isIdle part = true) (parts : List (List UInt8)) :
    innerSteps (part :: parts) = innerSteps parts := by
  simp [innerSteps, h]

theorem innerSteps_name {part : List UInt8} (hidle : isIdle part = false)
    (hparent : part ≠ [dot, dot]) :
    innerSteps [part] = [.name (RawText.ofList part)] := by
  simp [innerSteps, hidle, Component.ofPart, hparent]

theorem innerSteps_dropLastName (parts : List (List UInt8)) :
    innerSteps (dropLastName parts) = (innerSteps parts).dropLast := by
  rw [innerSteps_eq_map, innerSteps_eq_map, moves_dropLastName, List.map_dropLast]

theorem stepsOfParts_root {rest : List (List UInt8)} (h : rest ≠ []) :
    stepsOfParts ([] :: rest) = .root :: innerSteps rest := by
  rw [stepsOfParts]
  exact h

theorem stepsOfParts_current (rest : List (List UInt8)) :
    stepsOfParts ([dot] :: rest) = .current :: innerSteps rest := by
  rw [stepsOfParts, if_pos rfl]
  · simp
  · simp

theorem stepsOfParts_name {first : List UInt8} (h : isIdle first = false)
    (rest : List (List UInt8)) :
    stepsOfParts (first :: rest) = innerSteps (first :: rest) := by
  obtain ⟨hne, hdot⟩ := isIdle_eq_false_iff.1 h
  rw [stepsOfParts, if_neg hdot]
  · exact fun hnil _ => hne hnil
  · exact hne

/-- What follows a first part with a slash behind it adds its inner steps. -/
theorem stepsOfParts_append {front rest : List (List UInt8)} (hfront : front ≠ [])
    (hrest : rest ≠ []) :
    stepsOfParts (front ++ rest) = stepsOfParts (front ++ [[]]) ++ innerSteps rest := by
  have hend : innerSteps [[]] = [] := rfl
  cases front with
  | nil => exact absurd rfl hfront
  | cons first front =>
    rw [List.cons_append, List.cons_append]
    cases hidle : isIdle first with
    | false =>
      rw [stepsOfParts_name hidle, stepsOfParts_name hidle, ← List.cons_append, ← List.cons_append,
        innerSteps_append, innerSteps_append, hend, List.append_nil]
    | true =>
      rcases isIdle_eq_true_iff.1 hidle with rfl | rfl
      · rw [stepsOfParts_root (by simp [hrest]), stepsOfParts_root (by simp), innerSteps_append,
          innerSteps_append, hend, List.append_nil, List.cons_append]
      · rw [stepsOfParts_current, stepsOfParts_current, innerSteps_append, innerSteps_append, hend,
          List.append_nil, List.cons_append]

/-- A slash at the end does not count, unless it is all there is. -/
theorem stepsOfParts_slash {parts : List (List UInt8)} (hne : parts ≠ []) (hempty : parts ≠ [[]]) :
    stepsOfParts (parts ++ [[]]) = stepsOfParts parts := by
  have hend : ∀ rest, innerSteps (rest ++ [[]]) = innerSteps rest := by
    intro rest
    rw [innerSteps_append]
    exact List.append_nil _
  cases parts with
  | nil => exact absurd rfl hne
  | cons first rest =>
    rw [List.cons_append]
    cases hidle : isIdle first with
    | false => rw [stepsOfParts_name hidle, stepsOfParts_name hidle, ← List.cons_append, hend]
    | true =>
      rcases isIdle_eq_true_iff.1 hidle with rfl | rfl
      · have hrest : rest ≠ [] := by
          rintro rfl
          exact hempty rfl
        rw [stepsOfParts_root (by simp), stepsOfParts_root hrest, hend]
      · rw [stepsOfParts_current, stepsOfParts_current, hend]

/-! ### Parts of components -/

/-- The part that a component stands for; the start of a path stands for none. -/
def Component.part? : Component → Option (List UInt8)
  | .root | .current => none
  | .parent => some [dot, dot]
  | .name text => some text.toList

theorem part?_ofPart (part : List UInt8) : (Component.ofPart part).part? = some part := by
  rw [Component.ofPart]
  split
  · next h => rw [h]; rfl
  · simp [Component.part?]

theorem filterMap_innerSteps (parts : List (List UInt8)) :
    (innerSteps parts).filterMap Component.part? = moves parts := by
  rw [innerSteps, List.filterMap_map, moves]
  have hpart : Component.part? ∘ Component.ofPart = some := funext part?_ofPart
  rw [hpart, List.filterMap_some]

/-- The components of a path decide its parts, idle ones aside. -/
theorem filterMap_components (p : Path) :
    p.components.filterMap Component.part? = moves p.parts := by
  rw [components]
  generalize p.parts = parts
  unfold stepsOfParts
  split
  · rfl
  · rfl
  · rw [List.filterMap_cons_none rfl, filterMap_innerSteps]
    rfl
  · split
    · next hdot =>
      rw [List.filterMap_cons_none rfl, filterMap_innerSteps, hdot]
      rfl
    · exact filterMap_innerSteps _

/-! ### A further step -/

theorem IsStep.ne_nil {name : RawText} (h : IsStep name) : name.toList ≠ [] := by
  intro hnil
  have := h.1
  rw [hnil] at this
  cases this

/-- A further step is the last part, behind nothing or behind the path with a slash. -/
theorem join_cases (p : Path) {name : RawText} (h : IsStep name) :
    (p.components = [] ∧ (p.join name).parts = [name.toList]) ∨
      ∃ front, front ≠ [] ∧ (p.join name).parts = front ++ [name.toList] ∧
        p.components = stepsOfParts (front ++ [[]]) := by
  have hname := splitSlash_of_not_mem h.2.2
  rw [join]
  split
  · next hend =>
    rw [Bool.or_eq_true] at hend
    rcases hend with hempty | hslash
    · have hp : p.spelling.toList = [] := List.isEmpty_iff.1 hempty
      refine Or.inl ⟨?_, ?_⟩
      · simp [components, parts, hp, splitSlash, stepsOfParts]
      · rw [parts, RawText.toList_append, hp, List.nil_append, hname]
    · have hlast : p.spelling.toList.getLast? = some slash := by simpa using hslash
      obtain ⟨front, hfront⟩ := List.getLast?_eq_some_iff.1 hlast
      refine Or.inr ⟨splitSlash front, splitSlash_ne_nil front, ?_, ?_⟩
      · have hcut : p.spelling.toList ++ name.toList = front ++ slash :: name.toList := by
          simp [hfront]
        rw [parts, RawText.toList_append, hcut, splitSlash_append, hname]
      · rw [components, parts, hfront, splitSlash_append]
        rfl
  · next hopen =>
    have hne : p.parts ≠ [] := splitSlash_ne_nil _
    have hempty : p.parts ≠ [[]] := by
      intro hempty
      have hnil := splitSlash_eq_empty_iff.1 hempty
      exact hopen (by simp [RawText.isEmpty, hnil])
    refine Or.inr ⟨p.parts, hne, ?_, (stepsOfParts_slash hne hempty).symm⟩
    have hcut : p.spelling.toList ++ [slash] ++ name.toList =
        p.spelling.toList ++ slash :: name.toList := by simp
    rw [parts, RawText.toList_append, RawText.toList_append, hcut, splitSlash_append, hname]
    rfl

/-- **A further step is one more component.** -/
theorem components_join (p : Path) {name : RawText} (h : IsStep name) :
    (p.join name).components = p.components ++ [.name name] := by
  have hstep : innerSteps [name.toList] = [.name name] := innerSteps_name h.1 h.2.1
  rcases join_cases p h with ⟨hnone, hparts⟩ | ⟨front, hne, hparts, hcomponents⟩
  · rw [components, hparts, stepsOfParts_name h.1, hstep, hnone, List.nil_append]
  · rw [components, hparts, stepsOfParts_append hne (by simp), hcomponents, hstep]

/-- The parts of a path with a further step are those of the path and the step, idle ones aside. -/
theorem parts_join (p : Path) {name : RawText} (h : IsStep name) :
    ∃ front, (p.join name).parts = front ++ [name.toList] ∧ moves front = moves p.parts := by
  obtain ⟨front, hparts⟩ : ∃ front, (p.join name).parts = front ++ [name.toList] := by
    rcases join_cases p h with ⟨-, hparts⟩ | ⟨front, -, hparts, -⟩
    · exact ⟨[], hparts⟩
    · exact ⟨front, hparts⟩
  refine ⟨front, hparts, ?_⟩
  have hmoves := filterMap_components (p.join name)
  rw [components_join p h, List.filterMap_append, filterMap_components, hparts, moves_append,
    moves_step h.1] at hmoves
  exact (List.append_cancel_right hmoves).symm

theorem join_nonempty (p : Path) {name : RawText} (h : IsStep name) :
    (p.join name).spelling.isEmpty = false := by
  have hne := h.ne_nil
  rw [join]
  split <;> simp [RawText.isEmpty, hne]

theorem components_below (root : Path) {place : List RawText} (h : ∀ name ∈ place, IsStep name) :
    (root.below place).components = root.components ++ place.map Component.name := by
  induction place generalizing root with
  | nil => exact (List.append_nil _).symm
  | cons name place ih =>
    obtain ⟨hname, hplace⟩ := List.forall_mem_cons.1 h
    show ((root.join name).below place).components = _
    rw [ih _ hplace, components_join root hname, List.append_assoc]
    rfl

/-! ### The directory -/

/-- The components of a path spelled by its parts behind a slash. -/
theorem components_root {parts : List (List UInt8)} (h : ∀ part ∈ parts, slash ∉ part) :
    (⟨RawText.ofList (slash :: joinSlash parts)⟩ : Path).components =
      .root :: innerSteps parts := by
  have hparts : (⟨RawText.ofList (slash :: joinSlash parts)⟩ : Path).parts =
      [] :: splitSlash (joinSlash parts) := by
    simp [Path.parts, splitSlash]
  rw [components, hparts, stepsOfParts_root (splitSlash_ne_nil _)]
  cases parts with
  | nil => rfl
  | cons first rest => rw [splitSlash_joinSlash (by simp) h]

/-- The components of a path spelled by its parts behind the current directory. -/
theorem components_current {parts : List (List UInt8)} (h : ∀ part ∈ parts, slash ∉ part) :
    (⟨RawText.ofList (joinSlash ([dot] :: parts))⟩ : Path).components =
      .current :: innerSteps parts := by
  have hslash : ∀ part ∈ [dot] :: parts, slash ∉ part := List.forall_mem_cons.2 ⟨by decide, h⟩
  have hparts := splitSlash_joinSlash (by simp) hslash
  rw [components, Path.parts, hparts, stepsOfParts_current]

/-- The components of a path spelled by parts of which the first counts. -/
theorem components_names {parts : List (List UInt8)}
    (hfirst : ∀ part ∈ parts.head?, isIdle part = false) (h : ∀ part ∈ parts, slash ∉ part) :
    (⟨RawText.ofList (joinSlash parts)⟩ : Path).components = innerSteps parts := by
  rw [components, Path.parts]
  cases parts with
  | nil => rfl
  | cons first rest =>
    rw [splitSlash_joinSlash (by simp) h, stepsOfParts_name (hfirst first rfl)]

/-- The start of a path is no name that could be taken off. -/
theorem dropLast_cons_innerSteps {start : Component} {parts : List (List UInt8)} {name : RawText}
    (h : (start :: innerSteps parts).getLast? = some (.name name)) (hstart : start ≠ .name name) :
    (start :: innerSteps parts).dropLast = start :: innerSteps (dropLastName parts) := by
  rw [innerSteps_dropLastName]
  cases hsteps : innerSteps parts with
  | nil =>
    rw [hsteps] at h
    exact absurd (Option.some.inj h) hstart
  | cons step steps => rfl

theorem fileName?_eq_some_iff {p : Path} {name : RawText} :
    p.fileName? = some name ↔ p.components.getLast? = some (.name name) := by
  rw [fileName?]
  split
  · next n hn => simp [hn]
  · next hnone =>
    constructor
    · intro h
      cases h
    · intro h
      exact absurd h (hnone name)

/-- **The directory of a path that ends in a name has all components but that name.** -/
theorem components_directory {p : Path} {name : RawText} (h : p.fileName? = some name) :
    p.directory.components = p.components.dropLast := by
  have hlast := fileName?_eq_some_iff.1 h
  have hslash : ∀ part ∈ p.parts, slash ∉ part := slash_not_mem_splitSlash _
  unfold directory
  split
  · next hnone => exact absurd hnone (splitSlash_ne_nil _)
  · next rest heq =>
    rw [components, heq] at hlast
    rw [heq] at hslash
    have hrest : rest ≠ [] := by
      rintro rfl
      cases hlast
    rw [stepsOfParts_root hrest] at hlast
    rw [components_root (slash_not_mem_dropLastName (List.forall_mem_cons.1 hslash).2),
      ← dropLast_cons_innerSteps hlast (by simp), components.eq_1 p, heq, stepsOfParts_root hrest]
  · next first rest hroot hparts =>
    rw [hparts] at hslash
    by_cases hdot : first = [dot]
    · subst hdot
      rw [components, hparts, stepsOfParts_current] at hlast
      rw [if_pos rfl,
        components_current (slash_not_mem_dropLastName (List.forall_mem_cons.1 hslash).2),
        ← dropLast_cons_innerSteps hlast (by simp), components.eq_1 p, hparts, stepsOfParts_current]
    · have hidle : isIdle first = false := isIdle_eq_false_iff.2 ⟨hroot, hdot⟩
      -- what is left of the parts still starts with the first
      have hfirst : ∀ part ∈ (dropLastName (first :: rest)).head?, isIdle part = false := by
        intro part hpart
        obtain ⟨kept, hkept⟩ := List.head?_eq_some_iff.1 hpart
        have hprefix := prefix_dropLastName (first :: rest)
        rw [hkept] at hprefix
        exact (List.cons_prefix_cons.1 hprefix).1 ▸ hidle
      rw [if_neg hdot, components_names hfirst (slash_not_mem_dropLastName hslash),
        innerSteps_dropLastName, components.eq_1 p, hparts, stepsOfParts_name hidle]

/-! ### File names -/

theorem isStep_of_mem_innerSteps {parts : List (List UInt8)} (hslash : ∀ part ∈ parts, slash ∉ part)
    {name : RawText} (h : .name name ∈ innerSteps parts) : IsStep name := by
  obtain ⟨part, hpart, hname⟩ := List.mem_map.1 h
  obtain ⟨hmem, hidle⟩ := List.mem_filter.1 hpart
  rw [Component.ofPart] at hname
  split at hname
  · cases hname
  · next hparent =>
    obtain rfl := Component.name.inj hname
    exact isStep_ofList (by simpa using hidle) hparent (hslash part hmem)

/-- A name among the steps of a path is one of its inner steps. -/
theorem mem_innerSteps_of_mem_stepsOfParts {parts : List (List UInt8)} {name : RawText}
    (h : .name name ∈ stepsOfParts parts) : .name name ∈ innerSteps parts := by
  unfold stepsOfParts at h
  split at h
  · cases h
  · cases h
  · rw [innerSteps_idle (by decide)]
    simpa using h
  · split at h
    · next hdot =>
      rw [hdot, innerSteps_idle (by decide)]
      simpa using h
    · exact h

theorem isStep_of_fileName? {p : Path} {name : RawText} (h : p.fileName? = some name) :
    IsStep name := by
  have hmem : .name name ∈ p.components := List.mem_of_getLast? (fileName?_eq_some_iff.1 h)
  exact isStep_of_mem_innerSteps (slash_not_mem_splitSlash _)
    (mem_innerSteps_of_mem_stepsOfParts hmem)

/-- The last part of a path, if it is a name, is the file name. -/
theorem fileName?_of_parts {p : Path} {front : List (List UInt8)} {last : List UInt8}
    (h : p.parts = front ++ [last]) (hidle : isIdle last = false) (hparent : last ≠ [dot, dot]) :
    p.fileName? = some (RawText.ofList last) := by
  rw [fileName?_eq_some_iff, components, h]
  cases front with
  | nil =>
    rw [List.nil_append, stepsOfParts_name hidle, innerSteps_name hidle hparent,
      List.getLast?_singleton]
  | cons first front =>
    rw [stepsOfParts_append (by simp) (by simp), innerSteps_name hidle hparent,
      List.getLast?_concat]

/-- The parts of a path are those of its directory and the name it ends in, idle ones aside. -/
theorem moves_directory {p : Path} {name : RawText} (h : p.fileName? = some name) :
    moves p.parts = moves p.directory.parts ++ [name.toList] := by
  obtain ⟨front, hfront⟩ := List.getLast?_eq_some_iff.1 (fileName?_eq_some_iff.1 h)
  rw [← filterMap_components p, ← filterMap_components p.directory, components_directory h, hfront,
    List.dropLast_concat, List.filterMap_append]
  rfl

/-- **Another file name is another last component.** -/
theorem components_withFileName {p : Path} {name : RawText} (h : p.fileName? = some name)
    {other : RawText} (hother : IsStep other) :
    (p.withFileName other).components = p.components.dropLast ++ [.name other] := by
  rw [withFileName, h]
  show (p.directory.join other).components = _
  rw [components_join _ hother, components_directory h]

end Companion.Path
