import Mathlib
import Companion.Proofs.Directive.Concatenation

/-! Reading by positions.

The reader hands on the rest of the text. A cursor hands on a byte position instead: it cuts the
text there whenever it looks at it, and computes its next position from the length of what it has
left. A cut can go wrong, behind the end of the text or within a character (`sliceFrom`), and a loop
over positions may come no nearer to the end of the text; both show as `none`.

`scanAt_eq`: a scan by positions never goes wrong and gives what the scan gives. Every function of
the reader has its twin here, and each twin lemma says the same of it: at the position of a rest of
the text it gives what the reader gives for that rest, with places as positions (`located`). -/
namespace Companion

namespace Text

/-- What a text shows from a byte position on; there is nothing to show where the position lies
behind the end or within a character. -/
def sliceFrom : List Char → Nat → Option (List Char)
  | cs, 0 => some cs
  | [], _ + 1 => none
  | c :: cs, n + 1 => if c.utf8Size ≤ n + 1 then sliceFrom cs (n + 1 - c.utf8Size) else none

theorem sliceFrom_cons (c : Char) (cs : List Char) (n : Nat) :
    sliceFrom (c :: cs) (c.utf8Size + n) = sliceFrom cs n := by
  obtain ⟨k, hk⟩ := Nat.exists_eq_succ_of_ne_zero c.utf8Size_pos.ne'
  rw [hk, Nat.succ_add, sliceFrom, if_pos (by omega)]
  congr 1
  omega

/-- Every rest of a text stands at a position of it. -/
theorem sliceFrom_append (front rest : List Char) :
    sliceFrom (front ++ rest) (byteSize front) = some rest := by
  induction front with
  | nil => rw [List.nil_append, byteSize, sliceFrom]
  | cons c front ih => rw [List.cons_append, byteSize, sliceFrom_cons, ih]

theorem sliceFrom_eq_some_iff {text rest : List Char} {n : Nat} :
    sliceFrom text n = some rest ↔ ∃ front, text = front ++ rest ∧ byteSize front = n := by
  constructor
  · intro h
    fun_induction sliceFrom text n with
    | case1 cs =>
      obtain rfl := Option.some.inj h
      exact ⟨[], rfl, rfl⟩
    | case2 => cases h
    | case3 c cs n hle ih =>
      obtain ⟨front, rfl, hsize⟩ := ih h
      exact ⟨c :: front, rfl, by rw [byteSize, hsize]; omega⟩
    | case4 => cases h
  · rintro ⟨front, rfl, rfl⟩
    exact sliceFrom_append front rest

/-- The positions at which a text can be cut are those at which one of its characters starts, and
its end. -/
theorem sliceFrom_isSome_iff {text : String} {n : Nat} :
    (sliceFrom text.toList n).isSome = true ↔ String.Pos.Raw.IsValid text ⟨n⟩ := by
  rw [Option.isSome_iff_exists, String.Pos.Raw.isValid_iff_exists_append]
  simp only [sliceFrom_eq_some_iff]
  constructor
  · rintro ⟨rest, front, htext, rfl⟩
    refine ⟨String.ofList front, String.ofList rest, ?_, ?_⟩
    · rw [← String.ofList_append, ← htext, String.ofList_toList]
    · rw [String.rawEndPos, byteSize_ofList]
  · rintro ⟨front, rest, rfl, hn⟩
    refine ⟨rest.toList, front.toList, String.toList_append, ?_⟩
    rw [byteSize_toList]
    exact (congrArg String.Pos.Raw.byteIdx hn).symm

end Text

namespace Directive
open Text

/-! ### A cursor on a text -/

section
variable (text : List Char)

/-- The position of a rest of the text, by its length. -/
def position (rest : List Char) : Nat := byteSize text - byteSize rest

/-- The position behind the blanks. -/
def skipAt (place : Nat) : Option Nat := do
  let rest ← sliceFrom text place
  return position text (skipBlanks rest)

/-- The position behind the character, if it stands there. -/
def eatAt (c : Char) (place : Nat) : Option (Option Nat) := do
  let rest ← sliceFrom text place
  return if rest.head? = some c then some (position text rest.tail) else none

/-- The error that something is missing there. -/
def missingAt {α : Type} (directive : String) (expected : Expected) (place : Nat) :
    Option (Except ReadError α) := do
  let rest ← sliceFrom text place
  return .error (if rest.isEmpty then .unexpectedEnd directive
    else .malformed directive place expected (String.ofList (rest.take shownLength)))

def valueAt (directive : String) (place : Nat) : Option (Except ReadError (Scalar × Nat)) := do
  let rest ← sliceFrom text place
  match rest with
  | '"' :: body =>
    match readPlain body with
    | some (s, after) => return .ok (.text (String.ofList s), position text after)
    | none =>
      if closesQuote body then missingAt text directive .validEscapes place
      else return .error (.unterminatedString directive place)
  | _ => return .ok (Scalar.classify (rest.takeWhile isBare), position text (rest.dropWhile isBare))

def argumentAt (directive : String) (place : Nat) : Option (Except ReadError (Argument × Nat)) := do
  match readName (← sliceFrom text place) with
  | none => missingAt text directive .argumentName place
  | some (name, rest) =>
    let place ← skipAt text (position text rest)
    match ← eatAt text '=' place with
    | none => missingAt text directive .equals place
    | some place =>
      match ← valueAt text directive (← skipAt text place) with
      | .ok (v, place) => return .ok (⟨String.ofList name, v⟩, place)
      | .error e => return .error e

def argumentsAt (directive : String) (start : Nat) :
    Option (Except ReadError (List Argument × Nat)) := do
  let place ← skipAt text start
  match ← eatAt text ')' place with
  | some place => return .ok ([], place)
  | none =>
    match ← argumentAt text directive place with
    | .error e => return .error e
    | .ok (a, place) =>
      let place ← skipAt text place
      match ← eatAt text ',' place with
      | some place =>
        if _h : byteSize text - place < byteSize text - start then
          match ← argumentsAt directive place with
          | .ok (as, place) => return .ok (a :: as, place)
          | .error e => return .error e
        else none
      | none =>
        match ← eatAt text ')' place with
        | some place => return .ok ([a], place)
        | none => missingAt text directive .separator place
termination_by byteSize text - start

def readAt (place : Nat) : Option (Except ReadError (Directive × Nat)) := do
  match readName (← sliceFrom text place) with
  | none => missingAt text "" .directiveName place
  | some (name, rest) =>
    match ← eatAt text '(' (position text rest) with
    | none => missingAt text (String.ofList name) .openParenthesis (position text rest)
    | some place =>
      match ← argumentsAt text (String.ofList name) place with
      | .ok (as, place) => return .ok (⟨String.ofList name, as⟩, place)
      | .error e => return .error e

def scanFromAt (inWord : Bool) (start : Nat) : Option (Except ReadError (List Directive)) := do
  match ← sliceFrom text start with
  | [] => return .ok []
  | c :: rest =>
    if !inWord && isNameStart c && atMarker (c :: rest) then
      match ← readAt text start with
      | .error e => return .error e
      | .ok (d, place) =>
        if _h : byteSize text - place < byteSize text - start then
          match ← scanFromAt false place with
          | .ok ds => return .ok (d :: ds)
          | .error e => return .error e
        else none
    else if _h : byteSize text - (start + c.utf8Size) < byteSize text - start then
      scanFromAt (isNameContinue c) (start + c.utf8Size)
    else none
termination_by byteSize text - start

end

/-- The directives of a text, read by positions. -/
def scanAt (text : String) : Option (Except ReadError (List Directive)) :=
  scanFromAt text.toList false 0

/-! ### The twins agree -/

/-- A result of the reader with positions in place of what is left. -/
def located {α : Type} (text : List Char) (directive : String) :
    Except Fault (α × List Char) → Except ReadError (α × Nat)
  | .ok (a, rest) => .ok (a, position text rest)
  | .error fault => .error (.ofFailure text ⟨directive, fault⟩)

variable {text rest : List Char}

theorem sliceFrom_position (h : rest <:+ text) :
    sliceFrom text (position text rest) = some rest := by
  obtain ⟨front, rfl⟩ := h
  rw [position, byteSize_append, Nat.add_sub_cancel, sliceFrom_append]

theorem position_tail {c : Char} (h : c :: rest <:+ text) :
    position text (c :: rest) + c.utf8Size = position text rest := by
  have hle := byteSize_le_of_suffix h
  simp only [byteSize] at hle
  simp only [position, byteSize]
  omega

/-- What is left behind the position of a rest is that rest, so a shorter rest is nearer to the
end. -/
theorem position_nearer {tail : List Char} (h : rest <:+ text) (htail : tail <:+ rest)
    (hlen : tail.length < rest.length) :
    byteSize text - position text tail < byteSize text - position text rest := by
  obtain ⟨front, rfl⟩ := h
  obtain ⟨_ | ⟨c, cs⟩, rfl⟩ := htail
  · simp at hlen
  · have := c.utf8Size_pos
    simp only [position, List.cons_append, byteSize_append, byteSize]
    omega

theorem skipAt_position (h : rest <:+ text) :
    skipAt text (position text rest) = some (position text (skipBlanks rest)) := by
  simp [skipAt, sliceFrom_position h]

theorem eatAt_position (h : rest <:+ text) (c : Char) : eatAt text c (position text rest) =
    some (if rest.head? = some c then some (position text rest.tail) else none) := by
  simp [eatAt, sliceFrom_position h]

theorem missingAt_position {α : Type} (h : rest <:+ text) (directive : String)
    (expected : Expected) :
    missingAt text directive expected (position text rest) =
      some (.error (.ofFailure text ⟨directive, .missing expected rest⟩) : Except ReadError α) := by
  simp only [missingAt, sliceFrom_position h]
  cases rest with
  | nil => rfl
  | cons c rest =>
    rw [ofFailure_missing (by simp)]
    rfl

theorem skipBlanks_suffix (cs : List Char) : skipBlanks cs <:+ cs := List.dropWhile_suffix isBlank

theorem valueAt_position (h : rest <:+ text) (directive : String) :
    valueAt text directive (position text rest) =
      some (located text directive (readValue rest)) := by
  by_cases hquote : rest.head? = some '"'
  · obtain ⟨body, rfl⟩ := List.head?_eq_some_iff.1 hquote
    simp only [valueAt, sliceFrom_position h, Option.bind_eq_bind, Option.bind_some, readValue]
    cases readPlain body with
    | some found => rfl
    | none =>
      simp only
      split
      · exact missingAt_position h directive .validEscapes
      · rfl
  · rw [readValue_bare hquote]
    simp only [valueAt, sliceFrom_position h, Option.bind_eq_bind, Option.bind_some]
    split
    · exact absurd rfl hquote
    · rfl

theorem argumentAt_position (h : rest <:+ text) (directive : String) :
    argumentAt text directive (position text rest) =
      some (located text directive (readArgument rest)) := by
  simp only [argumentAt, sliceFrom_position h, Option.bind_eq_bind, Option.bind_some]
  cases hname : readName rest with
  | none =>
    simp only [readArgument, hname]
    exact missingAt_position h directive .argumentName
  | some found =>
    obtain ⟨name, afterName⟩ := found
    obtain ⟨-, rfl⟩ := readName_sound hname
    have hafter : skipBlanks afterName <:+ text :=
      (skipBlanks_suffix _).trans ((List.suffix_append name afterName).trans h)
    simp only [skipAt_position ((List.suffix_append name afterName).trans h), Option.bind_some,
      eatAt_position hafter]
    by_cases hhead : (skipBlanks afterName).head? = some '='
    · obtain ⟨tail, hequals⟩ := List.head?_eq_some_iff.1 hhead
      rw [readArgument_of_value hname hequals]
      rw [hequals] at hafter
      have htail : tail <:+ text := (List.suffix_cons '=' tail).trans hafter
      simp only [hequals, List.head?_cons, if_true, List.tail_cons, skipAt_position htail,
        Option.bind_some, valueAt_position ((skipBlanks_suffix tail).trans htail)]
      cases readValue (skipBlanks tail) <;> rfl
    · rw [readArgument_of_name hname hhead]
      simp only [hhead, if_false]
      exact missingAt_position hafter directive .equals

theorem argumentsAt_position (h : rest <:+ text) (directive : String) :
    argumentsAt text directive (position text rest) =
      some (located text directive (readArguments rest)) := by
  -- on the length of the rest, which every argument with its comma makes shorter
  induction hn : rest.length using Nat.strong_induction_on generalizing rest with
  | _ n ih =>
  have hskip := (skipBlanks_suffix rest).trans h
  rw [argumentsAt]
  simp only [skipAt_position h, Option.bind_eq_bind, Option.bind_some, eatAt_position hskip]
  by_cases hclose : (skipBlanks rest).head? = some ')'
  · obtain ⟨tail, htail⟩ := List.head?_eq_some_iff.1 hclose
    rw [readArguments_of_close htail]
    simp only [htail, List.head?_cons, if_true, List.tail_cons]
    rfl
  · simp only [hclose, if_false, argumentAt_position hskip, Option.bind_some]
    cases hread : readArgument (skipBlanks rest) with
    | error fault =>
      rw [readArguments_of_fault hclose hread]
      rfl
    | ok found =>
      obtain ⟨a, after⟩ := found
      rw [readArguments_of_ok hclose hread]
      obtain ⟨arg, -, hcut⟩ := readArgument_sound hread
      have hsuffix : after <:+ skipBlanks rest := ⟨arg, hcut.symm⟩
      have hafter := hsuffix.trans hskip
      have hafter' := (skipBlanks_suffix after).trans hafter
      simp only [located, skipAt_position hafter, Option.bind_some, eatAt_position hafter']
      by_cases hcomma : (skipBlanks after).head? = some ','
      · obtain ⟨tail, htail⟩ := List.head?_eq_some_iff.1 hcomma
        have hcut' : ',' :: tail <:+ rest := by
          rw [← htail]
          exact ((skipBlanks_suffix after).trans hsuffix).trans (skipBlanks_suffix rest)
        have htail' := (List.suffix_cons ',' tail).trans hcut'
        have hlen : tail.length < rest.length := hcut'.length_le
        simp only [htail, List.head?_cons, if_true, List.tail_cons, afterArgument,
          dif_pos (position_nearer h htail' hlen), ih tail.length (hn ▸ hlen) (htail'.trans h) rfl,
          Option.bind_some]
        cases readArguments tail <;> rfl
      · simp only [hcomma, if_false]
        by_cases hparen : (skipBlanks after).head? = some ')'
        · obtain ⟨tail, htail⟩ := List.head?_eq_some_iff.1 hparen
          simp only [htail, List.head?_cons, if_true, List.tail_cons, afterArgument]
          rfl
        · rw [afterArgument_of_ne hcomma hparen]
          simp only [hparen, if_false]
          exact missingAt_position hafter' directive .separator

theorem readAt_position (h : rest <:+ text) : readAt text (position text rest) =
    some
      (((read rest).map fun found => (found.1, position text found.2)).mapError
        (.ofFailure text)) := by
  simp only [readAt, sliceFrom_position h, Option.bind_eq_bind, Option.bind_some]
  cases hname : readName rest with
  | none =>
    simp only [read, hname]
    exact missingAt_position h "" .directiveName
  | some found =>
    obtain ⟨name, after⟩ := found
    obtain ⟨-, rfl⟩ := readName_sound hname
    have hafter := (List.suffix_append name after).trans h
    simp only [eatAt_position hafter, Option.bind_some]
    by_cases hopen : after.head? = some '('
    · obtain ⟨tail, rfl⟩ := List.head?_eq_some_iff.1 hopen
      rw [read_of_name hname]
      simp only [List.head?_cons, if_true, List.tail_cons,
        argumentsAt_position ((List.suffix_cons '(' tail).trans hafter), Option.bind_some]
      cases readArguments tail <;> rfl
    · simp only [hopen, if_false, missingAt_position hafter]
      rw [read, hname]
      split
      · next heq => cases heq
      · next heq =>
        obtain ⟨-, rfl⟩ := Prod.mk.inj (Option.some.inj heq)
        exact absurd rfl hopen
      · next heq =>
        obtain ⟨rfl, rfl⟩ := Prod.mk.inj (Option.some.inj heq)
        rfl

theorem scanFromAt_position (h : rest <:+ text) (inWord : Bool) :
    scanFromAt text inWord (position text rest) =
    some ((scanFrom inWord rest).mapError (.ofFailure text)) := by
  induction hn : rest.length using Nat.strong_induction_on generalizing rest inWord with
  | _ n ih =>
  rw [scanFromAt, scanFrom.eq_def]
  simp only [sliceFrom_position h, Option.bind_eq_bind, Option.bind_some]
  cases rest with
  | nil => rfl
  | cons c rest =>
    simp only
    split
    · simp only [readAt_position h, Option.bind_some]
      cases hread : read (c :: rest) with
      | error failure => rfl
      | ok found =>
        obtain ⟨d, after⟩ := found
        obtain ⟨dtext, -, hcut⟩ := read_sound hread
        have hsuffix : after <:+ c :: rest := ⟨dtext, hcut.symm⟩
        have hlen := length_read hread
        have hrec := ih after.length (by omega) (hsuffix.trans h) false rfl
        simp only [Except.map, Except.mapError, dif_pos (position_nearer h hsuffix hlen), hrec,
          Option.bind_some]
        cases scanFrom false after <;> rfl
    · have hlen : rest.length < (c :: rest).length := by simp
      rw [position_tail h, dif_pos (position_nearer h (List.suffix_cons c rest) hlen)]
      exact ih rest.length (hn ▸ hlen) ((List.suffix_cons c rest).trans h) _ rfl

/-- **A scan by positions cuts the text only where a character starts, within the text or at its
end, and gives what the scan gives.** -/
theorem scanAt_eq (text : String) : scanAt text = some (scan text) := by
  have hstart : position text.toList text.toList = 0 := Nat.sub_self _
  have h := scanFromAt_position (List.suffix_refl text.toList) false
  rwa [hstart] at h

end Directive
end Companion
