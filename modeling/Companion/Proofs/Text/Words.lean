import Mathlib
import Companion.Proofs.Text.Case

/-! Names of constants. The name of a constant has the letters of the type's name in upper case, in
the same order, with underscores between words. So two names have one constant exactly when their
words agree up to case (`screamingSnake_eq_iff`). Where a name is written in camel case the words
give it back (`flatten_capitalized`), and different names have different constants. -/
namespace Companion.Text

/-! ### Words -/

theorem upper_flatten (ws : List (List Char)) : upper ws.flatten = (ws.map upper).flatten := by
  induction ws with
  | nil => rfl
  | cons w ws ih => rw [List.flatten_cons, upper_append, ih, List.map_cons, List.flatten_cons]

/-- The letters of a name, without those that only separate words. -/
def letters (name : List Char) : List Char :=
  ((clusters name).filter fun g => letterKind g ≠ .separator).flatten

theorem flatten_wordsFrom (before : LetterKind) (word : List Char) (gs : List (List Char)) :
    (wordsFrom before word gs).flatten =
      word ++ (gs.filter fun g => letterKind g ≠ .separator).flatten := by
  induction gs generalizing before word with
  | nil => simp [wordsFrom]
  | cons g gs ih =>
    simp only [wordsFrom]
    split
    · next hkind => simp [ih, hkind]
    · next hkind =>
      split
      · simp [ih, hkind]
      · simp [ih, hkind]

theorem flatten_wordsOf (name : List Char) : (wordsOf name).flatten = letters name := by
  rw [wordsOf, List.flatten_filter_not_isEmpty, flatten_wordsFrom, letters, List.nil_append]

theorem mem_of_mem_letters {name : List Char} {c : Char} (h : c ∈ letters name) : c ∈ name := by
  obtain ⟨g, hg, hc⟩ := List.mem_flatten.1 h
  rw [← clusters_flatten name]
  exact List.mem_flatten.2 ⟨g, List.mem_of_mem_filter hg, hc⟩

theorem exists_addFront (joined : Bool) (c : Char) (gs : List (List Char)) :
    ∃ h hs, addFront joined c gs = (c :: h) :: hs := by
  cases gs with
  | nil => exact ⟨[], [], rfl⟩
  | cons g gs =>
    cases joined with
    | false => exact ⟨[], g :: gs, rfl⟩
    | true => exact ⟨g, gs, rfl⟩

theorem mem_of_letterKind_separator {letter : List Char} (h : letterKind letter = .separator) :
    letter ∈ [['_'], ['-'], [' ']] := by
  unfold letterKind at h
  split at h
  · next hmem => simpa [or_assoc] using hmem
  · repeat' split at h
    all_goals cases h

/-- The mark of a raw identifier stays among its letters. -/
theorem exists_letters_raw (word : List Char) :
    ∃ rest, letters ('r' :: '#' :: word) = 'r' :: '#' :: rest := by
  have hfirst : clusterClass 'r' = .other := clusterClass_of_isAlphanum (by decide)
  have hmark : clusterClass '#' = .other := by decide
  obtain ⟨g, gs, hrest⟩ : ∃ g gs,
    clustersFrom (ClusterState.start.next .other) ('#' :: word) = ('#' :: g) :: gs :=
    exists_addFront _ '#' _
  have hclusters : clusters ('r' :: '#' :: word) = ['r'] :: ('#' :: g) :: gs := by
    rw [clusters, clustersFrom, hfirst, hrest, hmark]
    rfl
  have hletter : letterKind ['r'] ≠ .separator :=
    fun h => by simpa using mem_of_letterKind_separator h
  have hletter' : letterKind ('#' :: g) ≠ .separator :=
    fun h => by simpa using mem_of_letterKind_separator h
  refine ⟨g ++ (gs.filter fun g => letterKind g ≠ .separator).flatten, ?_⟩
  rw [letters, hclusters, List.filter_cons_of_pos (by simpa using hletter),
    List.filter_cons_of_pos (by simpa using hletter')]
  simp

theorem filter_joinUnderscore (ws : List (List Char)) :
    (joinUnderscore ws).filter (· ≠ '_') = ws.flatten.filter (· ≠ '_') := by
  fun_induction joinUnderscore ws with
  | case1 => rfl
  | case2 w => simp
  | case3 w ws hws ih => simp_all

/-- The name of a constant has the letters of the type's name. -/
theorem filter_screamingSnake (name : String) : (screamingSnake name).toList.filter (· ≠ '_') =
    (upper (letters name.toList)).filter (· ≠ '_') := by
  have hupper : ((wordsOf name.toList).map upper).flatten = upper (letters name.toList) := by
    rw [← flatten_wordsOf, upper_flatten]
  rw [screamingSnake, String.toList_ofList, filter_joinUnderscore, hupper]

theorem mem_screamingSnake {name : String} {c : Char} (h : c ∈ (screamingSnake name).toList) :
    c = '_' ∨ ∃ d ∈ name.toList, c ∈ upperChar d := by
  by_cases hc : c = '_'
  · exact Or.inl hc
  · have hmem : c ∈ (upper (letters name.toList)).filter (· ≠ '_') := by
      rw [← filter_screamingSnake]
      exact List.mem_filter.2 ⟨h, by simpa using hc⟩
    obtain ⟨d, hd, hc⟩ := List.mem_flatMap.1 (List.mem_of_mem_filter hmem)
    exact Or.inr ⟨d, mem_of_mem_letters hd, hc⟩

/-- The constant of a raw identifier has its mark. -/
theorem exists_screamingSnake_raw (word : String) : ∃ front between behind,
    (screamingSnake ("r#" ++ word)).toList = front ++ 'R' :: (between ++ '#' :: behind) ∧
      (∀ c ∈ front, c = '_') ∧ ∀ c ∈ between, c = '_' := by
  obtain ⟨rest, hletters⟩ := exists_letters_raw word.toList
  have hupper : upper ('r' :: '#' :: rest) = 'R' :: '#' :: upper rest := by
    rw [upper, List.flatMap_cons, List.flatMap_cons, upperChar_ascii (by decide),
      upperChar_ascii (by decide)]
    rfl
  have hfilter := filter_screamingSnake ("r#" ++ word)
  have hchars : ("r#" ++ word).toList = 'r' :: '#' :: word.toList := by simp
  rw [hchars, hletters, hupper, List.filter_cons_of_pos (by decide),
    List.filter_cons_of_pos (by decide)] at hfilter
  obtain ⟨front, rest', hname, hfront, -, hfilter⟩ := List.filter_eq_cons_iff.1 hfilter
  obtain ⟨between, behind, rfl, hbetween, -, -⟩ := List.filter_eq_cons_iff.1 hfilter
  exact ⟨front, between, behind, hname, by simpa using hfront, by simpa using hbetween⟩

/-! ### Names with one constant -/

theorem splitOn_joinUnderscore {ws : List (List Char)} (h : ws ≠ []) :
    List.splitOn '_' (joinUnderscore ws) = ws.flatMap (List.splitOn '_') := by
  fun_induction joinUnderscore ws with
  | case1 => exact absurd rfl h
  | case2 w => simp
  | case3 w ws hws ih => rw [List.splitOn_append_cons_self, ih hws, List.flatMap_cons]

theorem splitOn_append {front : List Char} (h : '_' ∉ front) (cs : List Char) :
    List.splitOn '_' (front ++ cs) = (List.splitOn '_' cs).modifyHead (front ++ ·) := by
  induction front with
  | nil => exact (congrFun List.modifyHead_id _).symm
  | cons c front ih =>
    obtain ⟨hc, hfront⟩ := not_or.1 (List.mem_cons.not.1 h)
    rw [List.cons_append, List.splitOn_cons_eq_if_modifyHead, if_neg (by simpa using Ne.symm hc),
      ih hfront, List.modifyHead_modifyHead]
    rfl

/-- Upper case moves no underscore. -/
theorem splitOn_upper (w : List Char) :
    List.splitOn '_' (upper w) = (List.splitOn '_' w).map upper := by
  induction w with
  | nil => rfl
  | cons c w ih =>
    have hcons : upper (c :: w) = upperChar c ++ upper w := List.flatMap_cons
    rw [hcons, List.splitOn_cons_eq_if_modifyHead]
    by_cases hc : c = '_'
    · have hsame : upperChar '_' = ['_'] := upperChar_ascii (by decide)
      rw [hc, hsame, List.singleton_append, List.splitOn_cons_eq_if_modifyHead, ih]
      rfl
    · rw [if_neg (by simpa using hc), splitOn_append (underscore_not_mem_upperChar hc), ih]
      obtain ⟨v, vs, hsplit⟩ := List.exists_cons_of_ne_nil (List.splitOn_ne_nil '_' w)
      rw [hsplit]
      rfl

/-- The words of a name, cut also at an underscore that carries marks and so does not separate
words. -/
def parts (name : List Char) : List (List Char) := (wordsOf name).flatMap (List.splitOn '_')

theorem parts_eq_nil_iff {name : List Char} : parts name = [] ↔ wordsOf name = [] := by
  constructor
  · intro h
    refine List.eq_nil_iff_forall_not_mem.2 fun w hw => ?_
    exact List.splitOn_ne_nil '_' w (List.flatMap_eq_nil_iff.1 h w hw)
  · intro h
    rw [parts, h]
    rfl

/-- Between its underscores the name of a constant has the parts of the type's name, in upper
case. -/
theorem splitOn_screamingSnake {name : String} (h : wordsOf name.toList ≠ []) :
    List.splitOn '_' (screamingSnake name).toList = (parts name.toList).map upper := by
  rw [screamingSnake, String.toList_ofList, splitOn_joinUnderscore (by simpa using h),
    List.flatMap_map, parts, List.map_flatMap]
  exact List.flatMap_congr fun w _ => splitOn_upper w

theorem screamingSnake_eq_empty_iff {name : String} :
    screamingSnake name = "" ↔ wordsOf name.toList = [] := by
  rw [screamingSnake, ← String.toList_inj, String.toList_ofList, String.toList_empty]
  constructor
  · intro h
    match hwords : wordsOf name.toList with
    | [] => rfl
    | [w] =>
      have hmem : w ∈ wordsOf name.toList := by simp [hwords]
      rw [hwords] at h
      exact absurd (upper_eq_nil_iff.1 h) (by simpa using (List.mem_filter.1 hmem).2)
    | v :: w :: ws =>
      rw [hwords] at h
      simp [joinUnderscore] at h
  · intro h
    rw [h]
    rfl

/-- A text is the name of a constant when between its underscores it has the parts of the type's
name. -/
theorem screamingSnake_eq_iff_splitOn {s t : String} (ht : t ≠ "") :
    screamingSnake s = t ↔ List.splitOn '_' t.toList = (parts s.toList).map upper := by
  by_cases hs : wordsOf s.toList = []
  · rw [screamingSnake_eq_empty_iff.2 hs, parts_eq_nil_iff.2 hs, List.map_nil]
    exact ⟨fun h => absurd h.symm ht, fun h => absurd h (List.splitOn_ne_nil '_' t.toList)⟩
  rw [← splitOn_screamingSnake hs]
  constructor
  · rintro rfl
    rfl
  · intro h
    have hjoin : ∀ cs : List Char, ['_'].intercalate (List.splitOn '_' cs) = cs := fun cs =>
      List.intercalate_splitOn '_'
    rw [← String.toList_inj, ← hjoin t.toList, h, hjoin]

/-- **Names have one constant when their parts agree up to case.** -/
theorem screamingSnake_eq_iff (s t : String) :
    screamingSnake s = screamingSnake t ↔
      (parts s.toList).map upper = (parts t.toList).map upper := by
  by_cases ht : wordsOf t.toList = []
  · rw [screamingSnake_eq_empty_iff.2 ht, parts_eq_nil_iff.2 ht, List.map_nil,
      screamingSnake_eq_empty_iff, List.map_eq_nil_iff, parts_eq_nil_iff]
  · rw [screamingSnake_eq_iff_splitOn (screamingSnake_eq_empty_iff.not.2 ht),
      splitOn_screamingSnake ht, eq_comm]

/-! ### Camel case -/

/-- The rest of a name in camel case, behind a character. -/
def camelFrom (before : Char) : List Char → Bool
  | [] => true
  | c :: cs =>
    (c.isDigit || c.isLower && before.isAlpha || c.isUpper && !before.isUpper) && camelFrom c cs

/-- Whether the name is in camel case: capitals and numbers begin words, and no capital follows
another. -/
def isCamelCase : List Char → Bool
  | [] => false
  | c :: cs => c.isUpper && camelFrom c cs

theorem isAlphanum_of_camelFrom {b : Char} {cs : List Char} (h : camelFrom b cs = true) :
    ∀ c ∈ cs, c.isAlphanum = true := by
  induction cs generalizing b with
  | nil => simp
  | cons c cs ih =>
    rw [camelFrom, Bool.and_eq_true] at h
    obtain ⟨hc, hcs⟩ := h
    refine List.forall_mem_cons.2 ⟨?_, ih hcs⟩
    simp only [Bool.or_eq_true, Bool.and_eq_true] at hc
    rcases hc with (hdigit | ⟨hlower, -⟩) | ⟨hupper, -⟩
    · exact isAlphanum_of_isDigit hdigit
    · exact isAlphanum_of_isLower hlower
    · exact isAlphanum_of_isUpper hupper

theorem isAlphanum_of_isCamelCase {cs : List Char} (h : isCamelCase cs = true) :
    ∀ c ∈ cs, c.isAlphanum = true := by
  cases cs with
  | nil => simp
  | cons c cs =>
    rw [isCamelCase, Bool.and_eq_true] at h
    exact List.forall_mem_cons.2 ⟨isAlphanum_of_isUpper h.1, isAlphanum_of_camelFrom h.2⟩

/-- Letters without marks are clusters of their own. -/
theorem clustersFrom_plain {cs : List Char} (h : ∀ c ∈ cs, clusterClass c = .other)
    (s : ClusterState) :
    clustersFrom s cs = cs.map fun c => [c] := by
  induction cs generalizing s with
  | nil => rfl
  | cons c cs ih =>
    obtain ⟨hc, hcs⟩ := List.forall_mem_cons.1 h
    cases cs with
    | nil => rfl
    | cons d cs =>
      have hd : clusterClass d = .other := hcs d List.mem_cons_self
      rw [clustersFrom, ih hcs]
      simp [hc, hd, addFront, ClusterState.next, ClusterState.joins]

/-- A word of a name in camel case: a capital and small letters, or a number. -/
inductive IsCamelWord : List Char → Prop where
  | capital {c : Char} {cs : List Char} : c.isUpper = true → (∀ d ∈ cs, d.isLower = true) →
      IsCamelWord (c :: cs)
  | number {cs : List Char} : cs ≠ [] → (∀ d ∈ cs, d.isDigit = true) → IsCamelWord cs

/-- The word that a character ends, as far as it is known. -/
inductive Unfinished (b : Char) (word : List Char) : Prop where
  | letters : b.isAlpha = true →
      (∃ c cs, word = c :: cs ∧ c.isUpper = true ∧ ∀ d ∈ cs, d.isLower = true) →
      Unfinished b word
  | digits : b.isDigit = true → word ≠ [] → (∀ d ∈ word, d.isDigit = true) → Unfinished b word

theorem Unfinished.isCamelWord {b : Char} {word : List Char} (h : Unfinished b word) :
    IsCamelWord word := by
  cases h with
  | letters _ hword =>
    obtain ⟨c, cs, rfl, hc, hcs⟩ := hword
    exact .capital hc hcs
  | digits _ hfull hdigits => exact .number hfull hdigits

section Kinds
variable {c : Char}

theorem letterKind_of_isUpper (h : c.isUpper = true) : letterKind [c] = .upper := by
  have hc := lt_of_isAlphanum (isAlphanum_of_isUpper h)
  rw [letterKind_ascii hc]
  exact ascii_cases (p := fun c => c.isUpper = true → asciiKind c = .upper) (by decide) hc h

theorem letterKind_of_isLower (h : c.isLower = true) : letterKind [c] = .lower := by
  have hc := lt_of_isAlphanum (isAlphanum_of_isLower h)
  rw [letterKind_ascii hc]
  exact ascii_cases (p := fun c => c.isLower = true → asciiKind c = .lower) (by decide) hc h

theorem letterKind_of_isDigit (h : c.isDigit = true) : letterKind [c] = .digit := by
  have hc := lt_of_isAlphanum (isAlphanum_of_isDigit h)
  rw [letterKind_ascii hc]
  exact ascii_cases (p := fun c => c.isDigit = true → asciiKind c = .digit) (by decide) hc h

theorem letterKind_of_isAlpha (h : c.isAlpha = true) :
    letterKind [c] = .upper ∨ letterKind [c] = .lower := by
  rw [Char.isAlpha, Bool.or_eq_true] at h
  exact h.imp letterKind_of_isUpper letterKind_of_isLower

end Kinds

/-- A word goes on. -/
theorem wordsFrom_join {before : LetterKind} {word g : List Char} {gs : List (List Char)}
    (hletter : letterKind g ≠ .separator) (hsame : startsBetween before (letterKind g) = false)
    (hsmall : startsAcronymEnd before (letterKind g) (headKind gs) = false) :
    wordsFrom before word (g :: gs) = wordsFrom (letterKind g) (word ++ g) gs := by
  simp [wordsFrom, hletter, hsame, hsmall]

/-- A word begins. -/
theorem wordsFrom_cut {before : LetterKind} {word g : List Char} {gs : List (List Char)}
    (hletter : letterKind g ≠ .separator) (hcut : startsBetween before (letterKind g) = true) :
    wordsFrom before word (g :: gs) = word :: wordsFrom (letterKind g) g gs := by
  simp [wordsFrom, hletter, hcut]

/-- What the next character makes of the unfinished word: it takes it on, or it finishes it and
begins another. -/
def Advances (b : Char) (word : List Char) (c : Char) (gs : List (List Char)) : Prop :=
  ∃ next, Unfinished c next ∧
    (wordsFrom (letterKind [b]) word ([c] :: gs) = wordsFrom (letterKind [c]) next gs ∨
      wordsFrom (letterKind [b]) word ([c] :: gs) = word :: wordsFrom (letterKind [c]) next gs)

namespace Unfinished
variable {b c : Char} {word : List Char}

/-- A digit takes a number on and begins one behind letters. -/
theorem advances_digit (hword : Unfinished b word) (hc : c.isDigit = true) (gs : List (List Char)) :
    Advances b word c gs := by
  have hkind := letterKind_of_isDigit hc
  cases hword with
  | letters hb hword =>
    have hcut : startsBetween (letterKind [b]) (letterKind [c]) = true := by
      rcases letterKind_of_isAlpha hb with hb | hb <;> rw [hkind, hb] <;> rfl
    exact ⟨[c], .digits hc (by simp) (by simpa using hc),
      Or.inr (wordsFrom_cut (by simp [hkind]) hcut)⟩
  | digits hb hfull hdigits =>
    have hb := letterKind_of_isDigit hb
    refine ⟨word ++ [c], .digits hc (by simp) ?_, Or.inl ?_⟩
    · exact List.forall_mem_append.2 ⟨hdigits, List.forall_mem_singleton.2 hc⟩
    · exact wordsFrom_join (by simp [hkind]) (by rw [hkind, hb]; rfl) (by rw [hkind, hb]; rfl)

/-- A small letter takes letters on. -/
theorem advances_lower (hword : Unfinished b word) (hc : c.isLower = true)
    (hletter : b.isAlpha = true) (gs : List (List Char)) : Advances b word c gs := by
  have hkind := letterKind_of_isLower hc
  have hb := letterKind_of_isAlpha hletter
  cases hword with
  | letters _ hword =>
    obtain ⟨first, others, rfl, hfirst, hothers⟩ := hword
    refine ⟨first :: (others ++ [c]),
      .letters (by simp [Char.isAlpha, hc]) ⟨first, _, rfl, hfirst, ?_⟩, Or.inl ?_⟩
    · exact List.forall_mem_append.2 ⟨hothers, List.forall_mem_singleton.2 hc⟩
    · exact wordsFrom_join (by simp [hkind]) (by rcases hb with hb | hb <;> rw [hkind, hb] <;> rfl)
        (by rcases hb with hb | hb <;> rw [hkind, hb] <;> rfl)
  | digits hdigit =>
    rw [letterKind_of_isDigit hdigit] at hb
    simp at hb

/-- A capital begins a word. -/
theorem advances_upper (hword : Unfinished b word) (hc : c.isUpper = true)
    (hother : b.isUpper = false) (gs : List (List Char)) : Advances b word c gs := by
  have hkind := letterKind_of_isUpper hc
  have hcut : startsBetween (letterKind [b]) (letterKind [c]) = true := by
    cases hword with
    | letters hb _ =>
      rw [Char.isAlpha, hother, Bool.false_or] at hb
      rw [hkind, letterKind_of_isLower hb]
      rfl
    | digits hb _ _ =>
      rw [hkind, letterKind_of_isDigit hb]
      rfl
  exact ⟨[c], .letters (by simp [Char.isAlpha, hc]) ⟨c, [], rfl, hc, by simp⟩,
    Or.inr (wordsFrom_cut (by simp [hkind]) hcut)⟩

end Unfinished

/-- The words of a name in camel case, behind a character of it. -/
theorem isCamelWord_of_mem_wordsFrom {b : Char} {word cs : List Char} (h : camelFrom b cs = true)
    (hword : Unfinished b word) :
    ∀ w ∈ wordsFrom (letterKind [b]) word (cs.map fun c => [c]), IsCamelWord w := by
  induction cs generalizing b word with
  | nil => simpa [wordsFrom] using hword.isCamelWord
  | cons c cs ih =>
    rw [camelFrom, Bool.and_eq_true] at h
    obtain ⟨hc, hcs⟩ := h
    have hstep : Advances b word c (cs.map fun c => [c]) := by
      simp only [Bool.or_eq_true, Bool.and_eq_true, Bool.not_eq_true'] at hc
      rcases hc with (hdigit | ⟨hlower, hletter⟩) | ⟨hupper, hother⟩
      · exact hword.advances_digit hdigit _
      · exact hword.advances_lower hlower hletter _
      · exact hword.advances_upper hupper hother _
    obtain ⟨next, hnext, hwords | hwords⟩ := hstep
    · rw [List.map_cons, hwords]
      exact ih hcs hnext
    · rw [List.map_cons, hwords]
      exact List.forall_mem_cons.2 ⟨hword.isCamelWord, ih hcs hnext⟩

theorem clusters_of_isCamelCase {name : List Char} (h : isCamelCase name = true) :
    clusters name = name.map fun c => [c] :=
  clustersFrom_plain (fun c hc => clusterClass_of_isAlphanum (isAlphanum_of_isCamelCase h c hc))
    .start

theorem isCamelWord_of_mem_wordsOf {name : List Char} (h : isCamelCase name = true) :
    ∀ w ∈ wordsOf name, IsCamelWord w := by
  intro w hw
  have hmem := List.mem_of_mem_filter hw
  rw [clusters_of_isCamelCase h] at hmem
  cases name with
  | nil => cases h
  | cons c cs =>
    rw [isCamelCase, Bool.and_eq_true] at h
    have hkind := letterKind_of_isUpper h.1
    rw [List.map_cons,
      wordsFrom_join (by simp [hkind]) (by rw [hkind]; rfl) (by rw [hkind]; rfl)] at hmem
    exact isCamelWord_of_mem_wordsFrom h.2
      (.letters (by simp [Char.isAlpha, h.1]) ⟨c, [], rfl, h.1, by simp⟩) w hmem

/-- No character of a name in camel case separates words. -/
theorem letters_of_isCamelCase {name : List Char} (h : isCamelCase name = true) :
    letters name = name := by
  have hletters : ∀ g ∈ name.map (fun c => [c]), decide (letterKind g ≠ .separator) = true := by
    intro g hg
    obtain ⟨c, hc, rfl⟩ := List.mem_map.1 hg
    have halphanum := isAlphanum_of_isCamelCase h c hc
    rw [letterKind_ascii (lt_of_isAlphanum halphanum)]
    exact ascii_cases (p := fun c => c.isAlphanum = true → decide (asciiKind c ≠ .separator) = true)
      (by decide) (lt_of_isAlphanum halphanum) halphanum
  rw [letters, clusters_of_isCamelCase h, List.filter_eq_self.2 hletters, ← List.flatMap_def]
  exact List.flatMap_singleton' name

theorem upper_of_isAlphanum {w : List Char} (h : ∀ c ∈ w, c.isAlphanum = true) :
    upper w = w.map Char.toUpper := by
  induction w with
  | nil => rfl
  | cons c w ih =>
    obtain ⟨hc, hw⟩ := List.forall_mem_cons.1 h
    rw [upper, List.flatMap_cons, upperChar_ascii (lt_of_isAlphanum hc), List.map_cons, ← ih hw]
    rfl

section Letters
variable {c : Char}

theorem toUpper_of_isUpper (h : c.isUpper = true) : c.toUpper = c :=
  ascii_cases (p := fun c => c.isUpper = true → c.toUpper = c) (by decide)
    (lt_of_isAlphanum (isAlphanum_of_isUpper h)) h

theorem toUpper_of_isDigit (h : c.isDigit = true) : c.toUpper = c ∧ c.toLower = c :=
  ascii_cases (p := fun c => c.isDigit = true → c.toUpper = c ∧ c.toLower = c) (by decide)
    (lt_of_isAlphanum (isAlphanum_of_isDigit h)) h

theorem toUpper_of_isLower (h : c.isLower = true) :
    c.toUpper.isUpper = true ∧ c.toUpper.toLower = c :=
  ascii_cases (p := fun c => c.isLower = true → c.toUpper.isUpper = true ∧ c.toUpper.toLower = c)
    (by decide) (lt_of_isAlphanum (isAlphanum_of_isLower h)) h

end Letters

theorem IsCamelWord.isAlphanum {w : List Char} (h : IsCamelWord w) :
    ∀ c ∈ w, c.isAlphanum = true := by
  cases h with
  | capital hc hcs =>
    exact List.forall_mem_cons.2
      ⟨isAlphanum_of_isUpper hc, fun d hd => isAlphanum_of_isLower (hcs d hd)⟩
  | number _ hdigits => exact fun d hd => isAlphanum_of_isDigit (hdigits d hd)

/-- The word with its first character as it is and small letters behind it. -/
def capitalized : List Char → List Char
  | [] => []
  | c :: cs => c :: cs.map Char.toLower

/-- A word of a name in camel case is told by its letters. -/
theorem IsCamelWord.capitalized_upper {w : List Char} (h : IsCamelWord w) :
    capitalized (upper w) = w := by
  rw [upper_of_isAlphanum h.isAlphanum]
  cases h with
  | @capital c cs hc hcs =>
    have hsmall : (cs.map Char.toUpper).map Char.toLower = cs := by
      rw [List.map_map]
      exact (List.map_congr_left fun d hd => (toUpper_of_isLower (hcs d hd)).2).trans
        (List.map_id cs)
    rw [List.map_cons, capitalized, hsmall, toUpper_of_isUpper hc]
  | number _ hdigits =>
    have hsame : w.map Char.toUpper = w ∧ w.map Char.toLower = w :=
      ⟨(List.map_congr_left fun d hd => (toUpper_of_isDigit (hdigits d hd)).1).trans
        (List.map_id w),
        (List.map_congr_left fun d hd => (toUpper_of_isDigit (hdigits d hd)).2).trans
        (List.map_id w)⟩
    rw [hsame.1]
    cases w with
    | nil => rfl
    | cons d ds =>
      rw [capitalized, (List.cons.inj hsame.2).2]

/-- **A name in camel case is given back by the words of its constant.** -/
theorem flatten_capitalized {name : List Char} (h : isCamelCase name = true) :
    (((wordsOf name).map upper).map capitalized).flatten = name := by
  have hwords : ((wordsOf name).map upper).map capitalized = wordsOf name := by
    rw [List.map_map]
    exact (List.map_congr_left fun w hw =>
      (isCamelWord_of_mem_wordsOf h w hw).capitalized_upper).trans (List.map_id _)
  rw [hwords, flatten_wordsOf, letters_of_isCamelCase h]

theorem parts_of_isCamelCase {name : List Char} (h : isCamelCase name = true) :
    parts name = wordsOf name := by
  have hwhole : ∀ w ∈ wordsOf name, List.splitOn '_' w = [w] := by
    intro w hw
    refine List.splitOn_eq_singleton fun hmem => ?_
    exact absurd ((isCamelWord_of_mem_wordsOf h w hw).isAlphanum '_' hmem) (by decide)
  rw [parts, List.flatMap_congr hwhole]
  exact List.flatMap_singleton' _

/-- Different names in camel case have different constants. -/
theorem eq_of_screamingSnake_eq {s t : String} (hs : isCamelCase s.toList = true)
    (ht : isCamelCase t.toList = true) (h : screamingSnake s = screamingSnake t) : s = t := by
  have hwords := (screamingSnake_eq_iff s t).1 h
  rw [parts_of_isCamelCase hs, parts_of_isCamelCase ht] at hwords
  rw [← String.toList_inj, ← flatten_capitalized hs, ← flatten_capitalized ht, hwords]

/-- A capital alone is its own constant. -/
theorem screamingSnake_capital {s : String} {c : Char} (hc : c.isUpper = true)
    (hs : s.toList = [c]) :
    screamingSnake s = s := by
  have hcamel : isCamelCase [c] = true := by simp [isCamelCase, camelFrom, hc]
  have hkind := letterKind_of_isUpper hc
  have hword : wordsOf [c] = [[c]] := by
    rw [wordsOf, clusters_of_isCamelCase hcamel, List.map_singleton,
      wordsFrom_join (by simp [hkind]) (by rw [hkind]; rfl) (by rw [hkind]; rfl)]
    simp [wordsFrom]
  have hupper : upper [c] = [c] := by
    rw [upper_of_isAlphanum (isAlphanum_of_isCamelCase hcamel), List.map_singleton,
      toUpper_of_isUpper hc]
  rw [screamingSnake, hs, hword, List.map_singleton, hupper, ← String.toList_inj,
    String.toList_ofList, hs]
  rfl

theorem not_camelFrom_capitals {b c : Char} (hb : b.isUpper = true) (hc : c.isUpper = true)
    (cs : List Char) :
    camelFrom b (c :: cs) = false := by
  have hkind : c.isDigit = false ∧ c.isLower = false :=
    ascii_cases (p := fun c => c.isUpper = true → c.isDigit = false ∧ c.isLower = false) (by decide)
      (lt_of_isAlphanum (isAlphanum_of_isUpper hc)) hc
  simp [camelFrom, hb, hkind]

/-- A constant whose name is in camel case is that of a name of one word. -/
theorem wordsOf_of_screamingSnake_eq {s t : String} (hs : isCamelCase s.toList = true)
    (ht : isCamelCase t.toList = true) (h : screamingSnake s = t) :
    wordsOf s.toList = [s.toList] := by
  have hflat : (wordsOf s.toList).flatten = s.toList := by
    rw [flatten_wordsOf, letters_of_isCamelCase hs]
  have hname : joinUnderscore ((wordsOf s.toList).map upper) = t.toList := by
    rw [← h, screamingSnake, String.toList_ofList]
  have hplain : '_' ∉ t.toList := fun hmem => absurd (isAlphanum_of_isCamelCase ht '_' hmem)
    (by decide)
  match hwords : wordsOf s.toList with
  | [] =>
    rw [hwords, List.flatten_nil] at hflat
    rw [← hflat] at hs
    cases hs
  | [w] => rw [← hflat, hwords, List.flatten_singleton]
  | v :: w :: ws =>
    rw [hwords] at hname
    exact absurd (by simp [← hname, joinUnderscore]) hplain

/-- A constant has the name of a type, both in camel case, only where this is one capital and both
are one. -/
theorem screamingSnake_eq_name_iff {s t : String} (hs : isCamelCase s.toList = true)
    (ht : isCamelCase t.toList = true) : screamingSnake s = t ↔ s = t ∧ s.toList.length = 1 := by
  obtain ⟨c, cs, hchars⟩ :=
    List.exists_cons_of_ne_nil (show s.toList ≠ [] by rintro h; rw [h] at hs; cases hs)
  have hc : c.isUpper = true := by
    rw [hchars, isCamelCase, Bool.and_eq_true] at hs
    exact hs.1
  constructor
  · intro h
    have hwords := wordsOf_of_screamingSnake_eq hs ht h
    have hword := isCamelWord_of_mem_wordsOf hs s.toList (by simp [hwords])
    have hname : t.toList = c :: cs.map Char.toUpper := by
      rw [← h, screamingSnake, String.toList_ofList, hwords, List.map_singleton,
        upper_of_isAlphanum hword.isAlphanum, hchars, List.map_cons, toUpper_of_isUpper hc]
      rfl
    rw [hchars] at hword
    cases cs with
    | nil =>
      refine ⟨?_, by rw [hchars]; rfl⟩
      rw [← String.toList_inj, hchars, hname]
      rfl
    | cons d ds =>
      -- a second letter would be a second capital of the constant
      have hd : d.toUpper.isUpper = true := by
        cases hword with
        | capital _ hcs => exact (toUpper_of_isLower (hcs d List.mem_cons_self)).1
        | number _ hdigits =>
          have hkind := letterKind_of_isDigit (hdigits c List.mem_cons_self)
          rw [letterKind_of_isUpper hc] at hkind
          cases hkind
      rw [hname, List.map_cons, isCamelCase, not_camelFrom_capitals hc hd, Bool.and_false] at ht
      cases ht
  · rintro ⟨rfl, hlength⟩
    obtain rfl : cs = [] := by simpa [hchars] using hlength
    exact screamingSnake_capital hc hchars

end Companion.Text
