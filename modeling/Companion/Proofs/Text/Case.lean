import Mathlib
import Companion.Text.Words
import Companion.Text.Xid

/-! The tables of case and of the characters of words. In upper case a character of words becomes
such characters (`isXidContinue_of_mem_upperChar`), and only an underscore becomes one. On ASCII the
tables are the case mapping of ASCII (`upperChar_ascii`). What is used of each table is stated and
checked in one place. -/
namespace Companion.Text

/-! ### Ranges -/

namespace Ranges

/-- Whether one of the ranges holds all from `low` to `high`. -/
def covers (r : Ranges) (low high : Nat) : Bool := r.any fun p => p.1.ble low && high.ble p.2

/-- Whether one of the ranges holds some of what is from `low` to `high`. -/
def meets (r : Ranges) (low high : Nat) : Bool := r.any fun p => p.1.ble high && low.ble p.2

/-- Whether each range of the second set lies in one of the first, both in ascending order. -/
def contains : Ranges → Ranges → Bool
  | [], inner => inner.isEmpty
  | p :: outer, inner => contains outer (inner.dropWhile fun q => p.1.ble q.1 && q.2.ble p.2)

variable {r : Ranges} {n : Nat}

theorem exists_of_has (h : r.has n = true) : ∃ p ∈ r, p.1 ≤ n ∧ n ≤ p.2 := by
  induction r with
  | nil => cases h
  | cons q rest ih =>
    rw [Ranges.has] at h
    split at h
    · cases h
    · split at h
      · exact ⟨q, List.mem_cons_self, by omega, by omega⟩
      · obtain ⟨p, hp, hinside⟩ := ih h
        exact ⟨p, List.mem_cons_of_mem q hp, hinside⟩

/-- In ascending ranges no look-up stops too early. -/
theorem has_of_mem (h : r.IsChain fun p q => p.1 ≤ q.1) {p : Nat × Nat} (hp : p ∈ r)
    (hlow : p.1 ≤ n) (hhigh : n ≤ p.2) : r.has n = true := by
  induction r with
  | nil => cases hp
  | cons q rest ih =>
    obtain ⟨hfirst, hrest⟩ := List.pairwise_cons.1 (List.isChain_iff_pairwise.1 h)
    have hq : q.1 ≤ p.1 := by
      rcases List.mem_cons.1 hp with rfl | hp
      · exact Nat.le_refl _
      · exact hfirst p hp
    rw [Ranges.has, if_neg (by omega)]
    split
    · rfl
    · next hbehind =>
      rcases List.mem_cons.1 hp with rfl | hp
      · exact absurd hhigh hbehind
      · exact ih (List.isChain_iff_pairwise.2 hrest) hp

theorem has_of_covers (h : r.IsChain fun p q => p.1 ≤ q.1) {low high : Nat}
    (hcovers : r.covers low high = true) (hlow : low ≤ n) (hhigh : n ≤ high) : r.has n = true := by
  obtain ⟨p, hp, hinside⟩ := List.any_eq_true.1 hcovers
  simp only [Bool.and_eq_true, Nat.ble_eq] at hinside
  exact has_of_mem h hp (by omega) (by omega)

theorem meets_of_has (h : r.has n = true) {low high : Nat} (hlow : low ≤ n) (hhigh : n ≤ high) :
    r.meets low high = true := by
  obtain ⟨p, hp, hfirst, hlast⟩ := exists_of_has h
  refine List.any_eq_true.2 ⟨p, hp, ?_⟩
  simp only [Bool.and_eq_true, Nat.ble_eq]
  omega

theorem exists_of_contains {outer inner : Ranges} (h : outer.contains inner = true) {q : Nat × Nat}
    (hq : q ∈ inner) : ∃ p ∈ outer, p.1 ≤ q.1 ∧ q.2 ≤ p.2 := by
  induction outer generalizing inner with
  | nil =>
    rw [Ranges.contains, List.isEmpty_iff] at h
    rw [h] at hq
    cases hq
  | cons p outer ih =>
    have hcut := inner.takeWhile_append_dropWhile (p := fun q => p.1.ble q.1 && q.2.ble p.2)
    rw [← hcut, List.mem_append] at hq
    rcases hq with hq | hq
    · have hinside := List.mem_takeWhile_imp hq
      simp only [Bool.and_eq_true, Nat.ble_eq] at hinside
      exact ⟨p, List.mem_cons_self, hinside⟩
    · obtain ⟨p', hp', hinside⟩ := ih h hq
      exact ⟨p', List.mem_cons_of_mem p hp', hinside⟩

end Ranges

/-! ### Runs -/

namespace CaseRun

/-- The code points of the run. -/
def codes (r : CaseRun) : List Nat := List.range' r.first ((r.last - r.first) / r.step + 1) r.step

/-- Whether the run takes members of a set to members. Where one range holds all images, or none
holds a code point of the run, these are not looked at one by one. -/
def keeps (r : CaseRun) (set : Ranges) : Bool :=
  set.covers (r.first + r.shift).toNat (r.last + r.shift).toNat || !set.meets r.first r.last ||
    r.codes.all fun n => !set.has n || set.has (n + r.shift).toNat

/-- Whether all images of the run are above a code point, or all below. -/
def skips (r : CaseRun) (n : Nat) : Bool :=
  (r.last + r.shift).toNat.blt n || n.blt (r.first + r.shift).toNat

variable {r : CaseRun} {n m : Nat}

theorem image?_eq_some (h : r.image? n = some m) :
    r.first ≤ n ∧ n ≤ r.last ∧ n ∈ r.codes ∧ m = (n + r.shift).toNat := by
  rw [image?] at h
  split at h
  · next hmember =>
    simp only [Bool.and_eq_true, decide_eq_true_eq, beq_iff_eq] at hmember
    obtain ⟨⟨hfirst, hlast⟩, hstep⟩ := hmember
    refine ⟨hfirst, hlast, ?_, (Option.some.inj h).symm⟩
    rw [codes, List.mem_range']
    have hdivides := Nat.div_add_mod (n - r.first) r.step
    refine ⟨(n - r.first) / r.step, Nat.lt_succ_of_le (Nat.div_le_div_right (by omega)), by omega⟩
  · cases h

theorem has_of_keeps {set : Ranges} (hset : set.IsChain fun p q => p.1 ≤ q.1)
    (h : r.keeps set = true) (hm : r.image? n = some m) (hn : set.has n = true) :
    set.has m = true := by
  obtain ⟨hfirst, hlast, hcode, rfl⟩ := image?_eq_some hm
  rw [keeps, Bool.or_eq_true, Bool.or_eq_true] at h
  rcases h with (hcovers | hapart) | hall
  · exact Ranges.has_of_covers hset hcovers (by omega) (by omega)
  · rw [Ranges.meets_of_has hn hfirst hlast] at hapart
    cases hapart
  · simpa [hn] using List.all_eq_true.1 hall n hcode

theorem ne_of_skips (h : r.skips m = true) : r.image? n ≠ some m := by
  intro hm
  obtain ⟨hfirst, hlast, -, hcode⟩ := image?_eq_some hm
  simp only [skips, Bool.or_eq_true, Nat.blt_eq] at h
  omega

end CaseRun

/-! ### The tables -/

/-- The code points that continue words are in ascending order, are those of characters, and are
among others all that start words. -/
theorem xidContinue_table : (xidContinue.IsChain fun p q => p.1 ≤ q.1) ∧
    (xidContinue.all fun p => p.2.blt 0xd800 || Nat.blt 0xdfff p.1 && p.2.blt 0x110000) = true ∧
    xidContinue.contains xidStart = true := by
  decide +kernel

/-- What becomes several characters in upper case is not in ASCII, and becomes characters of words
other than an underscore. -/
theorem upperExpansions_table : (upperExpansions.all fun p => Nat.ble 0x80 p.1 && !p.2.isEmpty &&
    p.2.all fun m => xidContinue.covers m m && m != 0x5f) = true := by
  decide +kernel

/-- Nothing else becomes an underscore in upper case, and characters of words become such
characters. Only the first run is in ASCII. -/
theorem upperRuns_table : (upperRuns.all fun r => r.keeps xidContinue && r.skips 0x5f) = true ∧
    (upperRuns.tail.all fun r => Nat.ble 0x80 r.first) = true := by
  decide +kernel

/-- In lower case, too, only the first run is in ASCII. -/
theorem lower_table : (lowerExpansions.all fun p => Nat.ble 0x80 p.1) = true ∧
    (lowerRuns.tail.all fun r => Nat.ble 0x80 r.first) = true := by
  decide +kernel

/-! ### Upper case -/

/-- A character in upper case is itself, or what a table says. -/
theorem mem_upperChar {c d : Char} (h : d ∈ upperChar c) : d = c ∨
    (∃ p ∈ upperExpansions, ∃ m ∈ p.2, d = Char.ofNat m) ∨
    ∃ r ∈ upperRuns, ∃ m, r.image? c.toNat = some m ∧ d = Char.ofNat m := by
  rw [upperChar, mapCase] at h
  split at h
  · next codes hcodes =>
    obtain ⟨before, behind, htable, -⟩ := List.lookup_eq_some_iff.1 hcodes
    obtain ⟨m, hm, rfl⟩ := List.mem_map.1 h
    exact Or.inr (Or.inl ⟨(c.toNat, codes), by simp [htable], m, hm, rfl⟩)
  · split at h
    · next m hm =>
      obtain ⟨r, hr, himage⟩ := List.exists_of_findSome?_eq_some hm
      exact Or.inr (Or.inr ⟨r, hr, m, himage, List.mem_singleton.1 h⟩)
    · exact Or.inl (List.mem_singleton.1 h)

theorem isXidContinue_ofNat {n : Nat} (h : xidContinue.has n = true) :
    isXidContinue (Char.ofNat n) = true := by
  obtain ⟨p, hp, hlow, hhigh⟩ := Ranges.exists_of_has h
  have hrange := List.all_eq_true.1 xidContinue_table.2.1 p hp
  simp only [Bool.or_eq_true, Bool.and_eq_true, Nat.blt_eq] at hrange
  have hvalid : n.isValidChar := by
    unfold Nat.isValidChar
    omega
  rw [isXidContinue, Char.toNat_ofNat, if_pos hvalid]
  exact h

/-- A character that starts words also continues them. -/
theorem isXidContinue_of_isXidStart {c : Char} (h : isXidStart c = true) :
    isXidContinue c = true := by
  obtain ⟨hascending, -, htables⟩ := xidContinue_table
  obtain ⟨q, hq, hlow, hhigh⟩ := Ranges.exists_of_has h
  obtain ⟨p, hp, hfirst, hlast⟩ := Ranges.exists_of_contains htables hq
  exact Ranges.has_of_mem hascending hp (by omega) (by omega)

theorem expansion_of_mem {p : Nat × List Nat} (hp : p ∈ upperExpansions) :
    0x80 ≤ p.1 ∧ p.2 ≠ [] ∧ ∀ m ∈ p.2, xidContinue.has m = true ∧ m ≠ 0x5f := by
  have htable := List.all_eq_true.1 upperExpansions_table p hp
  simp only [Bool.and_eq_true, Nat.ble_eq, Bool.not_eq_true', List.isEmpty_eq_false_iff,
    List.all_eq_true, bne_iff_ne] at htable
  obtain ⟨⟨hhigh, hfull⟩, hcodes⟩ := htable
  exact ⟨hhigh, hfull, fun m hm =>
    ⟨Ranges.has_of_covers xidContinue_table.1 (hcodes m hm).1 (Nat.le_refl m) (Nat.le_refl m),
      (hcodes m hm).2⟩⟩

/-- Characters that continue words do so in upper case. -/
theorem isXidContinue_of_mem_upperChar {c d : Char} (hc : isXidContinue c = true)
    (hd : d ∈ upperChar c) :
    isXidContinue d = true := by
  rcases mem_upperChar hd with rfl | ⟨p, hp, m, hm, rfl⟩ | ⟨r, hr, m, hm, rfl⟩
  · exact hc
  · exact isXidContinue_ofNat ((expansion_of_mem hp).2.2 m hm).1
  · have htable := List.all_eq_true.1 upperRuns_table.1 r hr
    rw [Bool.and_eq_true] at htable
    exact isXidContinue_ofNat (CaseRun.has_of_keeps xidContinue_table.1 htable.1 hm hc)

theorem eq_underscore_of_ofNat {n : Nat} (h : Char.ofNat n = '_') : n = 0x5f := by
  have hcode := congrArg Char.toNat h
  rw [Char.toNat_ofNat] at hcode
  split at hcode
  · exact hcode
  · exact absurd hcode (by decide)

/-- Only an underscore is one in upper case. -/
theorem underscore_not_mem_upperChar {c : Char} (hc : c ≠ '_') : '_' ∉ upperChar c := by
  intro h
  rcases mem_upperChar h with rfl | ⟨p, hp, m, hm, heq⟩ | ⟨r, hr, m, hm, heq⟩
  · exact hc rfl
  · exact ((expansion_of_mem hp).2.2 m hm).2 (eq_underscore_of_ofNat heq.symm)
  · have htable := List.all_eq_true.1 upperRuns_table.1 r hr
    rw [Bool.and_eq_true] at htable
    obtain rfl := eq_underscore_of_ofNat heq.symm
    exact CaseRun.ne_of_skips htable.2 hm

theorem upperChar_ne_nil (c : Char) : upperChar c ≠ [] := by
  rw [upperChar, mapCase]
  split
  · next codes hcodes =>
    obtain ⟨before, behind, htable, -⟩ := List.lookup_eq_some_iff.1 hcodes
    have hp : (c.toNat, codes) ∈ upperExpansions := by simp [htable]
    simpa using (expansion_of_mem hp).2.1
  · split <;> simp

theorem upper_eq_nil_iff {cs : List Char} : upper cs = [] ↔ cs = [] := by
  cases cs <;> simp [upper, upperChar_ne_nil]

/-! ### ASCII -/

/-- The first run of a table is for ASCII, and all else is not. -/
theorem mapCase_ascii {expansions : List (Nat × List Nat)} {run : CaseRun} {runs : List CaseRun}
    (hexpansions : ∀ p ∈ expansions, 0x80 ≤ p.1)
    (hruns : runs.all (fun r => Nat.ble 0x80 r.first) = true) {c : Char} (hc : c.toNat < 0x80) :
    mapCase expansions (run :: runs) c = [((run.image? c.toNat).map Char.ofNat).getD c] := by
  have hlookup : expansions.lookup c.toNat = none := by
    rw [List.lookup_eq_none_iff]
    intro p hp
    have hhigh := hexpansions p hp
    simp only [bne_iff_ne]
    omega
  have hrest : runs.findSome? (·.image? c.toNat) = none := by
    rw [List.findSome?_eq_none_iff]
    intro r hr
    have hhigh := List.all_eq_true.1 hruns r hr
    rw [Nat.ble_eq] at hhigh
    simp [CaseRun.image?, show ¬ r.first ≤ c.toNat by omega]
  rw [mapCase, hlookup, List.findSome?_cons, hrest]
  cases run.image? c.toNat <;> rfl

theorem ascii_cases {p : Char → Prop} (h : ∀ n < 0x80, p (Char.ofNat n)) {c : Char}
    (hc : c.toNat < 0x80) : p c := by
  have hp := h c.toNat hc
  rwa [Char.ofNat_toNat] at hp

theorem upperChar_ascii {c : Char} (hc : c.toNat < 0x80) : upperChar c = [c.toUpper] :=
  (mapCase_ascii (fun _ hp => (expansion_of_mem hp).1) upperRuns_table.2 hc).trans
    (ascii_cases
      (p := fun c => [((CaseRun.image? ⟨0x61, 0x7a, 1, -32⟩ c.toNat).map Char.ofNat).getD c] =
      [c.toUpper]) (by decide) hc)

theorem lowerChar_ascii {c : Char} (hc : c.toNat < 0x80) : lowerChar c = [c.toLower] :=
  (mapCase_ascii (fun p hp => Nat.ble_eq ▸ List.all_eq_true.1 lower_table.1 p hp)
    lower_table.2 hc).trans
    (ascii_cases
      (p := fun c => [((CaseRun.image? ⟨0x41, 0x5a, 1, 32⟩ c.toNat).map Char.ofNat).getD c] =
      [c.toLower]) (by decide) hc)

/-- What an ASCII character is to the cutting of words. -/
def asciiKind (c : Char) : LetterKind :=
  if c = '_' || c = '-' || c = ' ' then .separator
  else if c.isDigit then .digit
  else if c.isUpper then .upper
  else if c.isLower then .lower
  else .other

theorem letterKind_ascii {c : Char} (hc : c.toNat < 0x80) : letterKind [c] = asciiKind c := by
  simp only [letterKind, upper, lower, List.flatMap_cons, List.flatMap_nil, List.append_nil,
    upperChar_ascii hc, lowerChar_ascii hc]
  exact ascii_cases
    (p := fun c => (if [c] = ['_'] || [c] = ['-'] || [c] = [' '] then LetterKind.separator
    else if [c].all Char.isDigit then .digit else if [c.toUpper] = [c.toLower] then .other
    else if [c] = [c.toUpper] then .upper else if [c] = [c.toLower] then .lower else .other) =
      asciiKind c)
    (by decide) hc

section Classes
variable {c : Char}

theorem isAlphanum_of_isUpper (h : c.isUpper = true) : c.isAlphanum = true := by
  simp [Char.isAlphanum, Char.isAlpha, h]

theorem isAlphanum_of_isLower (h : c.isLower = true) : c.isAlphanum = true := by
  simp [Char.isAlphanum, Char.isAlpha, h]

theorem isAlphanum_of_isDigit (h : c.isDigit = true) : c.isAlphanum = true := by
  simp [Char.isAlphanum, h]

end Classes

theorem lt_of_isAlphanum {c : Char} (h : c.isAlphanum = true) : c.toNat < 0x80 := by
  simp only [Char.isAlphanum, Char.isAlpha, Char.isUpper, Char.isLower, Char.isDigit,
    Bool.or_eq_true, Bool.and_eq_true, decide_eq_true_eq, UInt32.le_iff_toNat_le, ge_iff_le] at h
  rw [Char.toNat]
  have hz : 'z'.val.toNat = 122 := rfl
  have hZ : 'Z'.val.toNat = 90 := rfl
  have h9 : '9'.val.toNat = 57 := rfl
  omega

theorem clusterClass_of_isAlphanum {c : Char} (h : c.isAlphanum = true) : clusterClass c = .other :=
  ascii_cases (p := fun c => c.isAlphanum = true → clusterClass c = .other) (by decide +kernel)
    (lt_of_isAlphanum h) h

end Companion.Text
