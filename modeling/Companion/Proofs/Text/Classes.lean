import Mathlib
import Companion.Directive.Reader

/-! Which characters the classes of the directive grammar keep apart. Names, blanks and the marks of
the grammar exclude each other, so where one of them ends is decided by the next character alone
(`Stops`). The tables are compared code point by code point on the side of the blanks, of which
there are few. -/
namespace Companion

namespace Text

/-- The code points of the ranges, one by one. -/
def Ranges.codes (r : Ranges) : List Nat := r.flatMap fun p => List.range' p.1 (p.2 + 1 - p.1)

theorem Ranges.mem_codes_of_has {r : Ranges} {n : Nat} (h : r.has n = true) : n ∈ r.codes := by
  induction r with
  | nil => simp [Ranges.has] at h
  | cons p rest ih =>
    obtain ⟨low, high⟩ := p
    simp only [Ranges.codes, List.flatMap_cons, List.mem_append]
    rw [Ranges.has] at h
    split at h
    · simp at h
    · split at h
      · left
        rw [List.mem_range'_1]
        omega
      · exact Or.inr (ih h)

/-- A further character of class `p` does not follow. -/
def Stops (p : Char → Bool) (rest : List Char) : Prop := ∀ c, rest.head? = some c → p c = false

theorem stops_nil (p : Char → Bool) : Stops p [] := by
  intro c hc
  simp at hc

theorem stops_cons {p : Char → Bool} {c : Char} (h : p c = false) (rest : List Char) :
    Stops p (c :: rest) := by
  intro d hd
  obtain rfl : c = d := by simpa using hd
  exact h

theorem stops_dropWhile (p : Char → Bool) (cs : List Char) : Stops p (cs.dropWhile p) := by
  intro c hc
  have := List.head?_dropWhile_not p cs
  rw [hc] at this
  exact this

theorem dropWhile_of_stops {p : Char → Bool} {rest : List Char} (h : Stops p rest) :
    rest.dropWhile p = rest := by
  cases rest with
  | nil => rfl
  | cons c cs => simp [h c rfl]

/-- A run of a class is taken whole where the class stops behind it. -/
theorem takeWhile_append_stops {p : Char → Bool} {run rest : List Char}
    (hrun : ∀ c ∈ run, p c = true) (hrest : Stops p rest) : (run ++ rest).takeWhile p = run := by
  rw [List.takeWhile_append_of_pos hrun]
  cases rest with
  | nil => simp
  | cons c cs => simp [hrest c rfl]

theorem dropWhile_append_stops {p : Char → Bool} {run rest : List Char}
    (hrun : ∀ c ∈ run, p c = true) (hrest : Stops p rest) : (run ++ rest).dropWhile p = rest := by
  rw [List.dropWhile_append_of_pos hrun, dropWhile_of_stops hrest]

/-- Nothing but blanks. -/
def Blanks (cs : List Char) : Prop := ∀ c ∈ cs, isBlank c = true

theorem blanks_nil : Blanks [] := by
  intro c hc
  simp at hc

theorem skipBlanks_append {blanks rest : List Char} (h : Blanks blanks) :
    skipBlanks (blanks ++ rest) = skipBlanks rest := List.dropWhile_append_of_pos h

/-- A text is its blanks and what follows them. -/
theorem exists_blanks (cs : List Char) : ∃ blanks, Blanks blanks ∧ cs = blanks ++ skipBlanks cs :=
  ⟨cs.takeWhile isBlank, fun _ hc => List.mem_takeWhile_imp hc,
    List.takeWhile_append_dropWhile.symm⟩

theorem blank_codes_apart :
    whiteSpace.codes.all (fun n => !alphabetic.has n && !numeric.has n && n != 0x5f && n != 0x2d) =
      true := by
  decide +kernel

end Text

namespace Directive
open Text

/-- Blanks neither start nor continue a name. -/
theorem not_isNameContinue_of_blank {c : Char} (h : isBlank c = true) :
    isNameContinue c = false := by
  have apart := List.all_eq_true.1 blank_codes_apart c.toNat (Ranges.mem_codes_of_has h)
  simp only [Bool.and_eq_true, Bool.not_eq_true', bne_iff_ne, ne_eq] at apart
  obtain ⟨⟨⟨halpha, hnum⟩, hlow⟩, hhyphen⟩ := apart
  have hu : c ≠ '_' := by
    rintro rfl
    exact hlow rfl
  have hm : c ≠ '-' := by
    rintro rfl
    exact hhyphen rfl
  simp [isNameContinue, isAlphabetic, isNumeric, halpha, hnum, hu, hm]

theorem isNameContinue_of_isNameStart {c : Char} (h : isNameStart c = true) :
    isNameContinue c = true := by
  simp only [isNameStart, Bool.or_eq_true] at h
  rcases h with h | h <;> simp [isNameContinue, h]

theorem not_isNameStart_of_not_continue {c : Char} (h : isNameContinue c = false) :
    isNameStart c = false := by
  cases hs : isNameStart c with
  | false => rfl
  | true => rw [isNameContinue_of_isNameStart hs] at h; exact h

theorem not_blank_of_isNameStart {c : Char} (h : isNameStart c = true) : isBlank c = false := by
  cases hb : isBlank c with
  | false => rfl
  | true =>
    rw [not_isNameStart_of_not_continue (not_isNameContinue_of_blank hb)] at h
    exact h.symm

theorem isBlank_of_isMarkerSpace {c : Char} (h : isMarkerSpace c = true) : isBlank c = true := by
  simp only [isMarkerSpace, Bool.or_eq_true, beq_iff_eq] at h
  rcases h with ((rfl | rfl) | rfl) | rfl <;> rfl

end Directive
end Companion
