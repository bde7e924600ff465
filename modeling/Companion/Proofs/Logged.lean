import Mathlib
import Companion.Logged

/-! Computations that report and may fail, one after the other. How they are bracketed does not
matter (`bind_assoc`). A list of them succeeds when each does, and else fails as the first one does
that fails (`each_eq_ok_iff`, `each_eq_error_iff`). -/
namespace Companion.Logged

variable {ε α β γ ι : Type}

/-! ### Laws -/

theorem pure_bind (a : α) (f : α → Logged ε β) : pure a >>= f = f a := rfl

theorem bind_pure (x : Logged ε α) : x >>= pure = x := by
  obtain ⟨events, _ | a⟩ := x
  · rfl
  · show Logged.mk (events ++ []) (.ok a) = _
    rw [List.append_nil]

theorem bind_assoc (x : Logged ε α) (f : α → Logged ε β) (g : β → Logged ε γ) :
    (x >>= f) >>= g = x >>= fun a => f a >>= g := by
  obtain ⟨events, _ | a⟩ := x
  · rfl
  · show Logged.bind (Logged.bind _ f) g = Logged.bind _ fun a => Logged.bind (f a) g
    simp only [Logged.bind]
    cases (f a).result with
    | error e => rfl
    | ok b => simp only [List.append_assoc]

/-! ### One after the other -/

variable {one : ι → Logged ε α} {is : List ι}

/-- Computations one after the other, with all that they give; the first error ends them. -/
def each (one : ι → Logged ε α) : List ι → Logged ε (List α)
  | [] => return []
  | i :: is => do
    let first ← one i
    let others ← each one is
    return first :: others

theorem each_eq_ok_iff {found : List α} :
    (each one is).result = .ok found ↔
      List.Forall₂ (fun i a => (one i).result = .ok a) is found := by
  induction is generalizing found with
  | nil => simp [each, eq_comm]
  | cons i is ih =>
    rw [each, List.forall₂_cons_left_iff]
    constructor
    · intro h
      obtain ⟨first, hfirst, h⟩ := result_bind_eq_ok_iff.1 h
      obtain ⟨others, hothers, h⟩ := result_bind_eq_ok_iff.1 h
      exact ⟨first, others, hfirst, ih.1 hothers, (Except.ok.inj h).symm⟩
    · rintro ⟨first, others, hfirst, hothers, rfl⟩
      refine result_bind_eq_ok_iff.2 ⟨first, hfirst, ?_⟩
      exact result_bind_eq_ok_iff.2 ⟨others, ih.2 hothers, rfl⟩

/-- The error of several computations is that of the first which fails. -/
theorem each_eq_error_iff {e : ε} : (each one is).result = .error e ↔
    ∃ before i after, is = before ++ i :: after ∧ (∀ j ∈ before, ∃ a, (one j).result = .ok a) ∧
      (one i).result = .error e := by
  induction is with
  | nil => simp [each]
  | cons i is ih =>
    rw [each, result_bind_eq_error_iff]
    constructor
    · rintro (hfirst | ⟨first, hfirst, hrest⟩)
      · exact ⟨[], i, is, rfl, by simp, hfirst⟩
      · rcases result_bind_eq_error_iff.1 hrest with hrest | ⟨others, -, hpure⟩
        · obtain ⟨before, j, after, rfl, hbefore, hj⟩ := ih.1 hrest
          exact ⟨i :: before, j, after, rfl, List.forall_mem_cons.2 ⟨⟨first, hfirst⟩, hbefore⟩, hj⟩
        · cases hpure
    · rintro ⟨before, j, after, hcut, hbefore, hj⟩
      cases before with
      | nil =>
        obtain ⟨rfl, -⟩ := List.cons.inj hcut
        exact Or.inl hj
      | cons k before =>
        obtain ⟨rfl, rfl⟩ := List.cons.inj hcut
        obtain ⟨⟨first, hfirst⟩, hbefore⟩ := List.forall_mem_cons.1 hbefore
        have hrest := ih.2 ⟨before, j, after, rfl, hbefore, hj⟩
        exact Or.inr ⟨first, hfirst, result_bind_eq_error_iff.2 (Or.inl hrest)⟩

end Companion.Logged
