import Mathlib
import Companion.Source.Grammar.Basic

/-! Readers go forward. What a reader leaves is the end of the tokens that it was given: it makes up
no token and takes none back. This holds of what takes one token and passes from the parts of a
reader to the whole (`Within.bind`, `forward_many`), so that it holds of every rule if it holds of
the rules that take part in it. -/
namespace Companion.Source

/-- What is left of the tokens behind a part that has been read. -/
class Leaves (β : Type) where
  rest : β → Tokens

instance : Leaves Tokens := ⟨id⟩

instance {α : Type} : Leaves (α × Tokens) := ⟨Prod.snd⟩

/-- A result, if there is one, leaves an end of the whole. -/
def Within {β : Type} [Leaves β] (whole : Tokens) (r : Option β) : Prop :=
  ∀ b, r = some b → Leaves.rest b <:+ whole

/-- A reader that is given an end of the whole leaves an end of the whole. -/
def Forward {β : Type} [Leaves β] (whole : Tokens) (read : Tokens → Option β) : Prop :=
  ∀ ts, ts <:+ whole → Within whole (read ts)

/-- All readers go forward. -/
def Readers.Forward (g : Readers) (whole : Tokens) : Prop := ∀ rule, Source.Forward whole (g rule)

variable {α β γ : Type} [Leaves β] [Leaves γ] {whole ts : Tokens}

/-! ### Results -/

namespace Within

theorem none : Within whole (none : Option β) := by
  intro b h
  cases h

theorem some {b : β} (h : Leaves.rest b <:+ whole) : Within whole (some b) := by
  intro b' hb
  obtain rfl := Option.some.inj hb
  exact h

theorem pure {b : β} (h : Leaves.rest b <:+ whole) : Within whole (Pure.pure b : Option β) := some h

theorem bind {r : Option Tokens} {f : Tokens → Option γ} (h : Within whole r)
    (hf : ∀ ts, ts <:+ whole → Within whole (f ts)) : Within whole (r >>= f) := by
  cases r with
  | none => exact none
  | some ts => exact hf ts (h ts rfl)

theorem bindPair {r : Option (α × Tokens)} {f : α × Tokens → Option γ} (h : Within whole r)
    (hf : ∀ a ts, ts <:+ whole → Within whole (f (a, ts))) : Within whole (r >>= f) := by
  cases r with
  | none => exact none
  | some b => exact hf b.1 b.2 (h b rfl)

theorem map {r : Option β} {f : β → γ} (h : Within whole r)
    (hf : ∀ b, Leaves.rest (f b) = Leaves.rest b) : Within whole (r.map f) := by
  cases r with
  | none => exact none
  | some b => exact some (hf b ▸ h b rfl)

theorem snd {r : Option (α × Tokens)} (h : Within whole r) : Within whole (r.map Prod.snd) :=
  h.map fun _ => rfl

theorem ite {c : Prop} {_ : Decidable c} {r r' : Option β} (h : Within whole r)
    (h' : Within whole r') :
    Within whole (if c then r else r') := by
  split
  · exact h
  · exact h'

end Within

/-! ### Taking tokens -/

theorem suffix_drop (h : ts <:+ whole) (n : Nat) : ts.drop n <:+ whole :=
  (List.drop_suffix n ts).trans h

theorem suffix_of_cons {t : Token} (h : t :: ts <:+ whole) : ts <:+ whole :=
  (List.suffix_cons t ts).trans h

theorem suffix_ite {c : Prop} {_ : Decidable c} {us : Tokens} (h : ts <:+ whole)
    (h' : us <:+ whole) :
    (if c then ts else us) <:+ whole := by
  split
  · exact h
  · exact h'

theorem forward_eatPunct (operator : String) : Forward whole (eatPunct operator) :=
  fun _ hts => .ite (.some (suffix_drop hts _)) .none

theorem forward_eatWord (word : String) : Forward whole (eatWord word) :=
  fun _ hts => .ite (.some (suffix_drop hts _)) .none

theorem forward_eatOpening (d : Delimiter) : Forward whole (eatOpening d) :=
  fun _ hts => .ite (.some (suffix_drop hts _)) .none

theorem forward_eatClosing (d : Delimiter) : Forward whole (eatClosing d) := by
  intro ts hts
  unfold eatClosing
  split
  · exact .ite (.some (suffix_of_cons hts)) .none
  · exact .none

theorem forward_eatIdentifier : Forward whole eatIdentifier := by
  intro ts hts
  unfold eatIdentifier
  split
  · exact .ite (.some (suffix_of_cons hts)) .none
  · exact .none

theorem forward_eatAnyWord : Forward whole eatAnyWord := by
  intro ts hts
  unfold eatAnyWord
  split
  · exact .some (suffix_of_cons hts)
  · exact .none

theorem forward_eatLifetime : Forward whole eatLifetime := by
  intro ts hts
  unfold eatLifetime
  split
  · exact .some (suffix_of_cons hts)
  · exact .none

theorem forward_eatLiteral : Forward whole eatLiteral := by
  intro ts hts
  unfold eatLiteral
  split
  · exact .some (suffix_of_cons hts)
  · exact .ite (.some (suffix_of_cons hts)) .none
  · exact .some (suffix_of_cons (suffix_of_cons hts))
  · exact .some (suffix_of_cons (suffix_of_cons hts))
  · exact .none

/-- What may be left out leaves an end of the whole in any case. -/
theorem suffix_getD {read : Tokens → Option Tokens} (h : Forward whole read) (hts : ts <:+ whole) :
    (read ts).getD ts <:+ whole := by
  cases hread : read ts with
  | none => exact hts
  | some us => exact h ts hts us hread

theorem suffix_skipPunct (operator : String) (hts : ts <:+ whole) :
    skipPunct operator ts <:+ whole :=
  suffix_getD (forward_eatPunct operator) hts

theorem suffix_skipWord (word : String) (hts : ts <:+ whole) : skipWord word ts <:+ whole :=
  suffix_getD (forward_eatWord word) hts

theorem suffix_skipLifetime (hts : ts <:+ whole) : skipLifetime ts <:+ whole :=
  suffix_getD forward_eatLifetime hts

theorem suffix_behind (depth : Nat) (hts : ts <:+ whole) : behind depth ts <:+ whole := by
  fun_induction behind depth ts with
  | case1 => exact hts
  | case2 => exact hts
  | case3 _ _ _ ih => exact ih (suffix_of_cons hts)
  | case4 _ _ _ ih => exact ih (suffix_of_cons hts)
  | case5 _ _ _ _ _ ih => exact ih (suffix_of_cons hts)

theorem suffix_next (hts : ts <:+ whole) : next ts <:+ whole := by
  unfold next
  split
  · exact hts
  · exact suffix_behind 1 (suffix_of_cons hts)
  · exact suffix_of_cons hts

theorem forward_eatGroup : Forward whole eatGroup := by
  intro ts hts
  unfold eatGroup
  split
  · exact .some (suffix_behind 1 (suffix_of_cons hts))
  · exact .none

/-! ### Repetition -/

/-- What is read part by part leaves an end of the whole, and every part is read off such an end. -/
theorem manyFuel_spec {more : Tokens → Bool} {read : Tokens → Option (α × Tokens)}
    (hread : Forward whole read) {P : α → Prop}
    (hP : ∀ ts, ts <:+ whole → ∀ a us, read ts = some (a, us) → P a) (fuel : Nat)
    (hts : ts <:+ whole) : ∀ as us, manyFuel more read fuel ts = some (as, us) →
      us <:+ whole ∧ ∀ a ∈ as, P a := by
  induction fuel generalizing ts with
  | zero =>
    intro as us h
    cases h
  | succ fuel ih =>
    intro as us h
    rw [manyFuel] at h
    split at h
    · split at h
      · next a us' hfirst =>
        obtain ⟨⟨as', us''⟩, hrest, heq⟩ := Option.map_eq_some_iff.1 h
        obtain ⟨rfl, rfl⟩ := Prod.mk.inj heq
        obtain ⟨hus, has⟩ := ih (hread ts hts (a, us') hfirst) as' us'' hrest
        exact ⟨hus, List.forall_mem_cons.2 ⟨hP ts hts a us' hfirst, has⟩⟩
      · cases h
    · obtain ⟨rfl, rfl⟩ := Prod.mk.inj (Option.some.inj h)
      exact ⟨hts, by simp⟩

theorem forward_many (more : Tokens → Bool) {read : Tokens → Option (α × Tokens)}
    (hread : Forward whole read) : Forward whole (many more read) := by
  intro ts hts b h
  exact (manyFuel_spec hread (P := fun _ => True) (by simp) _ hts b.1 b.2 h).1

theorem forall_mem_of_many {more : Tokens → Bool} {read : Tokens → Option (α × Tokens)}
    (hread : Forward whole read) {P : α → Prop}
    (hP : ∀ ts, ts <:+ whole → ∀ a us, read ts = some (a, us) → P a) (hts : ts <:+ whole)
    {as : List α} {us : Tokens} (h : many more read ts = some (as, us)) :
    ∀ a ∈ as, P a :=
  (manyFuel_spec hread hP _ hts as us h).2

theorem forward_commaList {read : Tokens → Option (α × Tokens)} (hread : Forward whole read) :
    Forward whole (commaList read) := by
  refine forward_many _ fun ts hts => ?_
  refine .bindPair (hread ts hts) fun a ts hts => .ite (.pure hts) ?_
  exact .bind (forward_eatPunct "," ts hts) fun _ hts => .pure hts

theorem forward_between (d : Delimiter) {read : Tokens → Option (α × Tokens)}
    (hread : Forward whole read) : Forward whole (between d read) := by
  intro ts hts
  refine .bind (forward_eatOpening d ts hts) fun ts hts => ?_
  refine .bindPair (hread ts hts) fun a ts hts => ?_
  exact .bind (forward_eatClosing d ts hts) fun _ hts => .pure hts

theorem forward_optionally (here : Bool) {read : Tokens → Option Tokens}
    (hread : Forward whole read) :
    Forward whole (optionally here read) :=
  fun ts hts => .ite (hread ts hts) (.some hts)

theorem Readers.Forward.skip {g : Readers} (hg : g.Forward whole) (rule : Rule) :
    Source.Forward whole (g.skip rule) :=
  fun ts hts => (hg rule ts hts).snd

theorem forward_modulePath : Forward whole modulePath := by
  intro ts hts
  have hstep : Forward whole fun ts => if peekIdentifier ts || peekPathKeyword ts then eatAnyWord ts
    else none :=
    fun ts hts => .ite (forward_eatAnyWord ts hts) .none
  refine .bindPair (hstep _ (suffix_skipPunct "::" hts)) fun _ ts hts => ?_
  refine .bindPair (forward_many _ (fun ts hts => ?_) ts hts) fun _ ts hts => .pure hts
  exact .bind (forward_eatPunct "::" ts hts) fun ts hts => hstep ts hts

end Companion.Source
