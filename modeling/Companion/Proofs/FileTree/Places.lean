import Mathlib
import Companion.FileTree

/-! What stands at the places of a folder. `kind? place` says whether a place holds a file, and
which contents it has, or a folder, or nothing; a folder's own contents are left to the places
behind it. Putting a file changes the kind of its own place and of no other (`kind?_put`), and leads
every path that led somewhere to the same place (`follow_of_folders`). -/
namespace Companion

/-- The contents of a file. -/
def Node.contents? : Node → Option ByteArray
  | .file contents => some contents
  | .folder _ => none

/-- A node with nothing in it that a further name could lead to. -/
def Node.IsBare : Node → Prop
  | .file _ => True
  | .folder inner => inner = .empty

namespace Folder

/-- What stands at a place: a file with its contents, a folder (`some none`), or nothing. -/
def kind? (f : Folder) (place : List RawText) : Option (Option ByteArray) :=
  (f.at? place).map Node.contents?

theorem kind?_eq_folder_iff {f : Folder} {place : List RawText} :
    f.kind? place = some none ↔ ∃ inner, f.at? place = some (.folder inner) := by
  unfold kind?
  rcases f.at? place with _ | ⟨_ | _⟩ <;> simp [Node.contents?]

theorem kind?_eq_none_iff {f : Folder} {place : List RawText} :
    f.kind? place = none ↔ f.at? place = none := by
  simp [kind?]

@[simp] theorem at?_nil (f : Folder) : f.at? [] = some (.folder f) := rfl

@[simp] theorem kind?_nil (f : Folder) : f.kind? [] = some none := rfl

/-! ### Entries -/

theorem node?_cons (name n : RawText) (node : Node) (rest : Folder) :
    (cons name node rest).node? n = if name = n then some node else rest.node? n := by
  cases node <;> rfl

theorem insert_cons (name m : RawText) (node entry : Node) (rest : Folder) :
    (cons m entry rest).insert name node =
      if name < m then cons name node (cons m entry rest)
      else if m < name then cons m entry (rest.insert name node)
      else cons name node rest := by
  cases entry <;> rfl

theorem node?_insert_cons {name n m : RawText} {node entry : Node} {rest : Folder}
    (ih : (rest.insert name node).node? n = if name = n then some node else rest.node? n) :
    ((cons m entry rest).insert name node).node? n =
      if name = n then some node else (cons m entry rest).node? n := by
  rw [insert_cons]
  split
  · exact node?_cons ..
  · split
    · next hlt =>
      rw [node?_cons, ih, node?_cons]
      by_cases hm : m = n
      · have hne : ¬ name = n := by
          rintro rfl
          exact RawText.lt_irrefl _ (hm ▸ hlt)
        simp [hm, hne]
      · simp [hm]
    · next h₁ h₂ =>
      obtain rfl := RawText.eq_of_not_lt h₁ h₂
      rw [node?_cons, node?_cons]
      by_cases hn : name = n <;> simp [hn]

theorem node?_insert (name n : RawText) (node : Node) (f : Folder) :
    (f.insert name node).node? n = if name = n then some node else f.node? n := by
  induction f with
  | empty => exact node?_cons ..
  | file m contents rest ih => exact @node?_insert_cons _ _ m _ (.file contents) _ ih
  | folder m inner rest _ ih => exact @node?_insert_cons _ _ m _ (.folder inner) _ ih

/-! ### Places behind places -/

theorem at?_append {f inner : Folder} {place : List RawText}
    (h : f.at? place = some (.folder inner)) (rest : List RawText) :
    f.at? (place ++ rest) = inner.at? rest := by
  induction place generalizing f with
  | nil =>
    obtain rfl : f = inner := by simpa using h
    rfl
  | cons name names ih =>
    rw [List.cons_append, at?]
    rw [at?] at h
    split at h
    · exact ih h
    · split at h <;> simp at h
    · simp at h

theorem ordered_of_at? {f inner : Folder} {place : List RawText} (hf : f.Ordered)
    (h : f.at? place = some (.folder inner)) : inner.Ordered := by
  induction place generalizing f with
  | nil =>
    obtain rfl : f = inner := by simpa using h
    exact hf
  | cons name names ih =>
    rw [at?] at h
    split at h
    · next g hg => exact ih (ordered_of_node? hf hg) h
    · split at h <;> simp at h
    · simp at h

/-- What stands in front of something is a folder. -/
theorem folder_of_at?_append {f : Folder} {place rest : List RawText} {node : Node}
    (hrest : rest ≠ []) (h : f.at? (place ++ rest) = some node) :
    ∃ inner, f.at? place = some (.folder inner) := by
  induction place generalizing f with
  | nil => exact ⟨f, rfl⟩
  | cons name names ih =>
    rw [List.cons_append, at?] at h
    rw [at?]
    split at h
    · exact ih h
    · simp [hrest] at h
    · simp at h

theorem folder_of_kind?_append {f : Folder} {place rest : List RawText} {k : Option ByteArray}
    (hrest : rest ≠ []) (h : f.kind? (place ++ rest) = some k) : f.kind? place = some none := by
  obtain ⟨node, hnode, -⟩ := Option.map_eq_some_iff.1 h
  exact kind?_eq_folder_iff.2 (folder_of_at?_append hrest hnode)

/-- Nothing stands behind a place that holds no folder. -/
theorem kind?_append_eq_none {f : Folder} {place rest : List RawText} (hrest : rest ≠ [])
    (h : f.kind? place ≠ some none) : f.kind? (place ++ rest) = none := by
  by_contra hsome
  obtain ⟨k, hk⟩ := Option.ne_none_iff_exists'.1 hsome
  exact h (folder_of_kind?_append hrest hk)

/-! ### Putting a file or a folder -/

theorem modify_at? {change : Folder → Folder} {f inner : Folder} {place : List RawText}
    (h : f.at? place = some (.folder inner)) (rest : List RawText) :
    (f.modify change place).at? (place ++ rest) = (change inner).at? rest := by
  induction place generalizing f with
  | nil =>
    obtain rfl : f = inner := by simpa using h
    rfl
  | cons name names ih =>
    rw [at?] at h
    split at h
    · next g hg =>
      simp only [modify, hg, List.cons_append]
      rw [at?, node?_insert, if_pos rfl]
      exact ih h
    · split at h <;> simp at h
    · simp at h

/-- A change to a folder does not change the kind of what lies outside of it. -/
theorem kind?_modify_elsewhere {change : Folder → Folder} {f : Folder} {place q : List RawText}
    (hq : ¬ place <+: q) : (f.modify change place).kind? q = f.kind? q := by
  induction place generalizing f q with
  | nil => exact absurd List.nil_prefix hq
  | cons name names ih =>
    rw [modify]
    split
    · next g hg =>
      cases q with
      | nil => rfl
      | cons m q =>
        rw [kind?, kind?, at?, at?, node?_insert]
        by_cases hm : name = m
        · subst hm
          have hq' : ¬ names <+: q := fun hpre => hq (List.cons_prefix_cons.2 ⟨rfl, hpre⟩)
          rw [if_pos rfl, hg]
          exact ih hq'
        · rw [if_neg hm]
    · rfl

/-- A bare node that is put at a place stands there, and every other place keeps its kind. There has
to be a folder for it, and no folder may stand in its place. -/
theorem kind?_put_bare {f : Folder} {dir : List RawText} {name : RawText} {node : Node}
    (hnode : node.IsBare) (hdir : f.kind? dir = some none)
    (hfree : f.kind? (dir ++ [name]) ≠ some none) (q : List RawText) :
    (f.put (dir ++ [name]) node).kind? q =
      if q = dir ++ [name] then some node.contents? else f.kind? q := by
  obtain ⟨inner, hinner⟩ := kind?_eq_folder_iff.1 hdir
  have hput : f.put (dir ++ [name]) node = f.modify (insert name node) dir := by
    simp [put]
  rw [hput]
  by_cases hpre : dir <+: q
  · obtain ⟨rest, rfl⟩ := hpre
    have hnew := @modify_at? (insert name node) _ _ _ hinner rest
    have hold := at?_append hinner rest
    cases rest with
    | nil =>
      rw [kind?, hnew, if_neg (by simp), kind?, hold]
      rfl
    | cons m rest =>
      rw [kind?, hnew, at?, node?_insert]
      by_cases hm : name = m
      · subst hm
        rw [if_pos rfl]
        cases rest with
        | nil => cases node <;> simp [Node.contents?]
        | cons n rest =>
          have hsplit : dir ++ name :: n :: rest = (dir ++ [name]) ++ n :: rest := by simp
          rw [if_neg (by simp), hsplit, kind?_append_eq_none (by simp) hfree]
          cases node with
          | file contents => rfl
          | folder inner =>
            obtain rfl : inner = .empty := hnode
            rfl
      · have hne : ¬ dir ++ m :: rest = dir ++ [name] := by
          intro h
          have := List.append_cancel_left h
          exact hm (List.cons.inj this).1.symm
        rw [if_neg hm, if_neg hne, kind?, hold, at?]
  · rw [kind?_modify_elsewhere hpre, if_neg]
    rintro rfl
    exact hpre (List.prefix_append dir [name])

/-- **A file that is put at a place stands there, and every other place keeps its kind.** -/
theorem kind?_put {f : Folder} {dir : List RawText} {name : RawText} {contents : ByteArray}
    (hdir : f.kind? dir = some none) (hfree : f.kind? (dir ++ [name]) ≠ some none)
    (q : List RawText) :
    (f.put (dir ++ [name]) (.file contents)).kind? q =
      if q = dir ++ [name] then some (some contents) else f.kind? q := by
  have hbare : (Node.file contents).IsBare := trivial
  exact kind?_put_bare hbare hdir hfree q

/-! ### Following paths -/

theorem follow_append (f : Folder) (here : List RawText) (a b : List (List UInt8)) :
    f.follow here (a ++ b) = (f.follow here a).bind fun place => f.follow place b := by
  induction a generalizing here with
  | nil => rfl
  | cons part a ih =>
    rw [List.cons_append, follow, follow]
    split
    · rfl
    · rfl
    · split
      · exact ih here
      · split
        · exact ih _
        · exact ih _

/-- A path keeps its place as long as the folders on its way stay folders. -/
theorem follow_of_folders {f g : Folder}
    (hfolders : ∀ q, f.kind? q = some none → g.kind? q = some none) {here place : List RawText}
    {parts : List (List UInt8)} (h : f.follow here parts = .ok place) :
    g.follow here parts = .ok place := by
  induction parts generalizing here with
  | nil => exact h
  | cons part parts ih =>
    rw [follow] at h ⊢
    split at h
    · cases h
    · cases h
    · next inner hinner =>
      obtain ⟨inner', hinner'⟩ :=
        kind?_eq_folder_iff.1 (hfolders here (kind?_eq_folder_iff.2 ⟨inner, hinner⟩))
      rw [hinner']
      split at h
      · next hidle => rw [if_pos hidle]; exact ih h
      · next hidle =>
        rw [if_neg hidle]
        split at h
        · next hparent => rw [if_pos hparent]; exact ih h
        · next hparent => rw [if_neg hparent]; exact ih h

end Folder
end Companion
