import Mathlib
import Companion.Proofs.Run.Discovery

/-! Trees made file by file. Where a path leads can be read off its parts (`follow_eq_walk`): the
tree only says whether it leads there at all. So a file that is put into a tree adds its own place
to the places of files, whatever else stands in the tree (`grows_put`), and the files of a tree that
is made by putting files are those of the tree at first and those that were put, in whichever order
(`grows_putAll`). -/
namespace Companion

namespace Folder

/-! ### Places read off paths -/

/-- The place that the parts of a path lead to from `here`, if they lead anywhere. -/
def walk : List RawText → List (List UInt8) → List RawText
  | here, [] => here
  | here, part :: parts =>
    if Path.isIdle part then walk here parts
    else if part = [Path.dot, Path.dot] then walk here.dropLast parts
    else walk (here ++ [RawText.ofList part]) parts

theorem follow_eq_walk {f : Folder} {here place : List RawText} {parts : List (List UInt8)}
    (h : f.follow here parts = .ok place) : place = walk here parts := by
  fun_induction follow f here parts with
  | case1 => exact (Except.ok.inj h).symm
  | case2 => cases h
  | case3 => cases h
  | case4 here part parts inner hinner hidle ih =>
    rw [walk, if_pos hidle]
    exact ih h
  | case5 here parts inner hinner hidle ih =>
    rw [walk, if_neg hidle, if_pos rfl]
    exact ih h
  | case6 here part parts inner hinner hidle hparent ih =>
    rw [walk, if_neg hidle, if_neg hparent]
    exact ih h

/-! ### Growing folders -/

/-- The folder `g` has the folders of `f`, and as files those of `f` and those at the places
`added`. -/
structure Grows (f g : Folder) (added : List (List RawText)) : Prop where
  folder : ∀ q, f.kind? q = some none → g.kind? q = some none
  hasFile_iff : ∀ q, g.HasFile q ↔ f.HasFile q ∨ q ∈ added

theorem Grows.refl (f : Folder) : f.Grows f [] where
  folder _ h := h
  hasFile_iff q := by simp

theorem Grows.trans {f g h : Folder} {a b : List (List RawText)} (hfg : f.Grows g a)
    (hgh : g.Grows h b) :
    f.Grows h (a ++ b) where
  folder q hq := hgh.folder q (hfg.folder q hq)
  hasFile_iff q := by rw [hgh.hasFile_iff, hfg.hasFile_iff, List.mem_append, or_assoc]

theorem kind?_put_folder {f : Folder} {dir : List RawText} {name : RawText}
    (hdir : f.kind? dir = some none) (hnone : f.kind? (dir ++ [name]) = none) (q : List RawText) :
    (f.put (dir ++ [name]) (.folder .empty)).kind? q = if q = dir ++ [name] then some none
      else f.kind? q := by
  have hbare : (Node.folder .empty).IsBare := rfl
  have hfree : f.kind? (dir ++ [name]) ≠ some none := by simp [hnone]
  exact kind?_put_bare hbare hdir hfree q

theorem grows_put_folder {f : Folder} {dir : List RawText} {name : RawText}
    (hdir : f.kind? dir = some none) (hnone : f.kind? (dir ++ [name]) = none) :
    f.Grows (f.put (dir ++ [name]) (.folder .empty)) [] := by
  constructor
  · intro q hq
    rw [kind?_put_folder hdir hnone]
    split
    · rfl
    · exact hq
  · intro q
    rw [HasFile, HasFile, kind?_put_folder hdir hnone]
    split
    · next hq => simp [hq, hnone]
    · simp

theorem grows_put_file {f : Folder} {dir : List RawText} {name : RawText} (contents : ByteArray)
    (hdir : f.kind? dir = some none) (hfree : f.kind? (dir ++ [name]) ≠ some none) :
    f.Grows (f.put (dir ++ [name]) (.file contents)) [dir ++ [name]] := by
  constructor
  · intro q hq
    rw [kind?_put hdir hfree, if_neg]
    · exact hq
    · rintro rfl
      exact hfree hq
  · intro q
    rw [HasFile, HasFile, kind?_put hdir hfree]
    split
    · next hq => simp [hq]
    · next hq => simp [hq]

/-- Making folders adds no file and takes nothing away. -/
theorem grows_make {root made : Folder} {here : List RawText} {parts : List (List UInt8)}
    (hhere : root.kind? here = some none) (h : root.make here parts = .ok made) :
    root.Grows made [] := by
  fun_induction make root here parts with
  | case1 =>
    cases h
    exact Grows.refl _
  | case2 _ _ _ _ _ ih => exact ih hhere h
  | case3 _ _ _ _ ih => exact ih (folder_dropLast hhere) h
  | case4 root here part parts _ _ place hnone ih =>
    have hnone : root.kind? (here ++ [RawText.ofList part]) = none := kind?_eq_none_iff.2 hnone
    have hnew : (root.put place (.folder .empty)).kind? place = some none := by
      rw [kind?_put_folder hhere hnone, if_pos rfl]
    exact (grows_put_folder hhere hnone).trans (ih hnew h)
  | case5 _ _ _ _ _ _ place inner hinner ih => exact ih (kind?_eq_folder_iff.2 ⟨inner, hinner⟩) h
  | case6 => cases h

end Folder

namespace FileTree

/-! ### Putting files -/

/-- The place of the file that is written at a path. -/
def filePlace (p : Path) : List RawText := Folder.walk [] (openParts p).1

theorem grows_makeFolder {t t' : FileTree} {p : Path} (h : t.makeFolder p = .ok t') :
    t.root.Grows t'.root [] := by
  unfold makeFolder at h
  split at h
  · next root hmade =>
    cases h
    exact Folder.grows_make (Folder.kind?_nil t.root) hmade
  · cases h

theorem grows_write {t t' : FileTree} {p : Path} {contents : ByteArray}
    (h : t.write p contents = .ok t') :
    t.root.Grows t'.root [filePlace p] := by
  unfold write at h
  split at h
  · cases h
  · split at h
    · cases h
    · next place hplace =>
      split at h
      · cases h
      · next hfree =>
        split at h
        · cases h
        · cases h
          have hkind : t.root.kind? place ≠ some none := by
            intro hfolder
            obtain ⟨inner, hinner⟩ := Folder.kind?_eq_folder_iff.1 hfolder
            exact hfree inner hinner
          obtain ⟨-, last, dir, -, -, -, -, hdir, hcut⟩ := Folder.ends_in_name hplace hkind
          have hwalk : filePlace p = dir ++ [RawText.ofList last] := by
            rw [filePlace, ← Folder.follow_eq_walk hplace, hcut]
          rw [hwalk]
          subst hcut
          exact Folder.grows_put_file contents hdir hkind

/-- **A file that is put into a tree adds its own place to the places of files.** -/
theorem grows_put {t t' : FileTree} {p : Path} {contents : ByteArray}
    (h : t.put p contents = .ok t') :
    t.root.Grows t'.root [filePlace p] := by
  unfold put at h
  cases hmade : t.makeFolder p.directory with
  | error e => rw [hmade] at h; cases h
  | ok made =>
    rw [hmade] at h
    exact (grows_makeFolder hmade).trans (grows_write h)

/-- The tree with files put into it, one after the other. -/
def putAll (t : FileTree) (files : List (Path × ByteArray)) : Except FileError FileTree :=
  files.foldlM (fun t file => t.put file.1 file.2) t

/-- **Files that are put into a tree add their places to the places of files.** -/
theorem grows_putAll {t t' : FileTree} {files : List (Path × ByteArray)}
    (h : t.putAll files = .ok t') :
    t.root.Grows t'.root (files.map fun file => filePlace file.1) := by
  induction files generalizing t with
  | nil =>
    obtain rfl : t = t' := Except.ok.inj h
    exact Folder.Grows.refl t.root
  | cons file files ih =>
    rw [putAll, List.foldlM_cons] at h
    cases hput : t.put file.1 file.2 with
    | error e => rw [hput] at h; cases h
    | ok next =>
      rw [hput] at h
      exact (grows_put hput).trans (ih h)

/-- Whether a file stands at a place does not depend on the order in which the files were put. -/
theorem hasFile_of_perm {t t₁ t₂ : FileTree} {files₁ files₂ : List (Path × ByteArray)}
    (hperm : files₁.Perm files₂) (h₁ : t.putAll files₁ = .ok t₁) (h₂ : t.putAll files₂ = .ok t₂)
    (place : List RawText) : t₁.root.HasFile place ↔ t₂.root.HasFile place := by
  rw [(grows_putAll h₁).hasFile_iff, (grows_putAll h₂).hasFile_iff, (hperm.map _).mem_iff]

end FileTree
end Companion
